import RepoCensus.Proofs.World.Journal

/-!
# What programs do

A deed is a step that was taken, with the answer that it got. A program plays deeds if it takes just these steps
when it gets just these answers.
-/

namespace RepoCensus

variable {τ Q R α : Type}

structure Deed (τ Q R : Type) where
  effect : Effect τ Q
  answer : effect.Answer R

namespace Deed

def requests (ds : List (Deed τ Q R)) : List Q := ds.flatMap fun d => d.effect.asked

theorem requests_append (ds ds' : List (Deed τ Q R)) : requests (ds ++ ds') = requests ds ++ requests ds' :=
  List.flatMap_append

/-- The answer to a request is one of those that may be heard. -/
def Hears (Heard : Q → Except (Fault τ) R → Prop) : Deed τ Q R → Prop
  | ⟨.ask q, a⟩ => Heard q a
  | _ => True

theorem hears_of_forall {Heard : Q → Except (Fault τ) R → Prop} {d : Deed τ Q R}
    (h : ∀ q a, d = ⟨.ask q, a⟩ → Heard q a) : d.Hears Heard := by
  obtain ⟨e, a⟩ := d
  cases e with
  | ask q => exact h q a rfl
  | _ => trivial

/-- Whoever looks at the flag finds it raised. -/
def FindsRaised (flag : Flag) : Deed τ Q R → Prop
  | ⟨.cancelled f, a⟩ => f = flag → a = true
  | _ => True

end Deed

namespace Program

/-- A program takes these steps, gets these answers, and this is left of it. -/
inductive Plays : Program τ Q R α → List (Deed τ Q R) → Program τ Q R α → Prop where
  | refl (p : Program τ Q R α) : Plays p [] p
  | act {e : Effect τ Q} {next : e.Answer R → Program τ Q R α} {a : e.Answer R} {ds : List (Deed τ Q R)}
      {p' : Program τ Q R α} (h : Plays (next a) ds p') : Plays (act e next) (⟨e, a⟩ :: ds) p'

/-- What is left of a program that came to its end, or that stalled. -/
def ended : Option α → Program τ Q R α
  | some a => done a
  | none => stalled

namespace Plays

variable {p p' p'' : Program τ Q R α} {ds ds' : List (Deed τ Q R)}

theorem trans (h : p.Plays ds p') (h' : p'.Plays ds' p'') : p.Plays (ds ++ ds') p'' := by
  induction h with
  | refl p => exact h'
  | act _ ih => exact .act (ih h')

theorem eq_of_nil (h : p.Plays [] p') : p' = p := by
  cases h
  rfl

theorem eq_nil_of_ended {a : Option α} (h : (ended a : Program τ Q R α).Plays ds p') : ds = [] := by
  cases a <;> cases h <;> rfl

theorem done_inj {a a' : α} (h : (done a : Program τ Q R α).Plays ds (done a')) : a' = a := by
  cases h
  rfl

/-- A program with a step to take that came to its end has taken it. -/
theorem exists_of_act {e : Effect τ Q} {next : e.Answer R → Program τ Q R α} {a : Option α}
    (h : (Program.act e next).Plays ds (ended a)) : ∃ x ds', ds = ⟨e, x⟩ :: ds' ∧ (next x).Plays ds' (ended a) := by
  generalize hp : (ended a : Program τ Q R α) = p at h
  cases h with
  | refl => cases a <;> cases hp
  | act h => exact ⟨_, _, rfl, h⟩

end Plays

end Program

end RepoCensus
