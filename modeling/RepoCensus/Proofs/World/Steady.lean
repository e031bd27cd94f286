import RepoCensus.Proofs.Budget.Means
import RepoCensus.Proofs.World.Journal
import RepoCensus.Proofs.World.Shown

/-!
# Steady services

A steady service gives each request its own answer, whatever happened before. Where nobody cancels the work, such
a service leaves its mark on nothing but the list of what it was asked.
-/

namespace RepoCensus

open RepoCensus.Calendar

variable {σ τ Q R α : Type}

namespace Surroundings

/-- The surroundings go on, but nobody cancels. -/
inductive Works (sur : Surroundings σ τ Q R) (o : σ) : σ → Prop where
  | idle {o' : σ} (h : sur.Idle o o') : Works sur o o'
  | serve (q : Q) : Works sur o (sur.serve q o).2

def Course (sur : Surroundings σ τ Q R) : σ → σ → Prop := Relation.ReflTransGen sur.Works

/-- The service gives each request its own answer, whatever happened before. -/
def Steady (sur : Surroundings σ τ Q R) (answer : Q → Except (Fault τ) R) : Prop :=
  ∀ q o, (sur.serve q o).1 = answer q

theorem Idles.course {sur : Surroundings σ τ Q R} {o o' : σ} (h : sur.Idles o o') : sur.Course o o' :=
  Relation.ReflTransGen.mono (fun _ _ => .idle) _ _ h

/-- At a quiet place nobody cancels, unless that was done before. -/
theorem stopped_of_course {answer : Q → Nat → Except (Fault Rat) R} {o o' : Hours} (h : (quiet answer).Course o o') :
    o'.stopped = o.stopped := by
  induction h with
  | refl => rfl
  | tail _ hworks ih =>
      cases hworks with
      | serve q => exact ih
      | idle hidle => cases hidle <;> exact ih

end Surroundings

/-! ## Work that nobody cancels -/

/-- Nobody cancels the work that looks at a flag. -/
structure World.Uncancelled (sur : Surroundings σ τ Q R) (flag : Option Flag) (w : World σ τ Q) : Prop where
  callers : flag = some .callers → ∀ o, sur.Course w.outside o → sur.cancelled o = false
  own : flag = some .own → w.ownFlag = false

namespace World.Uncancelled

variable {sur : Surroundings σ τ Q R} {flag : Option Flag} {w w' : World σ τ Q}

theorem unraised (h : w.Uncancelled sur flag) {f : Flag} (hf : flag = some f) : w.isRaised sur f = false := by
  cases f with
  | callers => exact h.callers hf _ .refl
  | own => exact h.own hf

theorem course (h : w.Uncancelled sur flag) (hcourse : sur.Course w.outside w'.outside)
    (hown : w'.ownFlag = w.ownFlag) :
    w'.Uncancelled sur flag :=
  ⟨fun hf o ho => h.callers hf o (hcourse.trans ho), fun hf => hown.trans (h.own hf)⟩

variable [Seconds τ]

theorem quiet (h : w.Uncancelled sur flag) {e : Effect τ Q} (he : e.isQuiet = true) :
    (w.perform sur e).2.Uncancelled sur flag :=
  h.course (w.idles_perform sur he).course (w.ownFlag_perform e)

theorem reserve (h : w.Uncancelled sur flag) (b : Bucket) (margin : Option Int) :
    (w.reserve sur b margin).2.Uncancelled sur flag :=
  h.course (w.idles_reserve sur b margin).course (w.ownFlag_perform (.reserve b margin))

theorem ask (h : w.Uncancelled sur flag) (q : Q) : (w.perform sur (.ask q)).2.Uncancelled sur flag :=
  h.course (.single (.serve q)) rfl

theorem update (h : w.Uncancelled sur flag) (b : Bucket) (budget : Budget τ) :
    (w.update b budget).2.Uncancelled sur flag := by
  have hsame : (w.update b budget).2.outside = w.outside ∧ (w.update b budget).2.ownFlag = w.ownFlag := by
    unfold World.update
    dsimp only
    split <;> exact ⟨rfl, rfl⟩
  refine h.course ?_ hsame.2
  rw [hsame.1]
  exact .refl

end World.Uncancelled

/-! ## What a service is asked -/

/-- The requests that were made, and the buckets from which they were paid. -/
structure Ledger (Q : Type) where
  asked : List Q
  granted : List Bucket

/-- The conduct of a steady service that tells no budget but such as a clock can show. -/
def Conduct.ledger [Seconds τ] (answer : Q → Except (Fault τ) R) : Conduct τ Q R (Ledger Q) where
  pays g b _ g' := g' = { g with granted := g.granted ++ [b] }
  asks g q a g' := a = answer q ∧ g' = { g with asked := g.asked ++ [q] }
  tells g _ budget told g' := (∃ moment, budget.resetMoment = .ok moment) ∧ told = .ok () ∧ g' = g

variable [Seconds τ]

/-- A permit is granted to whoever asks for it. -/
def World.Grants (sur : Surroundings σ τ Q R) (w : World σ τ Q) : Effect τ Q → Prop
  | .reserve b margin => ∃ permit, (w.reserve sur b margin).1 = .ok permit
  | _ => True

theorem World.update_of_resetMoment {w : World σ τ Q} {b : Bucket} {budget : Budget τ} {moment : Moment}
    (h : budget.resetMoment = .ok moment) : (w.update b budget).1 = .ok () := by
  have hwarning : ∀ t : Tracker τ, ∃ text, t.lowWarning budget = .ok text := by
    intro t
    unfold Tracker.lowWarning
    rw [h]
    split
    · exact ⟨_, rfl⟩
    · exact ⟨_, rfl⟩
  unfold World.update
  dsimp only
  split
  · rfl
  · rfl
  · rename_i why hwhy
    obtain ⟨text, htext⟩ := hwarning (w.registry.tracker b).1
    cases hwhy.symm.trans htext

/-- A world in which such a service is at work since the world `w₀`. -/
structure World.Keeps (sur : Surroundings σ τ Q R) (flag : Option Flag) (w₀ w : World σ τ Q) (g : Ledger Q) : Prop where
  uncancelled : w.Uncancelled sur flag
  records : w₀.Records g.asked g.granted w

theorem Conduct.shown_ledger {sur : Surroundings σ τ Q R} {answer : Q → Except (Fault τ) R}
    (hsteady : sur.Steady answer) (flag : Option Flag) (w₀ : World σ τ Q) :
    (Conduct.ledger answer).Shown sur flag (World.Grants sur) (World.Keeps sur flag w₀) where
  unraised h hf := h.uncancelled.unraised hf
  quiet {w g e} h he := by
    have hnone : e.asked = [] ∧ e.granted (w.perform sur e).1 = [] := by
      cases e <;> first | exact ⟨rfl, rfl⟩ | cases he
    have hrecords := h.records.trans (w.records_perform sur e)
    rw [hnone.1, hnone.2, List.append_nil, List.append_nil] at hrecords
    exact ⟨h.uncancelled.quiet he, hrecords⟩
  reserve {w g b margin} h hgrants _ := by
    obtain ⟨permit, hpermit⟩ := hgrants
    have hrecords := h.records.trans (w.records_reserve sur b margin)
    rw [hpermit, List.append_nil] at hrecords
    exact ⟨permit, _, hpermit, rfl, h.uncancelled.reserve b margin, hrecords⟩
  ask {w g q} h _ := by
    have hrecords := h.records.trans (w.records_perform sur (.ask q))
    rw [show Effect.granted (.ask q) (w.perform sur (.ask q)).1 = [] from rfl, List.append_nil] at hrecords
    exact ⟨_, ⟨hsteady q w.outside, rfl⟩, h.uncancelled.ask q, hrecords⟩
  update {w g b budget} h htells := by
    obtain ⟨_, _, ⟨moment, hmoment⟩, _, _⟩ := htells
    have hrecords := h.records.trans (w.records_update b budget)
    rw [List.append_nil, List.append_nil] at hrecords
    exact ⟨g, ⟨⟨moment, hmoment⟩, World.update_of_resetMoment hmoment, rfl⟩, h.uncancelled.update b budget, hrecords⟩

/-! ## Where nothing is in the way -/

/-- The conduct of a service whose answers depend on nothing but the requests. -/
def Conduct.steady (answer : Q → Except (Fault τ) R) : Conduct τ Q R Unit where
  pays _ _ _ _ := True
  asks _ q a _ := a = answer q
  tells _ _ _ _ _ := False

/-- Nobody cancels the work, and no budget is known. -/
structure World.Untouched (sur : Surroundings σ τ Q R) (flag : Option Flag) (w : World σ τ Q) : Prop where
  uncancelled : w.Uncancelled sur flag
  budgets : ∀ b, (w.tracker b).budget = none

theorem Conduct.shown_steady {sur : Surroundings σ τ Q R} {answer : Q → Except (Fault τ) R}
    (hsteady : sur.Steady answer) (flag : Option Flag) :
    (Conduct.steady answer).Shown sur flag (fun _ _ => True) fun w _ => w.Untouched sur flag where
  unraised h hf := h.uncancelled.unraised hf
  quiet {w _ e} h he := by
    refine ⟨h.uncancelled.quiet he, fun b => ?_⟩
    rw [(w.alike_perform sur b he).budget]
    exact h.budgets b
  reserve {w _ b margin} h _ _ := by
    have haffords : w.Affords b margin 1 := fun budget hb => by rw [h.budgets b] at hb; cases hb
    obtain ⟨⟨permit, hpermit⟩, _⟩ := haffords.reserve sur
    refine ⟨permit, (), hpermit, trivial, h.uncancelled.reserve b margin, fun b' => ?_⟩
    by_cases hb : b' = b
    · subst hb
      rw [World.tracker_reserve]
      unfold Tracker.reserve
      rw [h.budgets b']
    · rw [(w.alike_reserve sur margin hb).budget]
      exact h.budgets b'
  ask {w _ q} h _ := ⟨(), hsteady q w.outside, h.uncancelled.ask q, h.budgets⟩
  update _ htells := by
    obtain ⟨_, _, h⟩ := htells
    exact h.elim

theorem World.Untouched.grants {sur : Surroundings σ τ Q R} {flag : Option Flag} {w : World σ τ Q}
    (h : w.Untouched sur flag) (e : Effect τ Q) : w.Grants sur e := by
  cases e with
  | reserve b margin =>
      have haffords : w.Affords b margin 1 := fun budget hb => by rw [h.budgets b] at hb; cases hb
      exact (haffords.reserve sur).1
  | _ => trivial

end RepoCensus
