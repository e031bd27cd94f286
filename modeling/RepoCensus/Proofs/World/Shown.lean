import Mathlib.Logic.Relation
import RepoCensus.Proofs.Work.Calm
import RepoCensus.Proofs.World.Drift

/-!
# Runs that a proof foresees

A world shows the state of a proof if it answers each step as that state lets it. Then what always holds at the end
of a program holds at the end of its run; where nothing disturbs the work, the run comes to an end as well.
-/

namespace RepoCensus

open RepoCensus.Calendar

variable {σ τ Q R G α : Type}

/-! ## Idle surroundings -/

namespace Surroundings

/-- Something happens that no service takes part in. -/
inductive Idle (sur : Surroundings σ τ Q R) (o : σ) : σ → Prop where
  | clock : Idle sur o (sur.clock o).2
  | jitter : Idle sur o (sur.jitter o).2
  | sleep (s : τ) : Idle sur o (sur.sleep s o)

def Idles (sur : Surroundings σ τ Q R) : σ → σ → Prop := Relation.ReflTransGen sur.Idle

end Surroundings

variable [Seconds τ] {sur : Surroundings σ τ Q R}

theorem World.idles_perform (sur : Surroundings σ τ Q R) (w : World σ τ Q) {e : Effect τ Q} (he : e.isQuiet = true) :
    sur.Idles w.outside (w.perform sur e).2.outside := by
  cases e with
  | clock => exact .single .clock
  | jitter => exact .single .jitter
  | sleep s => exact .single (.sleep s)
  | wait f s =>
      cases h : w.isRaised sur f <;> simp only [perform, h]
      · exact .single (.sleep s)
      · exact .refl
  | reserve b margin => cases he
  | ask q => cases he
  | update b budget => cases he
  | _ => exact .refl

theorem World.idles_reserve (sur : Surroundings σ τ Q R) (w : World σ τ Q) (b : Bucket) (margin : Option Int) :
    sur.Idles w.outside (w.reserve sur b margin).2.outside := by
  rcases reserve_outside sur w b margin with h | h
  · rw [h]; exact .refl
  · rw [h]; exact .single .clock

/-! ## Runs that a behaviour foresees -/

/-- Worlds that show the states of a behaviour: they answer every step that is allowed as the behaviour lets them. -/
structure Behaviour.Shown (B : Behaviour τ Q R G) (sur : Surroundings σ τ Q R) (Shows : World σ τ Q → G → Prop) :
    Prop where
  rests : ∀ g, B.drifts g g
  perform : ∀ {w g e}, Shows w g → B.allows g e →
    ∃ g', B.answers g e (w.perform sur e).1 g' ∧ Shows (w.perform sur e).2 g'

/-- What always holds at the end of a program holds at the end of a run, unless the run may stall. -/
theorem Behaviour.Shown.run {B : Behaviour τ Q R G} {Shows : World σ τ Q → G → Prop} (h : B.Shown sur Shows)
    {p : Program τ Q R α} {post : α → G → Prop} {w : World σ τ Q} {g : G} (halways : p.Always B post g)
    (hw : Shows w g) :
    ∃ g', Shows (p.run sur w).2 g' ∧ (match (p.run sur w).1 with
      | some a => post a g'
      | none => B.stalls) := by
  induction p generalizing w g with
  | done a => exact ⟨g, hw, halways⟩
  | stalled => exact ⟨g, hw, halways⟩
  | act e next ih =>
      obtain ⟨hallows, hnext⟩ := halways g (h.rests g)
      obtain ⟨g₁, hanswers, hw₁⟩ := h.perform hw hallows
      exact ih _ (hnext _ g₁ hanswers) hw₁

/-- The world itself as the state of a proof. -/
def Surroundings.behaviour (sur : Surroundings σ τ Q R) : Behaviour τ Q R (World σ τ Q) where
  stalls := False
  drifts w w' := w' = w
  allows _ _ := True
  answers w e a w' := a = (w.perform sur e).1 ∧ w' = (w.perform sur e).2

/-- What always holds at the end of work in a world holds at the end of its run there. -/
theorem Work.Attains.run {work : Work τ Q R α} {s : Session τ} {w : World σ τ Q}
    {post : Except (Fault τ) α → Numbers → World σ τ Q → Prop}
    (h : Work.Attains sur.behaviour work s.numbers w post) :
    ∃ x t, (work.run sur s w).1 = some (x, t) ∧ post x t.numbers (work.run sur s w).2 := by
  have hshown : sur.behaviour.Shown sur Eq := ⟨fun _ => rfl, fun hw _ => ⟨_, by rw [hw]; exact ⟨rfl, rfl⟩, rfl⟩⟩
  obtain ⟨_, rfl, hend⟩ := hshown.run (h s rfl) rfl
  unfold Work.run
  cases hrun : ((work.start s).run sur w).1 with
  | none => rw [hrun] at hend; exact hend.elim
  | some e => rw [hrun] at hend; exact ⟨e.1, e.2, rfl, hend⟩

/-- What holds at the end of a run holds at the end of the program, as no other run is foreseen. -/
theorem Program.always_of_run {p : Program τ Q R α} {w : World σ τ Q} {a : α} {post : α → World σ τ Q → Prop}
    (hrun : (p.run sur w).1 = some a) (h : post a (p.run sur w).2) : p.Always sur.behaviour post w := by
  induction p generalizing w with
  | done a' =>
      cases hrun
      exact h
  | stalled => cases hrun
  | act e next ih =>
      rintro _ rfl
      refine ⟨trivial, ?_⟩
      rintro _ _ ⟨rfl, rfl⟩
      exact ih _ hrun h

/-! ## Runs of undisturbed work -/

/-- A run takes none but steps that satisfy a condition. -/
def Program.Throughout (sur : Surroundings σ τ Q R) (P : World σ τ Q → Effect τ Q → Prop) :
    Program τ Q R α → World σ τ Q → Prop
  | done _, _ => True
  | stalled, _ => True
  | act e next, w => P w e ∧ (next (w.perform sur e).1).Throughout sur P (w.perform sur e).2

theorem Program.throughout {P : World σ τ Q → Effect τ Q → Prop} (h : ∀ w e, P w e) (p : Program τ Q R α)
    (w : World σ τ Q) : p.Throughout sur P w := by
  induction p generalizing w with
  | done a => trivial
  | stalled => trivial
  | act e next ih => exact ⟨h w e, ih _ _⟩

/-- Worlds that show the states of a conduct, as long as the steps satisfy a condition. -/
structure Conduct.Shown (c : Conduct τ Q R G) (sur : Surroundings σ τ Q R) (flag : Option Flag)
    (P : World σ τ Q → Effect τ Q → Prop) (Shows : World σ τ Q → G → Prop) : Prop where
  unraised : ∀ {w g f}, Shows w g → flag = some f → w.isRaised sur f = false
  quiet : ∀ {w g e}, Shows w g → e.isQuiet = true → Shows (w.perform sur e).2 g
  reserve : ∀ {w g b margin}, Shows w g → P w (.reserve b margin) → (∃ g', c.pays g b margin g') →
    ∃ permit g', (w.reserve sur b margin).1 = .ok permit ∧ c.pays g b margin g' ∧ Shows (w.reserve sur b margin).2 g'
  ask : ∀ {w g q}, Shows w g → (∃ answer g', c.asks g q answer g') →
    ∃ g', c.asks g q (w.perform sur (.ask q)).1 g' ∧ Shows (w.perform sur (.ask q)).2 g'
  update : ∀ {w g b budget}, Shows w g → (∃ told g', c.tells g b budget told g') →
    ∃ g', c.tells g b budget (w.update b budget).1 g' ∧ Shows (w.update b budget).2 g'

namespace Conduct.Shown

variable {c : Conduct τ Q R G} {flag : Option Flag} {P : World σ τ Q → Effect τ Q → Prop}
  {Shows : World σ τ Q → G → Prop} {post : α → G → Prop} {w : World σ τ Q} {g : G}

/-- A step that is allowed gets an answer that was foreseen. -/
theorem perform (h : c.Shown sur flag P Shows) {e : Effect τ Q} {next : e.Answer R → Program τ Q R α}
    (halways : (Program.act e next).Always (c.behaviour flag) post g) (hw : Shows w g) (hP : P w e) :
    ∃ g', (next (w.perform sur e).1).Always (c.behaviour flag) post g' ∧ Shows (w.perform sur e).2 g' := by
  obtain ⟨hallows, hnext⟩ := halways g rfl
  cases e with
  | reserve b margin =>
      obtain ⟨permit, g', hpermit, hpays, hw'⟩ := h.reserve hw hP hallows
      exact ⟨g', hnext _ g' ⟨⟨permit, hpermit⟩, hpays⟩, hw'⟩
  | ask q =>
      obtain ⟨g', hasks, hw'⟩ := h.ask hw hallows
      exact ⟨g', hnext _ g' hasks, hw'⟩
  | update b budget =>
      obtain ⟨g', htells, hw'⟩ := h.update hw hallows
      exact ⟨g', hnext _ g' htells, hw'⟩
  | cancelled f => exact ⟨g, hnext _ g ⟨h.unraised hw, rfl⟩, hw⟩
  | _ => exact ⟨g, hnext _ g rfl, h.quiet hw rfl⟩

/-- What always holds at the end of a program holds at the end of a run. -/
theorem run (h : c.Shown sur flag P Shows) {p : Program τ Q R α} (halways : p.Always (c.behaviour flag) post g)
    (hw : Shows w g) (hP : p.Throughout sur P w) :
    ∃ a g', (p.run sur w).1 = some a ∧ post a g' ∧ Shows (p.run sur w).2 g' := by
  induction p generalizing w g with
  | done a => exact ⟨a, g, rfl, halways, hw⟩
  | stalled => exact halways.elim
  | act e next ih =>
      obtain ⟨g₁, hnext, hw₁⟩ := h.perform halways hw hP.1
      exact ih _ hnext hw₁ hP.2

/-- Where the states that are shown let every step satisfy a condition, a run satisfies it throughout. -/
theorem throughout (h : c.Shown sur flag (fun _ _ => True) Shows) (hP : ∀ {w g}, Shows w g → ∀ e, P w e)
    {p : Program τ Q R α} (halways : p.Always (c.behaviour flag) post g) (hw : Shows w g) : p.Throughout sur P w := by
  induction p generalizing w g with
  | done a => trivial
  | stalled => trivial
  | act e next ih =>
      obtain ⟨g₁, hnext, hw₁⟩ := h.perform halways hw trivial
      exact ⟨hP hw e, ih _ hnext hw₁⟩

end Conduct.Shown

end RepoCensus
