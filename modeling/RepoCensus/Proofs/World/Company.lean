import RepoCensus.Proofs.Work.Deeds
import RepoCensus.Proofs.Budget.Means
import RepoCensus.Proofs.Work.Steps

/-!
# Work in company

A program shares its world with others, who may take steps between any two of its own and raise flags. Which steps they
may take is a parameter; as long as none of them passes a budget on to a tracker, this keeps the end of its window.
-/

namespace RepoCensus

open RepoCensus.Calendar

variable {σ τ Q R α : Type}

/-- A step that passes no budget on to the tracker of this bucket. -/
def Effect.Spares (b : Bucket) (e : Effect τ Q) : Prop := ∀ budget, e ≠ .update b budget

theorem Effect.spares_of_isFree (b : Bucket) {e : Effect τ Q} (he : e.isFree = true) : e.Spares b := by
  rintro budget rfl
  cases he

variable [Seconds τ] {sur : Surroundings σ τ Q R} {Others Others' : Effect τ Q → Prop}

namespace World

theorem resetAt?_perform_of_spares {w : World σ τ Q} {e : Effect τ Q} {b : Bucket} {reset : τ} (he : e.Spares b)
    (h : w.resetAt? b = some reset) : (w.perform sur e).2.resetAt? b = some reset := by
  cases e with
  | update b' budget =>
      have hb : ¬ b = b' := fun hb => he budget (hb ▸ rfl)
      obtain ⟨t, ht, hreset⟩ := Option.bind_eq_some_iff.mp h
      have hregistry : (w.update b' budget).2.registry.get? b = some t := by
        rw [registry_update, Registry.get?_set, if_neg hb, Registry.get?_tracker_other ht]
      show ((w.update b' budget).2.registry.get? b).bind _ = _
      rw [hregistry]
      exact hreset
  | _ => exact resetAt?_perform rfl h

/-- What may happen while a program does nothing: the others take steps, and flags are raised. -/
inductive Meanwhile (sur : Surroundings σ τ Q R) (Others : Effect τ Q → Prop) (w : World σ τ Q) :
    World σ τ Q → Prop where
  | refl : Meanwhile sur Others w w
  | step {w' : World σ τ Q} (h : Meanwhile sur Others w w') {e : Effect τ Q} (he : Others e) :
      Meanwhile sur Others w (w'.perform sur e).2
  | raise {w' : World σ τ Q} (h : Meanwhile sur Others w w') (f : Flag) : Meanwhile sur Others w (w'.raiseFlag sur f)

namespace Meanwhile

variable {w w' w'' : World σ τ Q}

theorem trans (h : w.Meanwhile sur Others w') (h' : w'.Meanwhile sur Others w'') : w.Meanwhile sur Others w'' := by
  induction h' with
  | refl => exact h
  | step _ he ih => exact ih.step he
  | raise _ f ih => exact ih.raise f

theorem free {b : Bucket} (h : w.Meanwhile sur (Effect.Spares b) w') (e : Effect τ Q) (he : e.isFree = true) :
    w.Meanwhile sur (Effect.Spares b) (w'.perform sur e).2 :=
  h.step (Effect.spares_of_isFree b he)

theorem mono (hothers : ∀ e, Others e → Others' e) (h : w.Meanwhile sur Others w') : w.Meanwhile sur Others' w' := by
  induction h with
  | refl => exact .refl
  | step _ he ih => exact ih.step (hothers _ he)
  | raise _ f ih => exact ih.raise f

theorem exists_drift (h : w.Meanwhile sur Others w') : ∃ n, Drift sur w n w' := by
  induction h with
  | refl => exact ⟨0, .refl⟩
  | step _ _ ih =>
      obtain ⟨n, hn⟩ := ih
      exact ⟨_, hn.step _⟩
  | raise _ f ih =>
      obtain ⟨n, hn⟩ := ih
      exact ⟨n, hn.raise f⟩

theorem now_le [OrderedSeconds τ] {flag : Option Flag} (hsur : sur.Punctual flag) (h : w.Meanwhile sur Others w') :
    sur.now w.outside ≤ sur.now w'.outside := by
  obtain ⟨n, hn⟩ := h.exists_drift
  exact hn.now_le hsur

theorem isRaised (hsur : sur.Lasting) (h : w.Meanwhile sur Others w') {f : Flag} (hf : w.isRaised sur f = true) :
    w'.isRaised sur f = true := by
  obtain ⟨n, hn⟩ := h.exists_drift
  exact hn.isRaised hsur hf

theorem resetAt? {b : Bucket} {reset : τ} (h : w.Meanwhile sur (Effect.Spares b) w')
    (hw : w.resetAt? b = some reset) : w'.resetAt? b = some reset := by
  induction h with
  | refl => exact hw
  | step _ he ih => exact resetAt?_perform_of_spares he ih
  | raise _ f ih => cases f <;> exact ih

end Meanwhile

end World

namespace Program

/-- A program takes these steps in a world that it shares, and this is left of it. -/
inductive Among (sur : Surroundings σ τ Q R) (Others : Effect τ Q → Prop) :
    Program τ Q R α → World σ τ Q → List (Deed τ Q R) → Program τ Q R α → World σ τ Q → Prop where
  | refl (p : Program τ Q R α) (w : World σ τ Q) : Among sur Others p w [] p w
  | act {e : Effect τ Q} {next : e.Answer R → Program τ Q R α} {w w₁ w' : World σ τ Q} {ds : List (Deed τ Q R)}
      {p' : Program τ Q R α} (hmeanwhile : w.Meanwhile sur Others w₁)
      (h : Among sur Others (next (w₁.perform sur e).1) (w₁.perform sur e).2 ds p' w') :
      Among sur Others (act e next) w (⟨e, (w₁.perform sur e).1⟩ :: ds) p' w'

namespace Among

variable {p p' : Program τ Q R α} {w w' : World σ τ Q} {ds : List (Deed τ Q R)}

theorem mono (hothers : ∀ e, Others e → Others' e) (h : p.Among sur Others w ds p' w') :
    p.Among sur Others' w ds p' w' := by
  induction h with
  | refl p w => exact .refl p w
  | act hmeanwhile _ ih => exact .act (hmeanwhile.mono hothers) ih

theorem plays (h : p.Among sur Others w ds p' w') : p.Plays ds p' := by
  induction h with
  | refl p w => exact .refl p
  | act _ _ ih => exact .act ih

/-- Where the others do nothing, a program runs as it does alone. -/
theorem exists_of_run (p : Program τ Q R α) (w : World σ τ Q) :
    ∃ ds, p.Among sur Others w ds (ended (p.run sur w).1) (p.run sur w).2 := by
  induction p generalizing w with
  | done a => exact ⟨[], .refl _ _⟩
  | stalled => exact ⟨[], .refl _ _⟩
  | act e next ih =>
      obtain ⟨ds, h⟩ := ih (w.perform sur e).1 (w.perform sur e).2
      exact ⟨_, .act .refl h⟩

end Among

end Program

end RepoCensus
