import RepoCensus.Proofs.Budget.Window
import RepoCensus.Proofs.Work.Calm
import RepoCensus.Proofs.World.Drift

/-!
# What is left of a budget

How the steps of a program change what the trackers of a world know.
-/

namespace RepoCensus

open RepoCensus.Calendar

variable {σ τ Q R : Type}

/-- Trackers that know the same budget and keep the same margin. -/
structure Tracker.Alike (t t' : Tracker τ) : Prop where
  budget : t'.budget = t.budget
  safetyMargin : t'.safetyMargin = t.safetyMargin

theorem Tracker.Alike.refl (t : Tracker τ) : t.Alike t := ⟨rfl, rfl⟩

namespace Registry

variable {r : Registry τ} {b b' : Bucket}

theorem tracker_of_none (h : r.get? b = none) :
    r.tracker b = (.fresh b.resource r.safetyMargin r.made, { r with
      trackers := r.trackers ++ [(b, .fresh b.resource r.safetyMargin r.made)], made := r.made + 1 }) := by
  simp only [tracker, h]

theorem get?_tracker_of_none (h : r.get? b = none) (hb : b ≠ b') : (r.tracker b').2.get? b = none := by
  cases h' : r.get? b' with
  | some t => rw [get?_tracker_of_some h']; exact h
  | none =>
      have hfind : r.trackers.find? (fun e => e.1 = b) = none := by simpa [get?] using h
      rw [tracker_of_none h']
      simp [get?, List.find?_append, hfind, Ne.symm hb]

theorem safetyMargin_tracker (r : Registry τ) (b : Bucket) : (r.tracker b).2.safetyMargin = r.safetyMargin := by
  unfold tracker
  split <;> rfl

/-- Opening a bucket leaves what is known of all buckets as it is. -/
theorem alike_open (r : Registry τ) (b b' : Bucket) : (r.tracker b).1.Alike ((r.tracker b').2.tracker b).1 := by
  cases h : r.get? b with
  | some t =>
      rw [get?_tracker_of_some h, get?_tracker_of_some (get?_tracker_other h)]
      exact .refl t
  | none =>
      by_cases hb : b = b'
      · subst hb
        rw [get?_tracker_of_some (get?_tracker r b)]
        exact .refl _
      · rw [tracker_of_none h, tracker_of_none (get?_tracker_of_none h hb)]
        exact ⟨rfl, safetyMargin_tracker r b'⟩

theorem tracker_set (r : Registry τ) (b : Bucket) (t : Tracker τ) : (((r.tracker b).2.set b t).tracker b).1 = t := by
  have h : ((r.tracker b).2.set b t).get? b = some t := by
    rw [get?_set, if_pos rfl, get?_tracker]
    rfl
  rw [get?_tracker_of_some h]

theorem alike_set (r : Registry τ) (t : Tracker τ) (hb : b ≠ b') :
    (r.tracker b).1.Alike (((r.tracker b').2.set b' t).tracker b).1 := by
  have halike := alike_open r b b'
  generalize (r.tracker b').2 = r' at halike ⊢
  have hget : (r'.set b' t).get? b = r'.get? b := by rw [get?_set, if_neg hb]
  have htracker : ((r'.set b' t).tracker b).1 = (r'.tracker b).1 := by
    unfold tracker
    rw [hget]
    split <;> rfl
  rwa [htracker]

end Registry

namespace World

variable {w : World σ τ Q} {b : Bucket}

def tracker (w : World σ τ Q) (b : Bucket) : Tracker τ := (w.registry.tracker b).1

variable [Seconds τ] {sur : Surroundings σ τ Q R}

theorem tracker_reserve (sur : Surroundings σ τ Q R) (w : World σ τ Q) (b : Bucket) (margin : Option Int) :
    (w.reserve sur b margin).2.tracker b = ((w.tracker b).reserve (w.readingFor sur b) margin).2 := by
  unfold tracker
  rw [reserve_registry]
  exact Registry.tracker_set _ _ _

theorem alike_reserve (sur : Surroundings σ τ Q R) (w : World σ τ Q) {b b' : Bucket} (margin : Option Int)
    (hb : b ≠ b') : (w.tracker b).Alike ((w.reserve sur b' margin).2.tracker b) := by
  unfold tracker
  rw [reserve_registry]
  exact Registry.alike_set _ _ hb

/-- The steps that ask for nothing and pass nothing on change nothing that the trackers know. -/
theorem alike_perform (sur : Surroundings σ τ Q R) (w : World σ τ Q) (b : Bucket) {e : Effect τ Q}
    (he : e.isQuiet = true) : (w.tracker b).Alike ((w.perform sur e).2.tracker b) := by
  cases e with
  | openBucket b' => exact Registry.alike_open _ _ _
  | wait f s =>
      cases h : w.isRaised sur f <;> simp only [perform, h]
      · exact .refl _
      · exact .refl _
  | reserve b margin => cases he
  | ask q => cases he
  | update b budget => cases he
  | _ => exact .refl _

/-! ## Margins -/

theorem registry_update (w : World σ τ Q) (b : Bucket) (budget : Budget τ) :
    (w.update b budget).2.registry = (w.registry.tracker b).2.set b ((w.tracker b).update budget) := by
  unfold update tracker
  dsimp only
  split <;> rfl

/-- No step changes the margin that a tracker keeps. -/
theorem safetyMargin_perform (sur : Surroundings σ τ Q R) (w : World σ τ Q) (e : Effect τ Q) (b : Bucket) :
    ((w.perform sur e).2.tracker b).safetyMargin = (w.tracker b).safetyMargin := by
  cases e with
  | ask q => rfl
  | reserve b' margin =>
      by_cases hb : b = b'
      · subst hb
        exact (congrArg Tracker.safetyMargin (tracker_reserve sur w b margin)).trans
          ((w.tracker b).use_keeps (.reserve _ _)).2
      · exact (alike_reserve sur w margin hb).safetyMargin
  | update b' budget =>
      show (((w.update b' budget).2.registry.tracker b).1).safetyMargin = _
      rw [registry_update]
      by_cases hb : b = b'
      · subst hb
        rw [Registry.tracker_set]
        rfl
      · exact (Registry.alike_set _ _ hb).safetyMargin
  | _ => exact (alike_perform sur w b rfl).safetyMargin

theorem safetyMargin_run {α : Type} (sur : Surroundings σ τ Q R) (p : Program τ Q R α) (w : World σ τ Q) (b : Bucket) :
    ((p.run sur w).2.tracker b).safetyMargin = (w.tracker b).safetyMargin := by
  induction p generalizing w with
  | done a => rfl
  | stalled => rfl
  | act e next ih => exact (ih _ _).trans (safetyMargin_perform sur w e b)

/-! ## Means -/

/-- What is left of a budget is enough for so many permits, if it is known at all. -/
def Affords (w : World σ τ Q) (b : Bucket) (margin : Option Int) (n : Nat) : Prop :=
  ∀ budget, (w.tracker b).budget = some budget → (w.tracker b).keep margin + n ≤ budget.remaining

omit [Seconds τ] in
theorem Affords.alike {w' : World σ τ Q} {margin : Option Int} {n : Nat} (h : w.Affords b margin n)
    (halike : (w.tracker b).Alike (w'.tracker b)) : w'.Affords b margin n := by
  unfold Affords Tracker.keep at h ⊢
  rw [halike.budget, halike.safetyMargin]
  exact h

/-- A permit that is afforded is granted, and one less is afforded after it. -/
theorem Affords.reserve (sur : Surroundings σ τ Q R) {margin : Option Int} {n : Nat} (h : w.Affords b margin (n + 1)) :
    (∃ permit, (w.reserve sur b margin).1 = .ok permit) ∧ (w.reserve sur b margin).2.Affords b margin n := by
  unfold Affords
  rw [reserve_fst, tracker_reserve]
  unfold Affords at h
  change (∃ permit, ((w.tracker b).reserve _ margin).1 = .ok permit) ∧ _
  generalize w.tracker b = t at h ⊢
  generalize w.readingFor sur b = now
  unfold Tracker.reserve
  cases hbudget : t.budget with
  | none => exact ⟨⟨_, rfl⟩, fun budget hb => by simp at hb⟩
  | some budget =>
      have hleft := h budget hbudget
      have hmore : ¬ budget.remaining ≤ t.keep margin := by omega
      simp only [hmore, if_false]
      refine ⟨⟨_, rfl⟩, ?_⟩
      rintro _ ⟨⟩
      show t.keep margin + n ≤ budget.remaining - 1
      omega

end World

end RepoCensus
