import RepoCensus.Fault.Basic
import RepoCensus.Proofs.Snapshot.Merge

/-!
# One snapshot over another

A merge lays the newer snapshot over the older one: what the newer one tells of a category is taken from there, and the
rest is left as it was. So a merge of two snapshots of one repository always succeeds, it does not matter in which order
several merges are made, and a snapshot merged with itself is that snapshot.
-/

namespace RepoCensus

variable {τ : Type}

attribute [ext] Snapshot

namespace Snapshot

variable {old new s a b c : Snapshot τ} {x : Category}

theorem mem_categories : x ∈ s.categories ↔ (s.results x).isSome ∨ (s.failures x).isSome := by
  simp [categories, mem_sortedWhere]

theorem isComplete_iff : s.isComplete ↔ ∀ x, s.failures x = none := by
  simp [isComplete, List.isEmpty_iff, List.eq_nil_iff_forall_not_mem, mem_failedCategories]

/-- The newer snapshot laid over the older one. -/
def overlay (old new : Snapshot τ) : Snapshot τ where
  repository := old.repository
  results x := if x ∈ new.categories then new.results x else old.results x
  failures x := if x ∈ new.categories then new.failures x else old.failures x
  fetchedAt := new.fetchedAt

@[simp] theorem results_overlay :
    (old.overlay new).results x = if x ∈ new.categories then new.results x else old.results x := rfl

@[simp] theorem failures_overlay :
    (old.overlay new).failures x = if x ∈ new.categories then new.failures x else old.failures x := rfl

/-! ## What is laid over what -/

@[simp] theorem mem_categories_overlay :
    x ∈ (old.overlay new).categories ↔ x ∈ old.categories ∨ x ∈ new.categories := by
  by_cases h : x ∈ new.categories
  · have hnew := mem_categories.mp h
    simpa [mem_categories, h] using hnew
  · simp [mem_categories (s := old.overlay new), mem_categories (s := old), h]

theorem Consistent.overlay (hold : old.Consistent) (hnew : new.Consistent) : (old.overlay new).Consistent := by
  intro x
  by_cases h : x ∈ new.categories
  · simpa [h] using hnew x
  · simpa [h] using hold x

theorem overlay_self (s : Snapshot τ) : s.overlay s = s := by
  ext x : 2 <;> simp [overlay]

theorem overlay_assoc (a b c : Snapshot τ) : (a.overlay b).overlay c = a.overlay (b.overlay c) := by
  ext x : 2
  case repository => rfl
  case fetchedAt => rfl
  case results => by_cases hc : x ∈ c.categories <;> simp [hc]
  case failures => by_cases hc : x ∈ c.categories <;> simp [hc]

theorem failures_overlay_eq_none : (old.overlay new).failures x = none ↔
    new.failures x = none ∧ ((old.failures x).isSome → (new.results x).isSome) := by
  cases hresults : new.results x <;> cases hfailures : new.failures x <;>
    simp [mem_categories, hresults, hfailures]

theorem isComplete_overlay : (old.overlay new).isComplete ↔
    (∀ x, new.failures x = none) ∧ ∀ x, (old.failures x).isSome → (new.results x).isSome := by
  rw [isComplete_iff, ← forall_and]
  exact forall_congr' fun x => failures_overlay_eq_none

/-! ## A merge lays one over the other -/

theorem mergedResults_eq : old.mergedResults new = (old.overlay new).results := by
  funext x
  cases hresults : new.results x <;> cases hfailures : new.failures x <;>
    simp [mergedResults, mem_categories, hresults, hfailures]

theorem mergedFailures_eq : old.mergedFailures new = (old.overlay new).failures := by
  funext x
  cases hresults : new.results x <;> cases hfailures : new.failures x <;>
    simp [mergedFailures, mem_categories, hresults, hfailures]

theorem merge_eq_overlay (hold : old.Consistent) (hnew : new.Consistent) (h : new.repository = old.repository) :
    old.merge new = .ok (old.overlay new) := by
  rw [merge_eq_ok_iff, mergedResults_eq, mergedFailures_eq]
  exact ⟨h, hold.overlay hnew, rfl⟩

theorem merge_of_ne (h : new.repository ≠ old.repository) :
    old.merge new = .error (.differentRepositories old.repository.fullName new.repository.fullName) := if_neg h

/-! ## The laws -/

/-- What a merge makes of two snapshots. -/
structure Merged (old new s : Snapshot τ) : Prop where
  repository : s.repository = old.repository
  consistent : s.Consistent
  mem_categories_iff : ∀ x, x ∈ s.categories ↔ x ∈ old.categories ∨ x ∈ new.categories
  newer : ∀ x ∈ new.categories, s.results x = new.results x ∧ s.failures x = new.failures x
  older : ∀ x ∉ new.categories, s.results x = old.results x ∧ s.failures x = old.failures x
  unfailed : s.isComplete ↔ ∀ x, s.failures x = none
  /-- The failures that are left are those of the newer snapshot, and older ones that it has no finding for. -/
  complete : s.isComplete ↔ (∀ x, new.failures x = none) ∧ ∀ x, (old.failures x).isSome → (new.results x).isSome

theorem merged_overlay (hold : old.Consistent) (hnew : new.Consistent) : Merged old new (old.overlay new) where
  repository := rfl
  consistent := hold.overlay hnew
  mem_categories_iff _ := mem_categories_overlay
  newer _ h := by simp [h]
  older _ h := by simp [h]
  unfailed := isComplete_iff
  complete := isComplete_overlay

/-- Snapshots of one repository can be merged, it does not matter which of two merges is made first, and a merge with
itself changes nothing. Of different repositories there is no merge: the caller is told so and has what it had. -/
theorem merge_lays_over (ha : a.Consistent) (hb : b.Consistent) (hc : c.Consistent)
    (hab : b.repository = a.repository) (hbc : c.repository = b.repository) :
    (∃ ab, a.merge b = .ok ab ∧ Merged a b ab) ∧
    (∃ ab bc abc, a.merge b = .ok ab ∧ b.merge c = .ok bc ∧ ab.merge c = .ok abc ∧ a.merge bc = .ok abc) ∧
    a.merge a = .ok a ∧
    ∀ old other : Snapshot τ, other.repository ≠ old.repository →
      ∃ why, old.merge other = .error why ∧ (Fault.invalid why : Fault τ).label = "ValueError" ∧
        why.message = s!"Cannot merge snapshots of {old.repository.fullName} and {other.repository.fullName}" := by
  have hab' := merge_eq_overlay ha hb hab
  refine ⟨⟨_, hab', merged_overlay ha hb⟩, ?associative, ?idempotent, ?refused⟩
  case associative =>
    have hleft := merge_eq_overlay (ha.overlay hb) hc (hbc.trans hab)
    have hright := merge_eq_overlay ha (hb.overlay hc) hab
    rw [← overlay_assoc] at hright
    exact ⟨_, _, _, hab', merge_eq_overlay hb hc hbc, hleft, hright⟩
  case idempotent => rw [merge_eq_overlay ha ha rfl, overlay_self]
  case refused => exact fun old other h => ⟨_, merge_of_ne h, rfl, rfl⟩

/-- A snapshot of `o/n` with these counts and these failures. -/
def counted (found : List (Category × Nat)) (failed : List Category) (now : Rat) : Snapshot Rat where
  repository := ⟨"o", "n"⟩
  results x := (found.lookup x).map fun n => ⟨x, .count (.number n), none, now, 1, false⟩
  failures x := if x ∈ failed then some ⟨x, .cancelled, none, 0⟩ else none
  fetchedAt := now

/-- The languages that failed are found by the second fetch, the forks that failed then by the third one. -/
theorem merge_lays_over_counted :
    let a := counted [(.stars, 7)] [.languages] 0
    let b := counted [(.languages, 3)] [.forks] 1
    let c := counted [(.forks, 2)] [] 2
    a.Consistent ∧ b.Consistent ∧ c.Consistent ∧ b.repository = a.repository ∧ c.repository = b.repository ∧
      (∃ ab, a.merge b = .ok ab ∧ ab.results .stars = a.results .stars ∧ ab.results .languages = b.results .languages ∧
        ab.failures .languages = none ∧ ¬ ab.isComplete) ∧
      ∃ ab bc abc, a.merge b = .ok ab ∧ b.merge c = .ok bc ∧ ab.merge c = .ok abc ∧ a.merge bc = .ok abc := by
  intro a b c
  have ha : a.Consistent := fun x => by cases x <;> decide
  have hb : b.Consistent := fun x => by cases x <;> decide
  have hc : c.Consistent := fun x => by cases x <;> decide
  obtain ⟨⟨ab, hab, hmerged⟩, hassoc, -⟩ := merge_lays_over ha hb hc rfl rfl
  refine ⟨ha, hb, hc, rfl, rfl, ⟨ab, hab, ?_, ?_, ?_, ?_⟩, hassoc⟩
  · exact (hmerged.older .stars (by decide)).1
  · exact (hmerged.newer .languages (by decide)).1
  · exact (hmerged.newer .languages (by decide)).2
  · intro h
    exact absurd ((hmerged.complete.mp h).1 .forks) (by decide)

end Snapshot

end RepoCensus
