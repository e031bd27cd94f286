import RepoCensus.Snapshot.Basic

/-!
# Merged snapshots

A category has a finding or a failure in a snapshot and never both, and a merge keeps it so. Where the newer snapshot is
about the categories that failed in the older one, the merge loses no finding, and no failure outlives its category's
second try.
-/

namespace RepoCensus

open RepoCensus.Calendar

variable {τ : Type}

namespace Snapshot

variable {old new s : Snapshot τ} {c : Category}

theorem mem_sortedWhere {p : Category → Bool} : c ∈ sortedWhere p ↔ p c = true := by
  simp [sortedWhere, Category.mem_alphabetical]

theorem mem_failedCategories : c ∈ s.failedCategories ↔ (s.failures c).isSome := mem_sortedWhere

/-- No category has both a finding and a failure. -/
def Consistent (s : Snapshot τ) : Prop := ∀ c, (s.results c).isSome → (s.failures c).isSome → False

theorem make_eq_ok_iff {repository : Repository} {results : Category → Option (Finding τ)}
    {failures : Category → Option (Failure τ)} {now : τ} : make repository results failures now = .ok s ↔
      (∀ c, (results c).isSome → (failures c).isSome → False) ∧ s = ⟨repository, results, failures, now⟩ := by
  have hoverlap : (overlap results failures).isEmpty = true ↔
      ∀ c, (results c).isSome → (failures c).isSome → False := by
    simp [List.isEmpty_iff, List.eq_nil_iff_forall_not_mem, overlap, mem_sortedWhere]
  unfold make
  split
  · rename_i h
    constructor
    · rintro ⟨⟩
      exact ⟨hoverlap.mp h, rfl⟩
    · rintro ⟨_, rfl⟩
      rfl
  · rename_i h
    constructor
    · rintro ⟨⟩
    · rintro ⟨h', _⟩
      exact absurd (hoverlap.mpr h') h

theorem merge_eq_ok_iff : old.merge new = .ok s ↔ new.repository = old.repository ∧
    (∀ c, (old.mergedResults new c).isSome → (old.mergedFailures new c).isSome → False) ∧
      s = ⟨old.repository, old.mergedResults new, old.mergedFailures new, new.fetchedAt⟩ := by
  unfold merge
  split
  · rename_i h
    rw [make_eq_ok_iff]
    simp [h]
  · rename_i h
    simp [h]

/-- Each of these categories has a finding, or a failure, and not both; no others have any. -/
structure Tells (requested : List Category) (s : Snapshot τ) : Prop where
  told : ∀ c ∈ requested, (∃ finding, s.results c = some finding ∧ s.failures c = none) ∨
    ∃ failure, s.failures c = some failure ∧ s.results c = none
  untold : ∀ c, c ∉ requested → s.results c = none ∧ s.failures c = none

theorem Tells.congr {requested requested' : List Category} (h : s.Tells requested)
    (hmem : ∀ c, c ∈ requested ↔ c ∈ requested') : s.Tells requested' :=
  ⟨fun c hc => h.told c ((hmem c).mpr hc), fun c hc => h.untold c (mt (hmem c).mp hc)⟩

/-- A snapshot that went on from an older one: no finding was lost, and it is about the same categories. -/
structure Continues (old s : Snapshot τ) : Prop where
  consistent : s.Consistent
  categories : s.categories = old.categories
  kept : ∀ c finding, old.results c = some finding → s.results c = some finding

/-- An older snapshot after the categories that failed in it were tried again with these outcomes. -/
structure Mended (old new s : Snapshot τ) : Prop extends Continues old s where
  repository : s.repository = old.repository
  /-- Each of the categories that failed has its new finding or its new failure, and not both. -/
  mended : ∀ c, (old.failures c).isSome →
    (∃ finding, new.results c = some finding ∧ s.results c = some finding ∧ s.failures c = none) ∨
      ∃ failure, new.failures c = some failure ∧ s.failures c = some failure ∧ s.results c = none

theorem Continues.refl (hs : s.Consistent) : Continues s s := ⟨hs, rfl, fun _ _ h => h⟩

theorem Continues.trans (h : Continues old s) (h' : Continues s new) : Continues old new :=
  ⟨h'.consistent, h'.categories.trans h.categories, fun c finding hc => h'.kept c finding (h.kept c finding hc)⟩

theorem Continues.mem_foundCategories (h : Continues old s) (hc : c ∈ old.foundCategories) : c ∈ s.foundCategories := by
  obtain ⟨finding, hfinding⟩ := Option.isSome_iff_exists.mp (mem_sortedWhere.mp hc)
  exact mem_sortedWhere.mpr (Option.isSome_iff_exists.mpr ⟨finding, h.kept c finding hfinding⟩)

section

variable (hnew : new.Tells old.failedCategories)

include hnew

theorem merged_of_not_failed (hc : old.failures c = none) :
    old.mergedResults new c = old.results c ∧ old.mergedFailures new c = none := by
  have hmem : c ∉ old.failedCategories := fun h => by
    have := mem_failedCategories.mp h
    rw [hc] at this
    cases this
  obtain ⟨hresults, hfailures⟩ := hnew.untold c hmem
  simp [mergedResults, mergedFailures, hresults, hfailures, hc]

theorem merged_of_failed (hc : (old.failures c).isSome) :
    (∃ finding, new.results c = some finding ∧ old.mergedResults new c = some finding ∧
        old.mergedFailures new c = none) ∨
      ∃ failure, new.failures c = some failure ∧ old.mergedFailures new c = some failure ∧
        old.mergedResults new c = none := by
  rcases hnew.told c (mem_failedCategories.mpr hc) with ⟨finding, hresults, hfailures⟩ | ⟨failure, hfailures, hresults⟩
  · exact .inl ⟨finding, hresults, by simp [mergedResults, hresults], by simp [mergedFailures, hresults, hfailures]⟩
  · exact .inr ⟨failure, hfailures, by simp [mergedFailures, hfailures], by simp [mergedResults, hresults, hfailures]⟩

theorem merged_consistent (c : Category) (hresults : (old.mergedResults new c).isSome)
    (hfailures : (old.mergedFailures new c).isSome) : False := by
  cases hc : old.failures c with
  | none =>
      rw [(merged_of_not_failed hnew hc).2] at hfailures
      cases hfailures
  | some failure =>
      rcases merged_of_failed hnew (Option.isSome_iff_exists.mpr ⟨failure, hc⟩) with ⟨_, _, _, hnone⟩ | ⟨_, _, _, hnone⟩
      · rw [hnone] at hfailures; cases hfailures
      · rw [hnone] at hresults; cases hresults

theorem exists_merge_eq_ok (hrepository : new.repository = old.repository) : ∃ s, old.merge new = .ok s :=
  ⟨_, merge_eq_ok_iff.mpr ⟨hrepository, merged_consistent hnew, rfl⟩⟩

theorem mended_of_merge (hold : old.Consistent) (h : old.merge new = .ok s) : Mended old new s := by
  obtain ⟨-, hconsistent, rfl⟩ := merge_eq_ok_iff.mp h
  refine ⟨⟨hconsistent, ?categories, ?kept⟩, rfl, fun c hc => merged_of_failed hnew hc⟩
  case kept =>
    intro c finding hfinding
    -- what has a finding did not fail, so the newer snapshot does not tell of it
    have hc : old.failures c = none := Option.not_isSome_iff_eq_none.mp (hold c (by simp [hfinding]))
    exact (merged_of_not_failed hnew hc).1.trans hfinding
  case categories =>
    unfold categories sortedWhere
    refine List.filter_congr fun c _ => ?_
    cases hc : old.failures c with
    | none =>
        obtain ⟨hresults, hfailures⟩ := merged_of_not_failed hnew hc
        simp [hresults, hfailures]
    | some failure =>
        rcases merged_of_failed hnew (Option.isSome_iff_exists.mpr ⟨failure, hc⟩) with
          ⟨_, _, hresults, hfailures⟩ | ⟨_, _, hfailures, hresults⟩
        · simp [hresults]
        · simp [hfailures]

end

end Snapshot

end RepoCensus
