import Mathlib.Logic.Relation
import RepoCensus.Proofs.Census.Cancellation
import RepoCensus.Proofs.Snapshot.Merge

/-!
# Trying again what failed

Whoever has the failed categories of a snapshot fetched once more keeps all that was found before. Nothing is requested
but for categories that failed, and each of these has its new finding or its new failure thereafter.
-/

namespace RepoCensus

open RepoCensus.Calendar

variable {σ τ : Type}

theorem Category.parse?_name (c : Category) : Category.parse? c.name = some c := by
  cases c <;> decide +kernel

/-- What is ordered when the failed categories of a snapshot are to be fetched once more. -/
def Order.again (o : Order τ) (s : Snapshot τ) : Order τ :=
  { o with
    owner := s.repository.owner
    name := s.repository.name
    categories := s.failedCategories.map Category.name }

namespace Census

variable [Seconds τ] {sur : Service σ τ} {i : Inquiry τ} {most : Amount} {w w' : ServiceWorld σ τ}
  {moves course : List Move} {ends : List (Category × Option (TaskEnd τ))} {r : Report τ} {s s' new : Snapshot τ}
  {o : Order τ} {c : Category}

/-! ## What was fetched -/

omit [Seconds τ] in
theorem exists_outcome (hfault : firstFault ends = none) {e : Option (TaskEnd τ)} (he : (c, e) ∈ ends) :
    (∃ finding, findingOf e = some finding ∧ failureOf e = none) ∨
      ∃ failure, failureOf e = some failure ∧ findingOf e = none := by
  have hnone := List.findSome?_eq_none_iff.mp hfault (c, e) he
  rcases e with _ | ⟨_ | outcome, session⟩
  · cases hnone
  · cases hnone
  · cases outcome with
    | ok finding => exact .inl ⟨finding, rfl, rfl⟩
    | error failure => exact .inr ⟨failure, rfl, rfl⟩

namespace Ran

variable (h : Ran sur i most w course ends r w')

include h

/-- A snapshot that is reported tells of each category that was requested, and of no other. -/
theorem tells (hs : r.outcome = .ok s) : s.Tells i.categories := by
  obtain ⟨hfault, -, hresults, hfailures⟩ := h.told hs
  constructor
  case told =>
    intro c hc
    obtain ⟨e, he⟩ := h.mem_iff.mp hc
    rw [hresults, hfailures, results_of_mem h.nodup he, failures_of_mem h.nodup he]
    exact exists_outcome hfault he
  case untold =>
    intro c hc
    rw [hresults, hfailures]
    exact untold_of_not_mem h.nodup fun e he => hc (h.mem_iff.mpr ⟨e, he⟩)

theorem mem_of_mem_tasks {e : Category × Task τ} (he : e ∈ r.tasks) : e.1 ∈ i.categories := by
  rw [h.tasks] at he
  obtain ⟨⟨c, end?⟩, hmem, rfl⟩ := List.mem_map.mp he
  exact h.mem_iff.mpr ⟨end?, hmem⟩

/-- All that is done is done in the work on one of the categories that were requested. -/
theorem exists_plays (hc : Deed.of c (deeds sur i most w [] course) ≠ []) :
    c ∈ i.categories ∧ ∃ e, (program i c).Plays (Deed.of c (deeds sur i most w [] course)) (Program.ended e) := by
  have hmem : c ∈ i.categories := by
    by_contra hnot
    exact hc (of_deeds_eq_nil sur i most w hnot [] course)
  obtain ⟨e, he⟩ := h.mem_iff.mp hmem
  exact ⟨hmem, e, plays_of_mem (h.mem_standing he)⟩

end Ran

/-! ## One retry -/

omit [Seconds τ] in
theorem categories_again (o : Order τ) (s : Snapshot τ) :
    (o.again s).categories.filterMap Category.parse? = s.failedCategories := by
  have hparse : Category.parse? ∘ Category.name = some := by
    funext c
    rw [Function.comp_apply, Category.parse?_name]
  show (s.failedCategories.map Category.name).filterMap Category.parse? = s.failedCategories
  rw [List.filterMap_map, hparse, List.filterMap_some]

theorem mem_categories_again {i : Transport → Inquiry τ} (hi : (o.again s).inquiry = .ok i) (t : Transport) :
    c ∈ (i t).categories ↔ c ∈ s.failedCategories := by
  rw [(inquiry_eq_ok hi t).1, Category.mem_distinct, categories_again]

theorem tells_of_fetchSnapshot (h : (fetchSnapshot sur moves (o.again s) w).1.report.outcome = .ok new) :
    new.Tells s.failedCategories ∧ ∃ i t, (o.again s).inquiry = .ok i ∧ new.repository = (i t).repository := by
  rcases fetchSnapshot_cases sur moves (o.again s) w with ⟨fault, -, hreport, -⟩ | ⟨i, t, w₁, hi, ht⟩
  · rw [hreport] at h
    cases h
  · obtain ⟨n, ends, hran⟩ := ht.exists_ran hi moves
    exact ⟨(hran.tells h).congr fun c => mem_categories_again hi t, i, t, hi, (hran.told h).2.1⟩

theorem parseAll_map_name (cs : List Category) :
    Category.parseAll (cs.map Category.name) = .ok (Category.distinct cs) := by
  have hmap {f : String → Except Invalid Category} (hf : ∀ c : Category, f c.name = .ok c) :
      (cs.map Category.name).mapM f = .ok cs := by
    induction cs with
    | nil => rfl
    | cons c cs ih =>
        rw [List.map_cons, List.mapM_cons, ih, hf]
        rfl
  unfold Category.parseAll
  rw [hmap fun c => by simp only [Category.parse?_name]]
  rfl

theorem exists_inquiry_again {options : Options τ} (hoptions : o.config.options.changed o.changes = .ok options)
    (hrepository : Repository.make s.repository.owner s.repository.name = .ok s.repository) :
    ∃ i, (o.again s).inquiry = .ok i ∧ ∀ t, (i t).repository = s.repository := by
  unfold Order.inquiry Order.again
  simp only [hoptions, hrepository, parseAll_map_name]
  exact ⟨_, rfl, fun _ => rfl⟩

theorem retryFailed_of_complete (h : s.isComplete = true) (sur : Service σ τ) (moves : List Move) (o : Order τ)
    (w : ServiceWorld σ τ) : retryFailed sur moves s o w = (⟨⟨.ok s, []⟩, none⟩, w) := if_pos h

/-- The world in which what failed in a snapshot is fetched once more. -/
def retrying (s : Snapshot τ) (w : ServiceWorld σ τ) : ServiceWorld σ τ :=
  let count := s.failedCategories.length
  w.log .info (s!"Retrying {count} failed categories for " ++ s.repository.fullName)

omit [Seconds τ] in
theorem records_retrying (s : Snapshot τ) (w : ServiceWorld σ τ) : w.Records [] [] (retrying s w) :=
  .entry (.log .info _) rfl

theorem retryFailed_eq (h : s.isComplete = false) (sur : Service σ τ) (moves : List Move) (o : Order τ)
    (w : ServiceWorld σ τ) :
    (retryFailed sur moves s o w).1.report.outcome =
        mergeOutcome s (fetchSnapshot sur moves (o.again s) (retrying s w)).1.report.outcome ∧
      (retryFailed sur moves s o w).1.report.tasks =
        (fetchSnapshot sur moves (o.again s) (retrying s w)).1.report.tasks ∧
      (retryFailed sur moves s o w).2 = (fetchSnapshot sur moves (o.again s) (retrying s w)).2 := by
  unfold retryFailed
  rw [if_neg (by simp [h])]
  exact ⟨rfl, rfl, rfl⟩

omit [Seconds τ] in
theorem mergeOutcome_eq_ok {x : Except (Fault τ) (Snapshot τ)} (h : mergeOutcome s x = .ok s') :
    ∃ new, x = .ok new ∧ s.merge new = .ok s' := by
  cases x with
  | error fault => cases h
  | ok new =>
      change Fault.refuse (s.merge new) = .ok s' at h
      cases hmerge : s.merge new with
      | error why => rw [hmerge] at h; cases h
      | ok s'' => rw [hmerge] at h; cases h; exact ⟨new, rfl, hmerge⟩

/-- What a retry does and what comes of it. -/
structure Retries (sur : Service σ τ) (moves : List Move) (s : Snapshot τ) (o : Order τ) (w : ServiceWorld σ τ)
    (r : OrderReport τ) (w' : ServiceWorld σ τ) : Prop where
  /-- A complete snapshot is returned as it is, and nothing happens. -/
  complete : s.isComplete = true → r = ⟨⟨.ok s, []⟩, none⟩ ∧ w' = w
  /-- Each request is made in the work on one of the categories that failed. -/
  requests : ∃ D : List (Category × Deed τ Request Reply),
    Journal.requests (Journal.after w.journal.length w'.journal) = Deed.allRequests D ∧
    ∀ c, Deed.of c D ≠ [] → (s.failures c).isSome ∧ ∃ i t e, (o.again s).inquiry = .ok i ∧
      (program (i t) c).Plays (Deed.of c D) (Program.ended e)
  tasks : ∀ e ∈ r.report.tasks, (s.failures e.1).isSome
  /-- The new findings and failures are those of a census of the categories that failed. -/
  mended : ∀ s', r.report.outcome = .ok s' → s.isComplete = true ∧ s' = s ∨ ∃ new,
    (fetchSnapshot sur moves (o.again s) (retrying s w)).1.report.outcome = .ok new ∧ s.Mended new s'

theorem retries_retryFailed (hs : s.Consistent) (sur : Service σ τ) (moves : List Move) (o : Order τ)
    (w : ServiceWorld σ τ) :
    Retries sur moves s o w (retryFailed sur moves s o w).1 (retryFailed sur moves s o w).2 := by
  cases hcomplete : s.isComplete with
  | true =>
      rw [retryFailed_of_complete hcomplete]
      constructor
      case complete => exact fun _ => ⟨rfl, rfl⟩
      case requests => exact ⟨[], (World.Records.refl w).requests, fun c hc => absurd rfl hc⟩
      case tasks => exact fun e he => absurd he List.not_mem_nil
      case mended => exact fun s' hs' => .inl ⟨hcomplete, (Except.ok.inj hs').symm⟩
  | false =>
      obtain ⟨houtcome, htasks, hworld⟩ := retryFailed_eq hcomplete sur moves o w
      have hcases := fetchSnapshot_cases sur moves (o.again s) (retrying s w)
      constructor
      case complete => exact fun h => nomatch hcomplete.symm.trans h
      case requests =>
        rw [hworld]
        rcases hcases with ⟨fault, -, -, hrecords⟩ | ⟨i, t, w₁, hi, ht⟩
        -- what was ordered makes no sense
        · exact ⟨[], ((records_retrying s w).trans hrecords).requests, fun c hc => absurd rfl hc⟩
        · obtain ⟨n, ends, hran⟩ := ht.exists_ran hi moves
          obtain ⟨granted, hdeeds⟩ := hran.records
          refine ⟨_, (((records_retrying s w).trans ht.records).trans hdeeds).requests, fun c hc => ?_⟩
          obtain ⟨hmem, e, hplays⟩ := hran.exists_plays hc
          exact ⟨Snapshot.mem_failedCategories.mp ((mem_categories_again hi t).mp hmem), i, t, e, hi, hplays⟩
      case tasks =>
        intro e he
        rw [htasks] at he
        rcases hcases with ⟨fault, -, hreport, -⟩ | ⟨i, t, w₁, hi, ht⟩
        · rw [hreport] at he
          cases he
        · obtain ⟨n, ends, hran⟩ := ht.exists_ran hi moves
          exact Snapshot.mem_failedCategories.mp ((mem_categories_again hi t).mp (hran.mem_of_mem_tasks he))
      case mended =>
        intro s' hs'
        rw [houtcome] at hs'
        obtain ⟨new, hnew, hmerge⟩ := mergeOutcome_eq_ok hs'
        exact .inr ⟨new, hnew, Snapshot.mended_of_merge (tells_of_fetchSnapshot hnew).1 hs hmerge⟩

/-- A retry of what makes sense returns a snapshot, unless a worker stalls. -/
theorem retryFailed_returns {sur : Service σ τ} (hquiet : sur.Ordinary) (hmoves : .interrupt ∉ moves)
    {w w₁ : ServiceWorld σ τ} {options : Options τ} (hoptions : o.config.options.changed o.changes = .ok options)
    (hrepository : Repository.make s.repository.owner s.repository.name = .ok s.repository) {t : Transport}
    (ht : Uses sur o (retrying s w) t w₁) :
    ∃ i, (o.again s).inquiry = .ok i ∧
      ((∃ s', (retryFailed sur moves s o w).1.report.outcome = .ok s') ∨
        (retryFailed sur moves s o w).1.report.outcome = .error stalled) ∧
      (OrderedSeconds τ → sur.Punctual (some (i t).flag) → Patient (i t).fetcher s.failedCategories →
        ∃ s', (retryFailed sur moves s o w).1.report.outcome = .ok s') := by
  obtain ⟨i, hi, hsame⟩ := exists_inquiry_again hoptions hrepository
  refine ⟨i, hi, ?_⟩
  cases hcomplete : s.isComplete with
  | true =>
      rw [retryFailed_of_complete hcomplete]
      exact ⟨.inl ⟨s, rfl⟩, fun _ _ _ => ⟨s, rfl⟩⟩
  | false =>
      obtain ⟨houtcome, -, -⟩ := retryFailed_eq hcomplete sur moves o w
      have ht : Uses sur (o.again s) (retrying s w) t w₁ := ht
      obtain ⟨n, hfulfils⟩ := fetchSnapshot_fulfils hquiet hi ht hmoves
      rw [categories_again] at hfulfils
      have hmerged : ∀ new, (fetchSnapshot sur moves (o.again s) (retrying s w)).1.report.outcome = .ok new →
          ∃ s', (retryFailed sur moves s o w).1.report.outcome = .ok s' := by
        intro new hnew
        obtain ⟨htells, i', t', hi', hrepository⟩ := tells_of_fetchSnapshot hnew
        cases hi.symm.trans hi'
        -- the merge refuses nothing here: the repository is the same, and each category is told of once
        obtain ⟨s', hmerge⟩ := Snapshot.exists_merge_eq_ok htells (hrepository.trans (hsame t'))
        refine ⟨s', ?_⟩
        rw [houtcome, hnew]
        show Fault.refuse (s.merge new) = .ok s'
        rw [hmerge]
        rfl
      constructor
      · rcases hfulfils.covers_or_stalled with ⟨new, hcovers⟩ | hstalled
        · exact .inl (hmerged new hcovers.outcome)
        · right
          rw [houtcome, hstalled]
          rfl
      · intro hordered hsur hpatient
        obtain ⟨new, hcovers⟩ := hfulfils.covers hordered hsur hpatient
        exact hmerged new hcovers.outcome

/-! ## One retry after another -/

/-- One snapshot comes of another by a retry, whatever was ordered and whatever the service answered. -/
def Retried (s s' : Snapshot τ) : Prop :=
  ∃ (σ : Type) (sur : Service σ τ) (moves : List Move) (o : Order τ) (w : ServiceWorld σ τ),
    (retryFailed sur moves s o w).1.report.outcome = .ok s'

theorem Retried.continues (hs : s.Consistent) (h : Retried s s') : s.Continues s' := by
  obtain ⟨σ, sur, moves, o, w, houtcome⟩ := h
  rcases (retries_retryFailed hs sur moves o w).mended s' houtcome with ⟨-, rfl⟩ | ⟨new, -, hmended⟩
  · exact .refl hs
  · exact hmended.toContinues

/-- However often what failed is tried again, nothing that was found is lost. -/
theorem continues_of_retried (hs : s.Consistent) (h : Relation.ReflTransGen Retried s s') : s.Continues s' := by
  induction h with
  | refl => exact .refl hs
  | tail _ hlast ih => exact ih.trans (hlast.continues ih.consistent)

/-- A retry requests nothing but what failed, loses nothing that was found, and gives each category that failed its new
finding or its new failure; and so does any number of retries. -/
theorem retryFailed_mends (hs : s.Consistent) :
    (∀ {σ : Type} (sur : Service σ τ) (moves : List Move) (o : Order τ) (w : ServiceWorld σ τ),
      Retries sur moves s o w (retryFailed sur moves s o w).1 (retryFailed sur moves s o w).2 ∧
      ∀ options t w₁, sur.Ordinary → .interrupt ∉ moves → o.config.options.changed o.changes = .ok options →
        Repository.make s.repository.owner s.repository.name = .ok s.repository →
        Uses sur o (retrying s w) t w₁ → ∃ i, (o.again s).inquiry = .ok i ∧
          ((∃ s', (retryFailed sur moves s o w).1.report.outcome = .ok s') ∨
            (retryFailed sur moves s o w).1.report.outcome = .error stalled) ∧
          (OrderedSeconds τ → sur.Punctual (some (i t).flag) → Patient (i t).fetcher s.failedCategories →
            ∃ s', (retryFailed sur moves s o w).1.report.outcome = .ok s')) ∧
    ∀ s', Relation.ReflTransGen Retried s s' → s.Continues s' ∧ s.foundCategories ⊆ s'.foundCategories := by
  constructor
  · intro σ sur moves o w
    refine ⟨retries_retryFailed hs sur moves o w, fun options t w₁ hquiet hmoves hoptions hrepository ht => ?_⟩
    exact retryFailed_returns hquiet hmoves hoptions hrepository ht
  · intro s' h
    have hcontinues := continues_of_retried hs h
    exact ⟨hcontinues, fun c hc => hcontinues.mem_foundCategories hc⟩

/-- A snapshot with the stars in which the languages failed. -/
def halfSnapshot : Snapshot Rat where
  repository := ⟨"o", "n"⟩
  results c := if c = .stars then some ⟨.stars, .count (.number 7), none, 0, 1, false⟩ else none
  failures c := if c = .languages then some ⟨.languages, .cancelled, none, 0⟩ else none
  fetchedAt := 0

/-- A retry with a wayward service, and any further one, keeps the stars. -/
theorem retryFailed_mends_halfSnapshot :
    let w : ServiceWorld Surroundings.Hours Rat := .start ⟨0, 0, false⟩ ⟨0, [], 0⟩
    ∃ s₁, (retryFailed wayward [.step 0] halfSnapshot smallOrder w).1.report.outcome = .ok s₁ ∧
      s₁.categories = [.languages, .stars] ∧ s₁.results .stars = halfSnapshot.results .stars ∧
      ∀ s₂, Retried s₁ s₂ → s₂.results .stars = halfSnapshot.results .stars := by
  intro w
  have hs : halfSnapshot.Consistent := fun c => by cases c <;> simp [halfSnapshot]
  have hsur : wayward.Punctual (some .callers) := Surroundings.punctual_quiet _ _
  have hinquiry : (smallOrder.again halfSnapshot).inquiry =
      .ok fun t => { smallInquiry t with categories := [.languages] } := by rfl
  have hpatient : Patient (smallInquiry .direct).fetcher [.languages] := by decide
  obtain ⟨hone, hmany⟩ := retryFailed_mends hs
  obtain ⟨i, hi, -, hreturned⟩ :=
    (hone wayward [.step 0] smallOrder w).2 .usual .direct _ ordinary_wayward (by decide) rfl rfl ⟨rfl, rfl⟩
  obtain rfl := Except.ok.inj (hinquiry.symm.trans hi)
  obtain ⟨s₁, h₁⟩ := hreturned inferInstance hsur hpatient
  have hretried : Retried halfSnapshot s₁ := ⟨_, _, _, _, _, h₁⟩
  have hcontinues := (hmany s₁ (.single hretried)).1
  refine ⟨s₁, h₁, hcontinues.categories, hcontinues.kept .stars _ rfl, fun s₂ h₂ => ?_⟩
  exact (hmany s₂ (.tail (.single hretried) h₂)).1.kept .stars _ rfl

end Census

end RepoCensus
