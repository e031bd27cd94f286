import RepoCensus.Census.Order
import RepoCensus.Proofs.Census.Course
import RepoCensus.Proofs.Settings.Options

/-!
# Every category is covered

A census loses no category. Whatever the service answers, whenever the flag is raised and in whatever order the
workers take their steps, each category that was asked for ends up among the results or among the failures, and
its task tells the same.
-/

namespace RepoCensus

open RepoCensus.Calendar

variable {σ τ : Type}

/-- A report that covers what was requested, after these deeds: each category has a finding or a failure of its own and
never both, no others have any, and each task tells what came of its category. Only a failure that the service itself
told for a category is handed on without the task's hearing of it, and it may name another category. -/
structure Report.Covers (requested : List Category) (D : List (Category × Deed τ Request Reply)) (r : Report τ)
    (s : Snapshot τ) : Prop where
  outcome : r.outcome = .ok s
  disjoint : ∀ c, (s.results c).isSome → (s.failures c).isSome → False
  union : ∀ c, (s.results c).isSome ∨ (s.failures c).isSome ↔ c ∈ requested
  results : ∀ c finding, s.results c = some finding → finding.category = c
  tasks : r.tasks.map Prod.fst = Category.distinct requested
  category : ∀ c t, (c, t) ∈ r.tasks → t.category = c
  succeeded : ∀ c t, (c, t) ∈ r.tasks → (t.stage = .succeeded ↔ (s.results c).isSome)
  failed : ∀ c t, (c, t) ∈ r.tasks → ∀ failure, t.stage = .failed ∧ t.failure = some failure →
    s.failures c = some failure
  failures : ∀ c t, (c, t) ∈ r.tasks → ∀ failure, s.failures c = some failure →
    failure.category = c ∧ t.stage = .failed ∧ t.failure = some failure ∨
      (∃ q, Deed.Answered (Deed.of c D) q (.error failure.toFault)) ∧ t.stage = .inProgress ∧ t.failure = none

namespace Census

/-! ## Ends that are settled -/

section

variable {D : List (Category × Deed τ Request Reply)} {ends : List (Category × Option (TaskEnd τ))} {c : Category}

/-- The work on every category has come to an outcome. -/
def AllSettled (D : List (Category × Deed τ Request Reply)) (ends : List (Category × Option (TaskEnd τ))) : Prop :=
  ∀ c e, (c, e) ∈ ends → ∃ a, e = some a ∧ Settled c (Deed.of c D) a

theorem AllSettled.exists_of_mem (hends : AllSettled D ends) {e : Option (TaskEnd τ)} (he : (c, e) ∈ ends) :
    ∃ outcome s t, e = some (.ok outcome, s) ∧ s.task = some t ∧ t.category = c ∧
      Leaves c (Deed.of c D) t outcome := by
  obtain ⟨⟨x, s⟩, rfl, outcome, t, rfl, ht, hcategory, hleaves⟩ := hends c e he
  exact ⟨outcome, s, t, rfl, ht, hcategory, hleaves⟩

theorem AllSettled.exists_of_mem_tasks (hends : AllSettled D ends) {t : Task τ} (ht : (c, t) ∈ Census.tasks ends) :
    ∃ outcome s, (c, some (.ok outcome, s)) ∈ ends ∧ t.category = c ∧ Leaves c (Deed.of c D) t outcome := by
  obtain ⟨⟨_, e⟩, he, heq⟩ := List.mem_map.mp ht
  obtain ⟨rfl, rfl⟩ := Prod.mk.inj heq
  obtain ⟨outcome, s, t, rfl, ht, hcategory, hleaves⟩ := hends.exists_of_mem he
  simp only [Option.bind_some, ht, Option.getD_some]
  exact ⟨outcome, s, he, hcategory, hleaves⟩

theorem results_failures_disjoint (hnodup : (ends.map Prod.fst).Nodup) (c : Category)
    (hresult : (Census.results ends c).isSome) (hfailure : (Census.failures ends c).isSome) : False := by
  obtain ⟨finding, hresult⟩ := Option.isSome_iff_exists.mp hresult
  obtain ⟨e, he, hfinding⟩ := (results_eq_some_iff hnodup).mp hresult
  rw [failures_of_mem hnodup he] at hfailure
  rcases e with _ | ⟨_ | _ | _, _⟩
  case some.ok.ok => cases hfailure
  all_goals cases hfinding

theorem isSome_results_or_failures_iff (hnodup : (ends.map Prod.fst).Nodup) (hends : AllSettled D ends) (c : Category) :
    (Census.results ends c).isSome ∨ (Census.failures ends c).isSome ↔ c ∈ ends.map Prod.fst := by
  constructor
  · rintro (h | h)
    · obtain ⟨finding, h⟩ := Option.isSome_iff_exists.mp h
      obtain ⟨e, he, _⟩ := (results_eq_some_iff hnodup).mp h
      exact List.mem_map_of_mem he
    · obtain ⟨failure, h⟩ := Option.isSome_iff_exists.mp h
      obtain ⟨e, he, _⟩ := (failures_eq_some_iff hnodup).mp h
      exact List.mem_map_of_mem he
  · intro h
    obtain ⟨⟨_, e⟩, he, rfl⟩ := List.mem_map.mp h
    rw [results_of_mem hnodup he, failures_of_mem hnodup he]
    obtain ⟨outcome, s, -, rfl, -⟩ := hends.exists_of_mem he
    cases outcome with
    | ok finding => exact .inl rfl
    | error failure => exact .inr rfl

theorem covers_of_allSettled {requested : List Category} (hkeys : ends.map Prod.fst = Category.distinct requested)
    (hends : AllSettled D ends) (r : Repository) (now : τ) :
    Report.Covers requested D ⟨.ok ⟨r, results ends, failures ends, now⟩, tasks ends⟩
      ⟨r, results ends, failures ends, now⟩ := by
  have hnodup : (ends.map Prod.fst).Nodup := hkeys ▸ Category.nodup_distinct requested
  constructor
  case outcome => rfl
  case disjoint => exact results_failures_disjoint hnodup
  case union =>
    intro c
    rw [← Category.mem_distinct, ← hkeys]
    exact isSome_results_or_failures_iff hnodup hends c
  case results =>
    intro c finding h
    obtain ⟨e, he, hfinding⟩ := (results_eq_some_iff hnodup).mp h
    obtain ⟨outcome, s, t, rfl, -, -, hleaves⟩ := hends.exists_of_mem he
    cases hleaves with
    | found hcategory =>
        cases hfinding
        exact hcategory
    | failed | handed => cases hfinding
  case tasks =>
    rw [← hkeys]
    simp [tasks]
  case category =>
    intro c t ht
    obtain ⟨_, _, _, hcategory, _⟩ := hends.exists_of_mem_tasks ht
    exact hcategory
  case succeeded =>
    intro c t ht
    obtain ⟨outcome, s, he, -, hleaves⟩ := hends.exists_of_mem_tasks ht
    show _ ↔ (Census.results ends c).isSome
    rw [results_of_mem hnodup he]
    cases hleaves with
    | found _ hstage => simp [hstage, findingOf]
    | failed _ hstage | handed _ hstage => simp [hstage, findingOf]
  case failed =>
    rintro c t ht failure ⟨hstage, htold⟩
    obtain ⟨outcome, s, he, -, hleaves⟩ := hends.exists_of_mem_tasks ht
    refine (failures_of_mem hnodup he).trans ?_
    cases hleaves with
    | failed _ _ htold' => exact htold'.symm.trans htold
    | found _ hstage' | handed _ hstage' => cases hstage.symm.trans hstage'
  case failures =>
    intro c t ht failure h
    obtain ⟨outcome, s, he, -, hleaves⟩ := hends.exists_of_mem_tasks ht
    have hfailure := (failures_of_mem hnodup he).symm.trans h
    cases hleaves with
    | found => cases hfailure
    | failed hcategory hstage htold =>
        cases hfailure
        exact .inl ⟨hcategory, hstage, htold⟩
    | handed hanswered hstage huntold =>
        cases hfailure
        exact .inr ⟨hanswered, hstage, huntold⟩

theorem outcome_close_of_fault [Seconds τ] {fault : Fault τ} (hfault : firstFault ends = some fault)
    (sur : Service σ τ) (i : Inquiry τ) (w : ServiceWorld σ τ) : (close sur i ends w).1.outcome = .error fault := by
  unfold close
  rw [hfault]

end

/-- The fault of a worker that stalled. -/
def stalled : Fault τ := .unexpected "A worker stalled"

/-! ## Censuses -/

variable [Seconds τ]

/-- The workers of a census, who pay for the budgets that they pass on. -/
def crew (sur : Service σ τ) (patience : Nat) (stalls : Prop) : Crew σ τ Request Reply :=
  ⟨sur, ⟨0, 1⟩, patience, stalls⟩

/-- The attempts at requests that a category may need. -/
def mostAttempts (f : Fetcher τ) (category : Category) : Nat :=
  f.mostRequests category * f.retry.attempts

omit [Seconds τ] in
theorem cost_eq_mostAttempts (f : Fetcher τ) (category : Category) :
    f.cost ⟨0, 1⟩ category = mostAttempts f category := by
  simp [Fetcher.cost, Fetcher.sendCost, mostAttempts]

/-- A patience that outlasts all budgets that the workers can pass on. -/
def Patient (f : Fetcher τ) (categories : List Category) : Prop :=
  Pool.totalCost (mostAttempts f) (Category.distinct categories) + 2 ≤ f.patience

omit [Seconds τ] in
instance (f : Fetcher τ) (categories : List Category) : Decidable (Patient f categories) :=
  inferInstanceAs (Decidable (_ ≤ _))

/-- What a census that makes these moves until all work is over reports of the categories that were requested: it covers
them, or it tells of a worker that stalled. No worker stalls whose clock is punctual and who is patient enough. -/
structure Fulfils (sur : Service σ τ) (i : Inquiry τ) (most : Amount) (w : ServiceWorld σ τ) (course : List Move)
    (requested : List Category) (r : Report τ) : Prop where
  ended : ∀ e ∈ (standing sur i most w course).seats, ∃ a, e.2 = .over a
  covers_or_stalled : (∃ s, r.Covers requested (deeds sur i most w [] course) s) ∨ r.outcome = .error stalled
  covers : OrderedSeconds τ → sur.Punctual (some i.flag) → Patient i.fetcher requested →
    ∃ s, r.Covers requested (deeds sur i most w [] course) s

section

variable {sur : Service σ τ} {i : Inquiry τ} {most : Amount} {w w' : ServiceWorld σ τ} {course : List Move}
  {ends : List (Category × Option (TaskEnd τ))} {r : Report τ} {c : Category}

namespace Ran

section

variable (h : Ran sur i most w course ends r w')

include h

/-- A worker comes to an end, which is an interruption only if the service has such, unless it may stall. -/
theorem reached {stalls : Prop}
    (hjoins : { i.fetcher with flag := some i.flag }.Joins (crew sur i.fetcher.patience stalls))
    (hpatient : stalls ∨ Patient i.fetcher i.categories) {e : Option (TaskEnd τ)} (he : (c, e) ∈ ends) :
    (crew sur i.fetcher.patience stalls).Reached (fun e => Ends sur.Ordinary (fun _ => True) e.1) e := by
  let programs := (Category.distinct i.categories).map fun c => (c, program i c)
  have hkeys : programs.map Prod.fst = Category.distinct i.categories := (List.map_map ..).trans (List.map_id _)
  have hmem := h.mem_standing he
  unfold standing opening at hmem
  have hseats : (Category.distinct i.categories).map (fun c => (c, Seat.open (program i c))) =
      programs.map fun (c, p) => (c, .open p) := by
    rw [List.map_map]
    rfl
  rw [hseats] at hmem
  let post : Category → TaskEnd τ → Prop := fun _ e => Ends sur.Ordinary (fun _ => True) e.1
  show (crew sur i.fetcher.patience stalls).Reached (post c) e
  refine Pool.reached_of_moves (c := crew sur i.fetcher.patience stalls) rfl (mostAttempts i.fetcher) ?_ (staff i most)
    course hmem
  intro e he others hothers
  obtain ⟨c, _, rfl⟩ := List.mem_map.mp he
  rw [hkeys] at hothers
  have hendures : (crew sur i.fetcher.patience stalls).Endures others := by
    refine hpatient.imp id fun hpatient => ?_
    unfold Patient at hpatient
    show others + 2 ≤ i.fetcher.patience
    omega
  refine (within_runTask hjoins i.repository c _ _ _ ?_ hendures).mono fun _ _ hend => hend.2
  exact Nat.le_of_eq (cost_eq_mostAttempts i.fetcher c)

/-- Either all categories are settled, or the first worker without an outcome stalled or was interrupted. -/
theorem cases : AllSettled (deeds sur i most w [] course) ends ∧ firstFault ends = none ∨
    (∃ c, (c, none) ∈ ends) ∧ firstFault ends = some stalled ∨
    ∃ c fault s, (c, some (.error fault, s)) ∈ ends ∧ fault.isOrdinary = false ∧ firstFault ends = some fault := by
  have hsettled : ∀ {c e}, (c, some e) ∈ ends →
      Settled c (Deed.of c (deeds sur i most w [] course)) e ∨ isInterrupted e.1 = true :=
    fun he => settled_or_interrupted (h.does he)
  cases hfault : firstFault ends with
  | none =>
      refine .inl ⟨fun c e he => ?_, rfl⟩
      have hnone := List.findSome?_eq_none_iff.mp hfault (c, e) he
      rcases e with _ | ⟨_ | outcome, s⟩
      · cases hnone
      · cases hnone
      · exact ⟨_, rfl, (hsettled he).resolve_right nofun⟩
  | some fault =>
      right
      obtain ⟨⟨c, e⟩, he, hsome⟩ := List.exists_of_findSome?_eq_some hfault
      rcases e with _ | ⟨fault' | outcome, s⟩
      · exact .inl ⟨⟨c, he⟩, hsome.symm⟩
      · cases hsome
        refine .inr ⟨c, fault, s, he, ?_, rfl⟩
        rcases hsettled he with ⟨_, _, houtcome, _⟩ | hinterrupted
        · cases houtcome
        · simpa [interruptedBy] using hinterrupted
      · cases hsome

end

/-- The report on categories that are settled covers them. -/
theorem exists_covers (h : Ran sur i most w course ends r w') (hinterrupt : .interrupt ∉ course)
    (hends : AllSettled (deeds sur i most w [] course) ends) (hfault : firstFault ends = none) :
    ∃ s, r.Covers i.categories (deeds sur i most w [] course) s := by
  obtain ⟨u, rfl⟩ := h.report.resolve_right fun hinterrupted => hinterrupt hinterrupted.1
  rw [close_eq sur i u (results_failures_disjoint h.nodup) hfault]
  exact ⟨_, covers_of_allSettled h.keys hends _ _⟩

/-- Where nobody is interrupted, the report covers what was requested, unless a worker stalls who may. -/
theorem covers_or_stalled (h : Ran sur i most w course ends r w') (hinterrupt : .interrupt ∉ course)
    (hquiet : sur.Ordinary) {stalls : Prop}
    (hjoins : { i.fetcher with flag := some i.flag }.Joins (crew sur i.fetcher.patience stalls))
    (hpatient : stalls ∨ Patient i.fetcher i.categories) :
    (∃ s, r.Covers i.categories (deeds sur i most w [] course) s) ∨ r.outcome = .error stalled ∧ stalls := by
  rcases h.cases with ⟨hends, hfault⟩ | ⟨⟨c, he⟩, hfault⟩ | ⟨c, fault, s, he, hordinary, -⟩
  · exact .inl (h.exists_covers hinterrupt hends hfault)
  · obtain ⟨u, rfl⟩ := h.report.resolve_right fun hinterrupted => hinterrupt hinterrupted.1
    exact .inr ⟨outcome_close_of_fault hfault sur i u, h.reached hjoins hpatient he⟩
  · have hend := h.reached hjoins hpatient he
    cases (hend hquiet).symm.trans hordinary

theorem fulfils (h : Ran sur i most w course ends r w') (hinterrupt : .interrupt ∉ course) (hquiet : sur.Ordinary) :
    Fulfils sur i most w course i.categories r where
  ended := h.all_over
  covers_or_stalled := by
    have hjoins : { i.fetcher with flag := some i.flag }.Joins (crew sur i.fetcher.patience True) :=
      ⟨rfl, fun h => absurd trivial h, fun h => absurd trivial h⟩
    exact (h.covers_or_stalled hinterrupt hquiet hjoins (.inl trivial)).imp id And.left
  covers := by
    intro hordered hsur hpatient
    have hjoins : { i.fetcher with flag := some i.flag }.Joins (crew sur i.fetcher.patience False) :=
      ⟨rfl, fun _ => hordered, fun _ => hsur⟩
    exact (h.covers_or_stalled hinterrupt hquiet hjoins (.inr hpatient)).resolve_right And.right

end Ran

theorem Fulfils.of_distinct {cs : List Category} (h : Fulfils sur i most w course (Category.distinct cs) r) :
    Fulfils sur i most w course cs r := by
  have hcovers : (∃ s, r.Covers (Category.distinct cs) (deeds sur i most w [] course) s) →
      ∃ s, r.Covers cs (deeds sur i most w [] course) s := by
    rintro ⟨s, hs⟩
    exact ⟨s, { hs with
      union := fun c => (hs.union c).trans Category.mem_distinct
      tasks := hs.tasks.trans (Category.distinct_distinct cs) }⟩
  constructor
  · exact h.ended
  · exact h.covers_or_stalled.imp hcovers id
  · intro hordered hsur hpatient
    refine hcovers (h.covers hordered hsur ?_)
    unfold Patient
    rwa [Category.distinct_distinct]

end

/-! ## Orders -/

theorem inquiry_eq_ok {o : Order τ} {i : Transport → Inquiry τ} (h : o.inquiry = .ok i) (t : Transport) :
    (i t).categories = Category.distinct (o.categories.filterMap Category.parse?) ∧
      (i t).concurrency = none ∧ (i t).fetcher.options.concurrency.isBelow 1 = false := by
  unfold Order.inquiry at h
  cases hoptions : o.config.options.changed o.changes with
  | error fault => rw [hoptions] at h; cases h
  | ok options =>
      cases hrepository : Repository.make o.owner o.name with
      | error why => rw [hoptions, hrepository] at h; cases h
      | ok repository =>
          cases hcategories : Category.parseAll o.categories with
          | error why => rw [hoptions, hrepository, hcategories] at h; cases h
          | ok categories =>
              rw [hoptions, hrepository, hcategories] at h
              cases h
              exact ⟨Category.eq_of_parseAll hcategories, rfl,
                (Draft.accepted_of_checked hoptions).concurrency⟩

/-- The world in which the client of an order is made. -/
def connecting (o : Order τ) (w : ServiceWorld σ τ) : ServiceWorld σ τ :=
  w.log (Transport.openingNote o.credential).1 (Transport.openingNote o.credential).2

/-- The transport over which an order is carried out, and the world in which that begins. -/
def Uses (sur : Service σ τ) (o : Order τ) (w : ServiceWorld σ τ) (t : Transport) (w₁ : ServiceWorld σ τ) : Prop :=
  if o.direct then t = .direct ∧ w₁ = w else t = .wire o.client ∧ (connecting o w).connect sur o.client = .ok w₁

section

variable {sur : Service σ τ} {o : Order τ} {w w₁ : ServiceWorld σ τ} {t : Transport} {i : Transport → Inquiry τ}

omit [Seconds τ] in
theorem Uses.records (ht : Uses sur o w t w₁) : w.Records [] [] w₁ := by
  unfold Uses at ht
  split at ht
  · exact ht.2 ▸ .refl w
  · have hlog : w.Records [] [] (connecting o w) := .entry (.log _ _) rfl
    exact hlog.trans (World.records_connect ht.2)

/-- An order that makes sense is carried out over its transport. -/
theorem Uses.fetchSnapshot_eq (ht : Uses sur o w t w₁) (hi : o.inquiry = .ok i) (moves : List Move) :
    (fetchSnapshot sur moves o w).1.report = (take sur moves (i t) w₁).1 ∧
      (fetchSnapshot sur moves o w).2 = (take sur moves (i t) w₁).2 := by
  unfold Uses connecting at ht
  unfold fetchSnapshot
  rw [hi]
  by_cases hdirect : o.direct = true
  · rw [if_pos hdirect] at ht
    obtain ⟨rfl, rfl⟩ := ht
    simp only [if_pos hdirect, and_self]
  · rw [if_neg hdirect] at ht
    obtain ⟨rfl, hconnect⟩ := ht
    simp only [if_neg hdirect, hconnect, and_self]

variable (sur) in
/-- An order that makes no sense, or whose client cannot be made, is refused with a fault of its own; any other is
carried out. -/
theorem fetchSnapshot_cases (moves : List Move) (o : Order τ) (w : ServiceWorld σ τ) :
    (∃ fault, (o.inquiry = .error fault ∨ fault.isOrdinary = true ∧ ∀ t w₁, ¬ Uses sur o w t w₁) ∧
      (fetchSnapshot sur moves o w).1.report = ⟨.error fault, []⟩ ∧ w.Records [] [] (fetchSnapshot sur moves o w).2) ∨
    ∃ i t w₁, o.inquiry = .ok i ∧ Uses sur o w t w₁ := by
  cases hinquiry : o.inquiry with
  | error fault =>
      left
      unfold fetchSnapshot
      simp only [hinquiry]
      exact ⟨fault, .inl rfl, rfl, .refl w⟩
  | ok i =>
      by_cases hdirect : o.direct = true
      · exact .inr ⟨i, .direct, w, rfl, (if_pos hdirect).mpr ⟨rfl, rfl⟩⟩
      · cases hconnect : (connecting o w).connect sur o.client with
        | ok w₁ => exact .inr ⟨i, .wire o.client, w₁, rfl, (if_neg hdirect).mpr ⟨rfl, hconnect⟩⟩
        | error why =>
            left
            refine ⟨.anomaly why, .inr ⟨rfl, fun t w₁ ht => ?_⟩, ?_⟩
            · have hmade := ((if_neg hdirect).mp ht).2
              cases hmade.symm.trans hconnect
            · unfold connecting at hconnect
              unfold fetchSnapshot
              simp only [hinquiry, if_neg hdirect, hconnect]
              exact ⟨trivial, .entry (.log _ _) rfl⟩

/-- An order that makes sense is carried out as a census. -/
theorem Uses.exists_ran (ht : Uses sur o w t w₁) (hi : o.inquiry = .ok i) (moves : List Move) :
    ∃ n ends, Ran sur (i t) (i t).fetcher.options.concurrency w₁ (moves ++ List.replicate n (.step 0)) ends
      (fetchSnapshot sur moves o w).1.report (fetchSnapshot sur moves o w).2 := by
  obtain ⟨-, hconcurrency, hmost⟩ := inquiry_eq_ok hi t
  have hwidth : width (i t) = .ok (i t).fetcher.options.concurrency := width_eq_ok (by rw [hconcurrency]; rfl) hmost
  obtain ⟨hreport, hworld⟩ := ht.fetchSnapshot_eq hi moves
  rw [hreport, hworld]
  exact Census.exists_ran hwidth sur hmost moves w₁

theorem fetchSnapshot_fulfils (hquiet : sur.Ordinary) (hi : o.inquiry = .ok i) (ht : Uses sur o w t w₁)
    {moves : List Move} (hmoves : .interrupt ∉ moves) :
    ∃ n, Fulfils sur (i t) (i t).fetcher.options.concurrency w₁ (moves ++ List.replicate n (.step 0))
      (o.categories.filterMap Category.parse?) (fetchSnapshot sur moves o w).1.report := by
  obtain ⟨n, ends, hran⟩ := ht.exists_ran hi moves
  have h := hran.fulfils (not_mem_later (by decide) hmoves n) hquiet
  rw [(inquiry_eq_ok hi t).1] at h
  exact ⟨n, h.of_distinct⟩

end

/-- A service that has an empty page for every other request, and an unexpected fault for the rest. -/
def wayward : Service Surroundings.Hours Rat :=
  .quiet fun _ n => if n % 2 = 0 then .error (.unexpected "boom") else .ok ⟨200, [], "[]".toUTF8.toList⟩

theorem ordinary_wayward : wayward.Ordinary := by
  refine Surroundings.ordinary_quiet fun q n fault h => ?_
  split at h
  · cases h; rfl
  · cases h

/-- An order for three names of two categories. -/
def smallOrder : Order Rat :=
  { Order.of "o" "n" (.ofEnvironment ⟨none, none⟩ none .usual) 50007 900 with
    categories := ["Stars", "languages", " STARS "]
    direct := true
    flag := .callers }

def smallInquiry (t : Transport) : Inquiry Rat where
  fetcher := ⟨t, none, usualUrl, .usual, .usual, none, 50007, 900⟩
  flag := .callers
  repository := ⟨"o", "n"⟩
  categories := [.stars, .languages]
  concurrency := none
  previous := none

end Census

end RepoCensus
