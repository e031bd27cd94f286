import Mathlib.Tactic.Choose
import RepoCensus.Proofs.Census.Coverage
import RepoCensus.Proofs.Census.Undisturbed
import RepoCensus.Proofs.Fetch.Concord

/-!
# Categories do not depend on each other

What comes of a category depends on the answers to its own requests alone: not on the other categories, not on
the number of workers, and not on the order in which these take their steps.
-/

namespace RepoCensus

open RepoCensus.Calendar

variable {σ σ₁ σ₂ τ ι : Type}

/-- The inquiry for other categories and with another number of workers. -/
def Inquiry.asking (i : Inquiry τ) (categories : List Category) (concurrency : Option (Given Amount)) : Inquiry τ :=
  { i with categories := categories, concurrency := concurrency }

namespace Census

open Work

/-- What comes of a category, the time of the fetch apart. -/
abbrev Upshot (τ : Type) := Except (Failure τ) Gist

namespace Upshot

def found? : Upshot τ → Option Gist
  | .ok gist => some gist
  | .error _ => none

def failed? : Upshot τ → Option (Failure τ)
  | .ok _ => none
  | .error failure => some failure

end Upshot

variable [Seconds τ]

/-- The request that is made for the page at a cursor. -/
def request (i : Inquiry τ) (category : Category) (cursor : Option String) : Request :=
  i.fetcher.pageRequest i.repository category (Fetcher.comparable category (earlier i category)) cursor

/-! ## The work on one category -/

section

variable {f : Fetcher τ} {flag : Flag} {r : Repository} {category : Category} {previous : Option (Finding τ)}
  {answers : ι → Request → Except (Fault τ) Reply} {common : Request → Except (Fault τ) Reply}

/-- How a service with steady answers behaves towards workers who look at a flag. -/
abbrev steadily (flag : Flag) (answer : Request → Except (Fault τ) Reply) : Behaviour τ Request Reply Unit :=
  (Conduct.steady answer).behaviour (some flag)

/-- What comes of a fetch that ended like this: a failure that the service told is handed on, and any other fault that was
not to be expected counts as a failure, with the attempts that were told. -/
def settledAs {α : Type} (category : Category) (attempts : Nat) :
    Except (Fault τ) (Except (Failure τ) α) → Except (Fault τ) (Except (Failure τ) α)
  | .ok outcome => .ok outcome
  | .error (.failed category reason cause attempts) => .ok (.error ⟨category, reason, cause, attempts⟩)
  | .error fault =>
    if fault.isOrdinary then .ok (.error ⟨category, .transport, some fault, attempts⟩) else .error fault

omit [Seconds τ] in
theorem map_settledAs {α β : Type} (g : α → β) (attempts : Nat) (x : Except (Fault τ) (Except (Failure τ) α)) :
    (settledAs category attempts x).map (Except.map g) = settledAs category attempts (x.map (Except.map g)) := by
  cases x with
  | ok outcome => rfl
  | error fault => cases fault <;> rfl

theorem attains_runTask {G : Type} {B : Behaviour τ Request Reply G} {n : Numbers} {g : G}
    {post : Except (Fault τ) (Outcome τ) → Numbers → G → Prop} (hcalm : B.Calm (some flag))
    (h : Attains B ({ f with flag := some flag }.fetch r category previous) n g fun x n' g' =>
      post (settledAs category (n'.total.getD 0) x) n' g') :
    Attains B (runTask f flag r category previous) n g post := by
  refine .bind (attains_isStopped hcalm (.result_bind (h.mono ?_)))
  intro x n' g' hpost
  split
  · exact .pure hpost
  · exact .pure hpost
  case h_3 fault hnot =>
    have hpost : post (if fault.isOrdinary then .ok (.error ⟨category, .transport, some fault, n'.total.getD 0⟩)
        else .error fault) n' g' := by
      unfold settledAs at hpost
      split at hpost
      · cases ‹_ = _›
      · cases ‹_ = _›
        exact absurd rfl (hnot _ _ _ _)
      · cases ‹_ = _›
        exact hpost
    refine .ite (fun hordinary => ?_) fun hordinary => ?_
    · rw [if_pos hordinary] at hpost
      refine (Passes.log hcalm _ _).attains_bind fun _ => .session_bind ?_
      rintro s rfl
      exact Passes.attains_bind (Passes.updateTask hcalm fun _ => rfl) fun _ => .pure hpost
    · rw [if_neg hordinary] at hpost
      exact .throw hpost

/-- The work on a category comes to one and the same end with services that agree on its requests. -/
theorem concords_runTask (hdirect : f.transport = .direct) (hpatience : 1 ≤ f.patience)
    (hanswers : ∀ i cursor, answers i (f.pageRequest r category (Fetcher.comparable category previous) cursor) =
      common (f.pageRequest r category (Fetcher.comparable category previous) cursor))
    (hhint : ∀ cursor, f.conventions.IsHintless
      (common (f.pageRequest r category (Fetcher.comparable category previous) cursor))) (n : Numbers) :
    ∃ x : Except (Fault τ) (Upshot τ), ∀ i, Attains (steadily flag (answers i)) (runTask f flag r category previous)
      n () fun x' _ _ => x'.map (Except.map Finding.gist) = x := by
  have hdirect' : { f with flag := some flag }.transport = .direct := hdirect
  obtain ⟨x, n', h⟩ : ∃ x n', ∀ i, Attains (steadily flag (answers i))
      ({ f with flag := some flag }.fetch r category previous) n ()
      fun x' n'' _ => x'.map (Except.map Finding.gist) = x ∧ n'' = n' :=
    Fetcher.concords_fetch hdirect' hpatience hanswers hhint n
  refine ⟨settledAs category (n'.total.getD 0) x, fun i => attains_runTask (Conduct.calm _ _) ((h i).mono ?_)⟩
  rintro x' _ _ ⟨rfl, rfl⟩
  exact map_settledAs _ _ _

end

/-! ## Services that are at peace -/

/-- A steady service whose answers tell neither a budget nor how long to wait, in a world where nobody cancels the
work. -/
structure Peaceful (i : Inquiry τ) (sur : Service σ τ) (answer : Request → Except (Fault τ) Reply)
    (w : ServiceWorld σ τ) : Prop where
  steady : sur.Steady answer
  hintless : ∀ q, i.fetcher.conventions.IsHintless (answer q)
  untouched : w.Untouched sur (some i.flag)

/-- The work on a category ended with this upshot. -/
def Comes (o : Upshot τ) (e : TaskEnd τ) : Prop := ∃ outcome, e.1 = .ok outcome ∧ outcome.map Finding.gist = o

/-- This is what comes of a category with a service, whatever others do. -/
def Bound (i : Inquiry τ) (answer : Request → Except (Fault τ) Reply) (category : Category) (o : Upshot τ) : Prop :=
  (program i category).Always (steadily i.flag answer) (fun e _ => Comes o e) ()

section

variable {i : Inquiry τ} {sur : Service σ τ} {sur₁ : Service σ₁ τ} {sur₂ : Service σ₂ τ} {w : ServiceWorld σ τ}
  {w₁ : ServiceWorld σ₁ τ} {w₂ : ServiceWorld σ₂ τ} {answer answer₁ answer₂ : Request → Except (Fault τ) Reply}
  {category : Category}

omit [Seconds τ] in
theorem Peaceful.ordinary (h : Peaceful i sur answer w) : sur.Ordinary := by
  intro q o fault hserve
  rw [h.steady q o] at hserve
  have hhint := h.hintless q
  rw [hserve] at hhint
  exact hhint.1

/-- Nothing keeps the work on a category from telling what came of it. -/
theorem exists_ok_of_run (hordinary : sur.Ordinary) {e : TaskEnd τ} (he : ((program i category).run sur w).1 = some e) :
    ∃ outcome, e.1 = .ok outcome := by
  let c := crew sur i.fetcher.patience True
  have hjoins : { i.fetcher with flag := some i.flag }.Joins c :=
    ⟨rfl, fun h => absurd trivial h, fun h => absurd trivial h⟩
  have halways : (program i category).Always c.behaviour (fun e _ => Ends sur.Ordinary (fun _ => True) e.1)
      ⟨i.fetcher.cost c.prices category, 0, w⟩ :=
    (within_runTask hjoins i.repository category _ _ _ (Nat.le_refl _) (.inl trivial)).mono fun _ _ hend => hend.2
  obtain ⟨_, _, _, hend⟩ := halways.run
  rw [show ((program i category).run c.sur w).1 = some e from he] at hend
  obtain ⟨ds, hdoes⟩ := exists_does_of_run he
  rcases settled_or_interrupted hdoes with ⟨outcome, _, houtcome, -⟩ | hinterrupted
  · exact ⟨outcome, houtcome⟩
  · obtain ⟨fault | outcome, s⟩ := e
    · simp [interruptedBy, show fault.isOrdinary = true from hend hordinary] at hinterrupted
    · exact ⟨outcome, rfl⟩

variable (hdirect : i.fetcher.transport = .direct) (hpatience : 1 ≤ i.fetcher.patience)

include hdirect hpatience

/-- Services that agree on the requests for a category leave it the same upshot. -/
theorem exists_bound (h₁ : Peaceful i sur₁ answer₁ w₁) (hagree : ∀ cursor, answer₁ (request i category cursor) =
    answer₂ (request i category cursor)) : ∃ o, Bound i answer₁ category o ∧ Bound i answer₂ category o := by
  let answers : Bool → Request → Except (Fault τ) Reply := fun second => bif second then answer₂ else answer₁
  have hanswers : ∀ second cursor,
      answers second (request i category cursor) = answer₁ (request i category cursor) := by
    rintro (_ | _) cursor
    · rfl
    · exact (hagree cursor).symm
  obtain ⟨x, h⟩ : ∃ x : Except (Fault τ) (Upshot τ), ∀ second, Attains (steadily i.flag (answers second))
      (runTask i.fetcher i.flag i.repository category (earlier i category)) ⟨none, some 0⟩ ()
      fun x' _ _ => x'.map (Except.map Finding.gist) = x :=
    concords_runTask hdirect hpatience hanswers (fun cursor => h₁.hintless _) _
  have halways : ∀ second, (program i category).Always (steadily i.flag (answers second))
      (fun e _ => e.1.map (Except.map Finding.gist) = x) () := fun second => h second _ rfl
  obtain ⟨e, _, hrun, he, _⟩ := (Conduct.shown_steady h₁.steady (some i.flag)).run (halways false) h₁.untouched
    (Program.throughout (fun _ _ => trivial) _ _)
  obtain ⟨outcome, houtcome⟩ := exists_ok_of_run h₁.ordinary hrun
  have hx : x = .ok (outcome.map Finding.gist) := by
    rw [← he, houtcome]
    rfl
  have hbound : ∀ second, Bound i (answers second) category (outcome.map Finding.gist) := by
    refine fun second => (halways second).mono ?_
    rintro ⟨_ | outcome', s⟩ _ he
    · cases he.trans hx
    · exact ⟨outcome', rfl, Except.ok.inj (he.trans hx)⟩
  exact ⟨_, hbound false, hbound true⟩

end

/-! ## Joining the upshots -/

section

variable {ends : List (Category × Option (TaskEnd τ))} {o : Category → Upshot τ} {requested : List Category}

omit [Seconds τ] in
/-- Findings and failures tell the upshots of the categories that were asked for. -/
theorem told_of_comes (hkeys : ends.map Prod.fst = Category.distinct requested)
    (hends : ∀ e ∈ ends, ∃ a, e.2 = some a ∧ Comes (o e.1) a) (c : Category) :
    (results ends c).map Finding.gist = (if c ∈ requested then (o c).found? else none) ∧
      failures ends c = if c ∈ requested then (o c).failed? else none := by
  have hnodup : (ends.map Prod.fst).Nodup := hkeys ▸ Category.nodup_distinct requested
  have hmem : c ∈ requested ↔ ∃ e, (c, e) ∈ ends := by
    rw [← Category.mem_distinct, ← hkeys]
    simp
  by_cases hc : c ∈ requested
  · obtain ⟨e, he⟩ := hmem.mp hc
    obtain ⟨⟨_, s⟩, rfl, outcome, rfl, ho⟩ := hends _ he
    have ho : outcome.map Finding.gist = o c := ho
    rw [if_pos hc, if_pos hc, results_of_mem hnodup he, failures_of_mem hnodup he, ← ho]
    cases outcome <;> exact ⟨rfl, rfl⟩
  · obtain ⟨hresults, hfailures⟩ := untold_of_not_mem hnodup fun e he => hc (hmem.mpr ⟨e, he⟩)
    rw [if_neg hc, if_neg hc, hresults, hfailures]
    exact ⟨rfl, rfl⟩

end

/-! ## Snapshots -/

section

variable {i : Inquiry τ} {sur : Service σ τ} {sur₁ : Service σ₁ τ} {sur₂ : Service σ₂ τ} {w w' : ServiceWorld σ τ}
  {w₁ : ServiceWorld σ₁ τ} {w₂ : ServiceWorld σ₂ τ} {answer answer₁ answer₂ : Request → Except (Fault τ) Reply}
  {moves moves₁ moves₂ course : List Move} {most most₁ most₂ : Amount}
  {ends : List (Category × Option (TaskEnd τ))} {r : Report τ} {o : Category → Upshot τ}

theorem Peaceful.opening (h : Peaceful i sur answer w) :
    (Census.opening i most w).world.Untouched sur (some i.flag) := by
  have hcomparable : (comparable i w).2.Untouched sur (some i.flag) := by
    unfold comparable
    cases i.previous with
    | none => exact h.untouched
    | some s =>
        by_cases hs : s.repository = i.repository
        · simpa [hs] using h.untouched
        · simpa [hs] using ⟨h.untouched.uncancelled.course .refl rfl, h.untouched.budgets⟩
  exact ⟨hcomparable.uncancelled.course .refl rfl, hcomparable.budgets⟩

/-- In whatever order the workers take their steps, the work on each category comes to its upshot. -/
theorem Ran.comes (h : Ran sur i most w course ends r w') (hpeaceful : Peaceful i sur answer w)
    (hcancel : Move.cancel ∉ course) (hinterrupt : Move.interrupt ∉ course) (ho : ∀ c, Bound i answer c (o c)) :
    ∀ e ∈ ends, ∃ a, e.2 = some a ∧ Comes (o e.1) a := by
  have hcalm : ∀ c a, Comes (o c) a → interrupts a = false := by
    rintro c ⟨_, s⟩ ⟨outcome, rfl, _⟩
    rfl
  have hopening : ∀ e ∈ (opening i most w).seats,
      e.2.Heads (Conduct.steady answer) i.flag (Comes (o e.1)) := by
    intro e he
    obtain ⟨c, _, rfl⟩ := List.mem_map.mp he
    exact ho c
  intro e he
  exact (Pool.heads_moves (Conduct.shown_steady hpeaceful.steady (some i.flag)) hcalm (staff i most) hcancel hinterrupt
    hopening hpeaceful.opening).1 _ (h.mem_standing he)

/-- The snapshot that is reported tells the upshots of the categories that were asked for. -/
theorem Ran.tells_upshots (h : Ran sur i most w course ends r w') (hpeaceful : Peaceful i sur answer w)
    (hcancel : Move.cancel ∉ course) (hinterrupt : Move.interrupt ∉ course) (ho : ∀ c, Bound i answer c (o c)) :
    ∃ s, r.outcome = .ok s ∧ ∀ c,
      (s.results c).map Finding.gist = (if c ∈ i.categories then (o c).found? else none) ∧
        s.failures c = if c ∈ i.categories then (o c).failed? else none := by
  have hends := h.comes hpeaceful hcancel hinterrupt ho
  have hfault : firstFault ends = none := by
    refine List.findSome?_eq_none_iff.mpr ?_
    rintro ⟨c, e⟩ he
    obtain ⟨⟨_, s⟩, rfl, outcome, rfl, _⟩ := hends _ he
    rfl
  obtain ⟨u, rfl⟩ := h.report.resolve_right fun hinterrupted => hinterrupt hinterrupted.1
  rw [close_eq sur i u (results_failures_disjoint h.nodup) hfault]
  exact ⟨_, rfl, told_of_comes h.keys hends⟩

/-- The snapshot that is taken tells the upshots of the categories that were asked for. -/
theorem take_tells (hpeaceful : Peaceful i sur answer w) (hwidth : width i = .ok most) (hmost : most.isBelow 1 = false)
    (hcancel : Move.cancel ∉ moves) (hinterrupt : Move.interrupt ∉ moves) (ho : ∀ c, Bound i answer c (o c)) :
    ∃ s, (take sur moves i w).1.outcome = .ok s ∧ ∀ c,
      (s.results c).map Finding.gist = (if c ∈ i.categories then (o c).found? else none) ∧
        s.failures c = if c ∈ i.categories then (o c).failed? else none := by
  obtain ⟨n, ends, hran⟩ := exists_ran hwidth sur hmost moves w
  exact hran.tells_upshots hpeaceful (not_mem_later (by decide) hcancel n) (not_mem_later (by decide) hinterrupt n) ho

/-- What comes of a category depends on nothing but the answers to its own requests: not on the other categories and
what comes of them, not on the number of workers, and not on the order of their steps. -/
theorem outcomes_eq_of_answers_eq (hdirect : i.fetcher.transport = .direct) (hpatience : 1 ≤ i.fetcher.patience)
    (h₁ : Peaceful i sur₁ answer₁ w₁) (h₂ : Peaceful i sur₂ answer₂ w₂) (categories₁ categories₂ : List Category)
    {concurrency₁ concurrency₂ : Option (Given Amount)}
    (hgiven₁ : concurrency₁.getD (.ok i.fetcher.options.concurrency) = .ok most₁) (hmost₁ : most₁.isBelow 1 = false)
    (hgiven₂ : concurrency₂.getD (.ok i.fetcher.options.concurrency) = .ok most₂) (hmost₂ : most₂.isBelow 1 = false)
    (hcancel₁ : Move.cancel ∉ moves₁) (hcancel₂ : Move.cancel ∉ moves₂)
    (hinterrupt₁ : Move.interrupt ∉ moves₁) (hinterrupt₂ : Move.interrupt ∉ moves₂) :
    ∃ s₁ s₂,
      (take sur₁ moves₁ (i.asking categories₁ concurrency₁) w₁).1.outcome = .ok s₁ ∧
      (take sur₂ moves₂ (i.asking categories₂ concurrency₂) w₂).1.outcome = .ok s₂ ∧
      ∀ c, (c ∈ categories₁ ↔ c ∈ categories₂) →
        (∀ cursor, answer₁ (request i c cursor) = answer₂ (request i c cursor)) →
        (s₁.results c).map Finding.gist = (s₂.results c).map Finding.gist ∧ s₁.failures c = s₂.failures c := by
  have hbound : ∀ c, ∃ o₁ o₂, Bound i answer₁ c o₁ ∧ Bound i answer₂ c o₂ ∧
      ((∀ cursor, answer₁ (request i c cursor) = answer₂ (request i c cursor)) → o₁ = o₂) := by
    intro c
    by_cases hagree : ∀ cursor, answer₁ (request i c cursor) = answer₂ (request i c cursor)
    · obtain ⟨o, ho₁, ho₂⟩ := exists_bound hdirect hpatience h₁ hagree
      exact ⟨o, o, ho₁, ho₂, fun _ => rfl⟩
    · obtain ⟨o₁, ho₁, _⟩ := exists_bound hdirect hpatience h₁ (fun cursor => Eq.refl (answer₁ (request i c cursor)))
      obtain ⟨o₂, ho₂, _⟩ := exists_bound hdirect hpatience h₂ (fun cursor => Eq.refl (answer₂ (request i c cursor)))
      exact ⟨o₁, o₂, ho₁, ho₂, fun h => absurd h hagree⟩
  choose o₁ o₂ ho₁ ho₂ heq using hbound
  have hwidth₁ : width (i.asking categories₁ concurrency₁) = .ok most₁ := width_eq_ok hgiven₁ hmost₁
  have hwidth₂ : width (i.asking categories₂ concurrency₂) = .ok most₂ := width_eq_ok hgiven₂ hmost₂
  have hpeaceful₁ : Peaceful (i.asking categories₁ concurrency₁) sur₁ answer₁ w₁ :=
    ⟨h₁.steady, h₁.hintless, h₁.untouched⟩
  have hpeaceful₂ : Peaceful (i.asking categories₂ concurrency₂) sur₂ answer₂ w₂ :=
    ⟨h₂.steady, h₂.hintless, h₂.untouched⟩
  obtain ⟨s₁, hs₁, htells₁⟩ := take_tells hpeaceful₁ hwidth₁ hmost₁ hcancel₁ hinterrupt₁ ho₁
  obtain ⟨s₂, hs₂, htells₂⟩ := take_tells hpeaceful₂ hwidth₂ hmost₂ hcancel₂ hinterrupt₂ ho₂
  refine ⟨s₁, s₂, hs₁, hs₂, fun c hc hagree => ?_⟩
  obtain ⟨hresult₁, hfailure₁⟩ := htells₁ c
  obtain ⟨hresult₂, hfailure₂⟩ := htells₂ c
  rw [hresult₁, hresult₂, hfailure₁, hfailure₂, heq c hagree]
  have hcategories : c ∈ (i.asking categories₁ concurrency₁).categories ↔
      c ∈ (i.asking categories₂ concurrency₂).categories := hc
  simp only [hcategories, and_self]

end

/-- A service that knows the number of stars, and that has one answer to all requests with parameters. -/
def starry (other : Except (Fault Rat) Reply) : Request → Except (Fault Rat) Reply := fun q =>
  if q.params.isEmpty then .ok ⟨200, [], "\x7b\"stargazers_count\":7\x7d".toUTF8.toList⟩ else other

theorem peaceful_starry {other : Except (Fault Rat) Reply} (hother : Conventions.usual.IsHintless other) :
    Peaceful (smallInquiry .direct) (.quiet fun q _ => starry other q) (starry other)
      (.start ⟨0, 0, false⟩ ⟨0, [], 0⟩) := by
  refine ⟨fun _ _ => rfl, fun q => ?_, ⟨fun _ o ho => ?_, fun _ => rfl⟩, fun _ => rfl⟩
  · unfold starry
    split
    · exact ⟨.inl (by decide +kernel), by decide +kernel⟩
    · exact hother
  · exact Surroundings.stopped_of_course ho

/-- The stars are the same when other categories come with them, when these fail, and with one worker only. -/
theorem outcomes_eq_of_starry :
    let w : ServiceWorld Surroundings.Hours Rat := .start ⟨0, 0, false⟩ ⟨0, [], 0⟩
    let sur₁ : Service Surroundings.Hours Rat := .quiet fun q _ => starry (.ok ⟨404, [], []⟩) q
    let sur₂ : Service Surroundings.Hours Rat := .quiet fun q _ => starry (.error (.timedOut "late" none)) q
    let i := smallInquiry .direct
    ∃ s₁ s₂, (take sur₁ [.step 1, .step 0, .step 1] (i.asking [.stars, .languages] none) w).1.outcome = .ok s₁ ∧
      (take sur₂ [.step 0] (i.asking [.commits, .stars] (some (.ok 1))) w).1.outcome = .ok s₂ ∧
      (s₁.results .stars).map Finding.gist = (s₂.results .stars).map Finding.gist ∧
      s₁.failures .stars = s₂.failures .stars := by
  intro w sur₁ sur₂ i
  have h₁ : Peaceful i sur₁ _ w := peaceful_starry ⟨.inl (by decide +kernel), by decide +kernel⟩
  have h₂ : Peaceful i sur₂ _ w := peaceful_starry ⟨rfl, trivial⟩
  have hgiven₁ : (none : Option (Given Amount)).getD (.ok i.fetcher.options.concurrency) = .ok 4 := rfl
  have hgiven₂ : (some (.ok 1) : Option (Given Amount)).getD (.ok i.fetcher.options.concurrency) = .ok 1 := rfl
  have hcancel₁ : Move.cancel ∉ [.step 1, .step 0, .step 1] := by decide
  have hcancel₂ : Move.cancel ∉ [.step 0] := by decide
  obtain ⟨s₁, s₂, hs₁, hs₂, heq⟩ := outcomes_eq_of_answers_eq rfl (by decide) h₁ h₂ [.stars, .languages]
    [.commits, .stars] hgiven₁ (by decide) hgiven₂ (by decide) hcancel₁ hcancel₂ (by decide) (by decide)
  exact ⟨s₁, s₂, hs₁, hs₂, heq .stars (by decide) fun cursor => by cases cursor <;> rfl⟩

end Census

end RepoCensus
