import RepoCensus.Proofs.Census.Independence
import RepoCensus.Proofs.Fetch.Heed

/-!
# Censuses whose flag is raised

Once the flag is raised, work that has not begun asks the service for nothing, and work that is under way makes at most
one more request. Each category is reported nevertheless, and a finding is backed by all the answers that it needs.
-/

namespace RepoCensus

open RepoCensus.Calendar

variable {σ τ : Type}

/-- The fetcher of the workers, who look at the flag of the inquiry. -/
def Inquiry.worker (i : Inquiry τ) : Fetcher τ := { i.fetcher with flag := some i.flag }

namespace Census

open Work

variable [Seconds τ]

/-! ## The work on one category -/

section

variable {i : Inquiry τ} {category : Category} {ds : List (Deed τ Request Reply)}

/-- What the finding of a category rests upon, given the answers that were heard. -/
def Backed (i : Inquiry τ) (category : Category) (Heard : Request → Except (Fault τ) Reply → Prop)
    (finding : Finding τ) : Prop :=
  i.worker.Backed i.repository category (Fetcher.comparable category (earlier i category)) Heard finding

/-- What is watched while the work on a category is done. -/
def watch (i : Inquiry τ) (category : Category) (Heard : Request → Except (Fault τ) Reply → Prop) :
    Watch τ Request Reply :=
  i.worker.watch i.flag i.repository category (Fetcher.comparable category (earlier i category)) Heard

theorem heeds_runTask (i : Inquiry τ) (category : Category) (Heard : Request → Except (Fault τ) Reply → Prop) :
    Heeds (watch i category Heard) false false
      (fun outcome => ∀ finding, outcome = .ok finding → Backed i category Heard finding)
      (runTask i.fetcher i.flag i.repository category (earlier i category)) := by
  have hflag : some i.flag = some (watch i category Heard).flag := rfl
  refine Heeds.isStopped_bind hflag ((Heeds.updateTask _).bind fun _ _ => .pure nofun) ?_
  have hworker : i.worker.flag = some i.flag := rfl
  have hfetch := Fetcher.heeds_fetch hworker i.repository category (earlier i category) Heard
  refine hfetch.strengthen.result.bind fun outcome houtcome => ?_
  split
  · exact .pure houtcome
  · exact .pure nofun
  · refine .ite (fun _ => ?_) fun _ => .throw houtcome
    refine (Heeds.log _ _).bind fun _ _ => Heeds.session.bind fun s _ => ?_
    exact (Heeds.updateTask _).bind fun _ _ => .pure nofun

theorem always_program (i : Inquiry τ) (category : Category) (Heard : Request → Except (Fault τ) Reply → Prop) :
    (program i category).Always (watch i category Heard).behaviour
      (fun e _ => Tells (watch i category Heard).Told
        (fun outcome => ∀ finding, outcome = .ok finding → Backed i category Heard finding) e.1) false :=
  (heeds_runTask i category Heard _ false (Bool.le_refl _)).mono fun _ _ h => h.mono fun _ h => h.2

/-- Work that begins when the flag is raised fails at once. -/
theorem cancelled_of_plays {e : Option (TaskEnd τ)} (h : (program i category).Plays ds (Program.ended e))
    (hraised : ∀ d ∈ ds, d.FindsRaised i.flag) :
    ∃ s, e = some (.ok (.error ⟨category, .cancelled, none, 0⟩), s) := by
  -- the first step is to look at the flag, the second one to note the failure
  obtain ⟨a, ds, rfl, hfirst⟩ := h.exists_of_act
  cases (hraised _ (List.mem_cons_self ..) rfl : a = true)
  obtain ⟨_, ds, -, hsecond⟩ := hfirst.exists_of_act
  cases e with
  | none => cases hsecond
  | some e => exact ⟨_, congrArg some hsecond.done_inj⟩

end

section

variable {sur : Service σ τ} {i : Inquiry τ} {most : Amount} {w : ServiceWorld σ τ} {c : Category}
  {before later : List Move}

/-! ## Requests after the flag is raised -/

section

variable (hlasting : sur.Lasting) (hraised : (standing sur i most w before).world.isRaised sur i.flag = true)

include hlasting hraised

theorem findsRaised_later (c : Category) (later : List Move) :
    ∀ d ∈ Deed.of c (deeds sur i most w before later), d.FindsRaised i.flag := fun _ hd =>
  Pool.findsRaised_deeds hlasting (staff i most) later hraised _ (Deed.mem_of.mp hd)

/-- There are no requests for a category but those that the deeds for it allow. -/
theorem restrained_later (c : Category) (later : List Move) :
    Deed.Restrained (Deed.respite i.flag (Deed.of c (deeds sur i most w [] before)))
      (Deed.of c (deeds sur i most w before later)) := by
  by_cases hc : c ∈ i.categories
  · obtain ⟨seat, seat', hmem, hlater⟩ := exists_seat hc before later
    have hheard : ∀ d : Deed τ Request Reply, d.Hears fun _ _ => True :=
      fun _ => Deed.hears_of_forall fun _ _ _ => trivial
    have hstands := (always_program i c fun _ _ => True).plays (plays_of_mem hmem) fun d _ => hheard d
    exact hstands.restrained hlater (fun d _ => hheard d) (findsRaised_later hlasting hraised c later)
  · rw [of_deeds_eq_nil sur i most w hc before later]
    trivial

theorem requests_eq_nil_of_unbegun (h : Deed.of c (deeds sur i most w [] before) = []) (later : List Move) :
    Deed.requests (Deed.of c (deeds sur i most w before later)) = [] := by
  have hrestrained := restrained_later hlasting hraised c later
  rw [h] at hrestrained
  exact hrestrained.requests_eq_nil

/-- A single worker goes on with nothing but the category of the latest deed. -/
theorem requests_eq_nil_of_alone (halone : staff i most = 1)
    (hc : (deeds sur i most w [] before).getLast?.map Prod.fst ≠ some c) (later : List Move) :
    Deed.requests (Deed.of c (deeds sur i most w before later)) = [] := by
  have horderly : Pool.Orderly (deeds sur i most w [] before) (standing sur i most w before).seats :=
    Pool.orderly_moves (D := []) halone before (nodup_standing sur i most w [])
      (Pool.orderly_of_untouched fun _ _ => rfl)
  by_cases hmem : c ∈ i.categories
  · obtain ⟨seat, seat', hmem, hlater⟩ := exists_seat hmem before later
    rcases horderly.untouched_or_last hmem with ⟨a, rfl⟩ | hnone | hlast
    · rw [hlater.eq_nil_of_ended]
      rfl
    · exact requests_eq_nil_of_unbegun hlasting hraised hnone later
    · exact absurd hlast hc
  · rw [of_deeds_eq_nil sur i most w hmem before later]
    rfl

/-- If its deeds allow the category of the latest one no request, a single worker makes none at all. -/
theorem allRequests_eq_nil_of_alone (halone : staff i most = 1)
    (hrespite : ∀ c, (deeds sur i most w [] before).getLast?.map Prod.fst = some c →
      Deed.respite i.flag (Deed.of c (deeds sur i most w [] before)) = false)
    (later : List Move) : Deed.allRequests (deeds sur i most w before later) = [] := by
  have hnone : ∀ c, Deed.requests (Deed.of c (deeds sur i most w before later)) = [] := by
    intro c
    by_cases hc : (deeds sur i most w [] before).getLast?.map Prod.fst = some c
    · exact Deed.Restrained.requests_eq_nil (hrespite c hc ▸ restrained_later hlasting hraised c later)
    · exact requests_eq_nil_of_alone hlasting hraised halone hc later
  exact (Deed.allRequests_eq fun c _ => hnone c).trans (hnone .stars)

end

end

/-! ## The ends of a census -/

section

variable {sur : Service σ τ} {i : Inquiry τ} {most : Amount} {w w' : ServiceWorld σ τ} {c : Category}
  {before later course : List Move} {ends : List (Category × Option (TaskEnd τ))} {r : Report τ}

/-- A finding is backed by the answers that were given to the requests for its category. -/
theorem Ran.backed (h : Ran sur i most w course ends r w') {finding : Finding τ}
    (hfinding : results ends c = some finding) :
    Backed i c (fun q a => (c, ⟨.ask q, a⟩) ∈ deeds sur i most w [] course) finding := by
  obtain ⟨e, he, hfinding⟩ := (results_eq_some_iff h.nodup).mp hfinding
  let Heard : Request → Except (Fault τ) Reply → Prop := fun q a => (c, ⟨.ask q, a⟩) ∈ deeds sur i most w [] course
  have hheard : ∀ d ∈ Deed.of c (deeds sur i most w [] course), d.Hears Heard := by
    refine fun d hd => Deed.hears_of_forall ?_
    rintro q a rfl
    exact Deed.mem_of.mp hd
  have hended := (always_program i c Heard).plays (plays_of_mem (h.mem_standing he)) hheard
  unfold findingOf at hfinding
  split at hfinding
  · cases hfinding
    exact hended _ rfl
  · cases hfinding

/-- A category that was not begun when the flag was raised fails. -/
theorem Ran.failures_of_unbegun (h : Ran sur i most w course ends r w') (hlasting : sur.Lasting)
    (hraised : (standing sur i most w before).world.isRaised sur i.flag = true) (hcourse : course = before ++ later)
    (hc : c ∈ i.categories) (hunbegun : Deed.of c (deeds sur i most w [] before) = []) :
    failures ends c = some ⟨c, .cancelled, none, 0⟩ := by
  obtain ⟨e, he⟩ := h.mem_iff.mp hc
  have hmem := h.mem_standing he
  rw [hcourse] at hmem
  obtain ⟨seat, hseat, hlater⟩ := exists_plays_later hmem
  have hbegun := plays_of_mem hseat
  rw [hunbegun] at hbegun
  rw [hbegun.eq_of_nil] at hlater
  obtain ⟨s, rfl⟩ := cancelled_of_plays hlater (findsRaised_later hlasting hraised _ later)
  exact failures_of_mem h.nodup he

end

/-! ## Whole censuses -/

/-- What a census still does if the flag is raised after `done`, and what is reported then. -/
structure Stops (i : Inquiry τ) (most : Amount) (done rest : List (Category × Deed τ Request Reply)) (r : Report τ) :
    Prop where
  /-- A fetch makes another request only if it has looked at the flag since its latest request or wait. -/
  restrained : ∀ c, Deed.Restrained (Deed.respite i.flag (Deed.of c done)) (Deed.of c rest)
  at_most_one : ∀ c, (Deed.requests (Deed.of c rest)).length ≤ 1
  /-- If its latest deed is a request or a wait, a fetch makes no more requests. -/
  busy : ∀ c, (Deed.of c done).getLast?.any Deed.isBusy = true → Deed.requests (Deed.of c rest) = []
  unbegun : ∀ c ∈ i.categories, Deed.of c done = [] → Deed.requests (Deed.of c rest) = [] ∧
    ∀ s, r.outcome = .ok s → s.failures c = some ⟨c, .cancelled, none, 0⟩
  /-- A single worker goes on with nothing but the category of the latest deed. -/
  alone : staff i most = 1 → ∀ c, done.getLast?.map Prod.fst ≠ some c → Deed.requests (Deed.of c rest) = []
  /-- If that category is left no request, a single worker makes none at all. -/
  silent : staff i most = 1 → (∀ c, done.getLast?.map Prod.fst = some c →
    Deed.respite i.flag (Deed.of c done) = false) → Deed.allRequests rest = []

/-- What is known of a census that makes these moves until all work is over: its requests are those of its deeds, its
findings are backed by the answers to them, and it stops when the flag is raised, whenever that is. -/
structure HeedsFlag (sur : Service σ τ) (i : Inquiry τ) (most : Amount) (w : ServiceWorld σ τ) (course : List Move)
    (r : Report τ) (w' : ServiceWorld σ τ) : Prop where
  ended : ∀ e ∈ (standing sur i most w course).seats, ∃ a, e.2 = .over a
  requests : Journal.requests (Journal.after w.journal.length w'.journal) =
    Deed.allRequests (deeds sur i most w [] course)
  backed : ∀ s, r.outcome = .ok s → ∀ c finding, s.results c = some finding →
    Backed i c (fun q a => (c, ⟨.ask q, a⟩) ∈ deeds sur i most w [] course) finding
  stops : ∀ before later, course = before ++ later → (standing sur i most w before).world.isRaised sur i.flag = true →
    Stops i most (deeds sur i most w [] before) (deeds sur i most w before later) r

section

variable {sur : Service σ τ} {i : Inquiry τ} {most : Amount} {w : ServiceWorld σ τ}

theorem Ran.heedsFlag (hlasting : sur.Lasting) {course : List Move} {ends : List (Category × Option (TaskEnd τ))}
    {r : Report τ} {w' : ServiceWorld σ τ} (h : Ran sur i most w course ends r w') :
    HeedsFlag sur i most w course r w' where
  ended := h.all_over
  requests := by
    obtain ⟨granted, hrecords⟩ := h.records
    exact hrecords.requests
  backed := by
    intro s hs c finding hfinding
    rw [(h.told hs).2.2.1] at hfinding
    exact h.backed hfinding
  stops := by
    intro before later hcourse hraised
    have hrestrained := fun c => restrained_later hlasting hraised c later
    constructor
    case restrained => exact hrestrained
    case at_most_one => exact fun c => (hrestrained c).length_requests_le_one
    case busy => exact fun c hbusy => (Deed.respite_of_isBusy hbusy ▸ hrestrained c).requests_eq_nil
    case unbegun =>
      refine fun c hc hunbegun => ⟨requests_eq_nil_of_unbegun hlasting hraised hunbegun later, fun s hs => ?_⟩
      rw [(h.told hs).2.2.2]
      exact h.failures_of_unbegun hlasting hraised hcourse hc hunbegun
    case alone => exact fun halone c hc => requests_eq_nil_of_alone hlasting hraised halone hc later
    case silent => exact fun halone hrespite => allRequests_eq_nil_of_alone hlasting hraised halone hrespite later

/-- A census heeds its flag: in whatever order the workers take their steps, and whenever the flag is raised, whoever
has not begun fails without a request, each fetch makes at most one more, and whoever was making one or waiting makes
none. Each finding is backed by all the answers that it needs, and each category is reported nevertheless, unless
whoever waits for the workers is interrupted. -/
theorem take_heedsFlag (hlasting : sur.Lasting)
    (hgiven : i.concurrency.getD (.ok i.fetcher.options.concurrency) = .ok most) (hmost : most.isBelow 1 = false)
    (moves : List Move) (w : ServiceWorld σ τ) : ∃ n,
    HeedsFlag sur i most w (moves ++ List.replicate n (.step 0)) (take sur moves i w).1 (take sur moves i w).2 ∧
      (sur.Ordinary → .interrupt ∉ moves →
        Fulfils sur i most w (moves ++ List.replicate n (.step 0)) i.categories (take sur moves i w).1) := by
  obtain ⟨n, ends, hran⟩ := exists_ran (width_eq_ok hgiven hmost) sur hmost moves w
  exact ⟨n, hran.heedsFlag hlasting, fun hquiet hmoves => hran.fulfils (not_mem_later (by decide) hmoves n) hquiet⟩

end

/-- A single worker asks for the stars, and the flag is raised meanwhile: that remains the only request, and the
languages fail. -/
theorem heedsFlag_of_starry :
    let w : ServiceWorld Surroundings.Hours Rat := .start ⟨0, 0, false⟩ ⟨0, [], 0⟩
    let sur : Service Surroundings.Hours Rat := .quiet fun q _ => starry (.ok ⟨404, [], []⟩) q
    let i := (smallInquiry .direct).asking [.stars, .languages] (some (.ok 1))
    let moves : List Move := List.replicate 10 (.step 0) ++ [.cancel]
    sur.Ordinary ∧ sur.Lasting ∧ ∃ s, (take sur moves i w).1.outcome = .ok s ∧
      s.failures .languages = some ⟨.languages, .cancelled, none, 0⟩ ∧
      (Journal.requests (Journal.after w.journal.length (take sur moves i w).2.journal)).length = 1 := by
  intro w sur i moves
  have hpeaceful : Peaceful (smallInquiry .direct) sur _ w :=
    peaceful_starry ⟨.inl (by decide +kernel), by decide +kernel⟩
  have hsur : sur.Punctual (some .callers) := Surroundings.punctual_quiet _ _
  have hpatient : Patient i.fetcher i.categories := by decide
  have hgiven : i.concurrency.getD (.ok i.fetcher.options.concurrency) = .ok 1 := rfl
  obtain ⟨n, hheeds, hreports⟩ := take_heedsFlag hsur.lasting hgiven (by decide) moves w
  obtain ⟨s, hcovers⟩ := (hreports hpeaceful.ordinary (by decide)).covers inferInstance hsur hpatient
  have hstops := hheeds.stops moves _ rfl rfl
  let done := deeds sur i 1 w [] moves
  have hlast : done.getLast?.map Prod.fst = some .stars := by decide +kernel
  have hasked : (Deed.allRequests done).length = 1 := by decide +kernel
  have hbusy : (Deed.of .stars done).getLast?.any Deed.isBusy = true := by decide +kernel
  have hunbegun : .languages ∉ done.map Prod.fst := by decide +kernel
  have hrespite : ∀ c, done.getLast?.map Prod.fst = some c →
      Deed.respite i.flag (Deed.of c done) = false := by
    intro c hc
    cases hlast.symm.trans hc
    exact Deed.respite_of_isBusy hbusy
  refine ⟨hpeaceful.ordinary, hsur.lasting, s, hcovers.outcome, ?_, ?_⟩
  · exact (hstops.unbegun .languages (by decide) (Deed.of_eq_nil_iff.mpr hunbegun)).2 s hcovers.outcome
  · rw [hheeds.requests, deeds_append, Deed.allRequests_append, hstops.silent rfl hrespite, List.append_nil]
    exact hasked

end Census

end RepoCensus
