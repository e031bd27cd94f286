import RepoCensus.Pages.Walk
import RepoCensus.Proofs.Budget.Naming
import RepoCensus.Proofs.Fetch.Requests
import RepoCensus.Proofs.Fetch.Undisturbed
import RepoCensus.Proofs.Http.Verdict
import RepoCensus.Proofs.Retry.Blame

/-!
# Which budget a failure names

A fetch that a limit ends names a budget. If the permit for its latest attempt was denied, that is the budget of its
category; if the service asked for too long a wait, it is the usual one, whatever the category. A walk ends with the
first request that fails, and leaves the blame to it.
-/

namespace RepoCensus

open RepoCensus.Calendar Work

/-! ## Walks -/

namespace Walk

open Work

variable {τ Q R α : Type} {b : Bucket} {limits : WalkLimits} {flag : Option Flag}
  {fetch : Option String → Work τ Q R (Page α)} {w : Walk α} {n : Numbers} {denied : Bool}

/-- Whether a turn broke the walk. -/
def unbroken : Except (Fault τ) (Turn τ α × Walk α) → Except (Fault τ) Unit
  | .ok (.broken fault, _) => .error fault
  | .ok _ => .ok ()
  | .error fault => .error fault

variable (hfetch : ∀ cursor n denied, Attains (.blaming τ Q R) (fetch cursor) n denied fun x _ => Blames b x)

include hfetch

theorem attains_takeNext_blames :
    Attains (.blaming τ Q R) (takeNext limits flag fetch w) n denied fun x _ => Blames b (unbroken x) := by
  apply Attains.ite
  · intro _
    exact (Mute.log _ _).attains_bind (fun _ _ h => Blameless.blames h) fun _ _ => .pure trivial
  intro _
  apply Attains.ite
  · intro _
    exact .pure trivial
  intro _
  refine (Mute.isStopped flag).attains_bind (fun _ _ h => Blameless.blames h) fun stopped _ => ?_
  apply Attains.ite
  · intro _
    exact .pure trivial
  intro _
  refine .result_bind ((hfetch w.cursor _ denied).mono fun x n' denied' hx => ?_)
  cases x with
  | ok page => exact .pure trivial
  | error fault => exact .pure hx.error

theorem attains_advance_blames :
    Attains (.blaming τ Q R) (advance limits flag fetch w) n denied fun x _ => Blames b (unbroken x) := by
  unfold advance
  split
  · exact attains_takeNext_blames hfetch
  split
  · exact .pure trivial
  split
  · exact .pure trivial
  apply Attains.ite
  · intro _
    refine (Mute.log _ _).attains_bind (fun _ _ h => Blameless.blames h) fun _ _ => ?_
    exact attains_takeNext_blames hfetch
  · intro _
    exact attains_takeNext_blames hfetch

theorem attains_collectFrom_blames {turns : Nat} {taken : List (List α)} :
    Attains (.blaming τ Q R) (collectFrom limits flag fetch turns taken w) n denied fun x _ =>
      Blames b (x.bind Prod.fst) := by
  induction turns generalizing taken w n denied with
  | zero => exact .pure trivial
  | succ turns ih =>
      refine (attains_advance_blames hfetch).andThen ?_ ?_
      · intro fault n' denied' hx
        exact hx.error
      · rintro ⟨items | _ | fault, w'⟩ n' denied' hx
        case taken => exact ih
        case broken => exact .pure hx.error
        exact .pure trivial

/-- A walk blames whom the request blames that it ends with. -/
theorem attains_collect_blames :
    Attains (.blaming τ Q R) (collect limits flag fetch w) n denied fun x _ => Blames b (x.bind Prod.fst) :=
  attains_collectFrom_blames hfetch

end Walk

/-! ## Fetches -/

variable {σ τ : Type}

theorem Fault.IsVerdict.not_isOverBudget {fault : Fault τ} (h : fault.IsVerdict) : fault.isOverBudget = false := by
  cases fault <;> first | rfl | exact h.elim

variable [Seconds τ]

namespace Fetcher

variable {f : Fetcher τ} {b : Bucket} {q : Request} {r : Repository} {category : Category}
  {previous earlier : Option (Finding τ)} {n : Numbers} {denied : Bool}

/-! ## One request -/

omit [Seconds τ] in
theorem blameless_ofReading {α : Type} (x : Reading α) : Blameless (ofReading x : Except (Fault τ) α) := by
  unfold ofReading
  split
  · trivial
  · rfl
  · rfl

omit [Seconds τ] in
theorem blameless_refuseUnchanged (conditional : Bool) (response : Response) :
    Blameless (refuseUnchanged conditional response : Except (Fault τ) Unit) := by
  unfold refuseUnchanged
  split
  · split <;> rfl
  · trivial

theorem mute_judged (response : Response) : Mute (do
    let now ← clock
    match ← ofExcept (Fault.lift (response.verdict f.room f.conventions now q.url)) with
    | some fault => throw fault
    | none => return response : Fetch τ Response) := by
  refine Mute.clock.bind fun now => Mute.ofExcept_bind (Sound.lift _).blameless fun verdict hverdict => ?_
  cases verdict with
  | none => exact .pure response
  | some fault =>
      refine .throw (Fault.IsVerdict.not_isOverBudget ?_)
      cases h : response.verdict f.room f.conventions now q.url with
      | error why => rw [h] at hverdict; cases hverdict
      | ok v =>
          rw [h] at hverdict
          cases hverdict
          exact Response.isVerdict_of_verdict h

theorem attains_attemptOnce_owns :
    Attains (.blaming τ Request Reply) (f.attemptOnce b q) n denied fun x _ => Owns b x := by
  refine (attains_acquire_owns f.flag _ f.patience _).andThen ?_ ?_
  · intro fault n' denied' hx
    exact Owns.error hx
  rintro permit n' _ rfl
  -- Once a permit is had, nobody speaks of budgets.
  refine Mute.attains ?_ fun _ _ h => h.owns
  refine (f.transport.mute_send q).bind fun response => ?_
  refine (Mute.ofExcept (Sound.lift _).blameless).bind fun told => ?_
  cases told with
  | none => exact mute_judged response
  | some budget =>
      refine (Mute.update b budget).bind fun x => ?_
      exact (Mute.ofExcept (Sound.lift x).blameless).bind fun _ => mute_judged response

theorem mute_onRetry (k : Nat) (delay : τ) (fault : Fault τ) : Mute (onRetry k delay fault) := by
  refine Mute.session_bind fun s => ?_
  cases s.task with
  | none => exact .pure ()
  | some task =>
      exact (Mute.setStage _).bind fun _ => .ite (fun _ => .log _ _) fun _ => .pure ()

omit [Seconds τ] in
theorem mute_settleTask : Mute (settleTask : Fetch τ Unit) :=
  fun n denied => .attemptCount_bind (Mute.updateTask (· + n.latest.getD 0) (fun _ => rfl) n denied)

theorem attains_send_blames :
    Attains (.blaming τ Request Reply) (f.send b q) n denied fun x _ => Blames b x := by
  refine .result_bind ((Retry.attains_attempt_blames mute_onRetry fun _ _ => attains_attemptOnce_owns).mono ?_)
  intro x n' denied' hx
  refine mute_settleTask.attains_bind (fun _ _ h => Blameless.blames h) fun _ _ => ?_
  exact .ofExcept hx

/-! ## Counts and pages -/

theorem attains_fetchCount_blames {read : List UInt8 → Reading Tally} :
    Attains (.blaming τ Request Reply) (f.fetchCount r category previous read) n denied fun x _ =>
      Blames (f.bucket category) x := by
  refine attains_send_blames.andThen (fun _ _ _ hx => hx.error) fun response n' denied' _ => ?_
  refine Mute.attains ?_ fun _ _ h => h.blames
  refine (Mute.ofExcept (blameless_refuseUnchanged _ _)).bind fun _ => ?_
  refine (Mute.ofExcept (blameless_ofReading _)).bind fun _ => ?_
  exact Mute.clock.bind fun _ => .pure _

theorem attains_fetchPage_blames {read : List UInt8 → Reading (List Record)} (cursor : Option String) :
    Attains (.blaming τ Request Reply) (f.fetchPage r category previous read cursor) n denied fun x _ =>
      Blames (f.bucket category) x := by
  refine attains_send_blames.andThen (fun _ _ _ hx => hx.error) fun response n' denied' _ => ?_
  refine Mute.attains ?_ fun _ _ h => h.blames
  refine (Mute.ofExcept (blameless_refuseUnchanged _ _)).bind fun _ => ?_
  exact (Mute.ofExcept (blameless_ofReading _)).bind fun _ => .pure _

theorem attains_fetchCollection_blames {read : List UInt8 → Reading (List Record)} :
    Attains (.blaming τ Request Reply) (f.fetchCollection r category previous read) n denied fun x _ =>
      Blames (f.bucket category) x := by
  refine (Walk.attains_collect_blames fun cursor _ _ => attains_fetchPage_blames cursor).andThen ?_ ?_
  · intro fault n' denied' hx
    exact hx.error
  · rintro ⟨items, walk⟩ n' denied' hx
    cases items with
    | error fault => exact .throw hx.error
    | ok items =>
        refine Mute.attains ?_ fun _ _ h => h.blames
        have hfound : Mute (do
            return Gist.finding category (← clock) (itemsGist items walk) : Fetch τ (Finding τ)) :=
          Mute.clock.bind fun _ => .pure _
        exact .ite (fun _ => (Mute.log _ _).bind fun _ => hfound) fun _ => hfound

theorem attains_fetchRaw_blames :
    Attains (.blaming τ Request Reply) (f.fetchRaw r category previous) n denied fun x _ =>
      Blames (f.bucket category) x := by
  refine (Mute.check f.flag).attains_bind (fun _ _ h => Blameless.blames h) fun _ _ => ?_
  cases category.endpoint.reader with
  | count read => exact attains_fetchCount_blames
  | page read => exact attains_fetchCollection_blames

/-! ## One category -/

/-- A failure because of a limit names the bucket if the latest permit was denied, and the usual one if not. -/
def Accuses (b : Bucket) : Except (Fault τ) (Except (Failure τ) (Finding τ)) → Bool → Prop
  | .ok (.error failure), denied => failure.reason = .rateLimited → ∃ resetAt remaining,
      failure.cause = some (.overBudget resetAt remaining (if denied then b.resource else coreResource))
  | _, _ => True

omit [Seconds τ] in
theorem mute_succeed (finding : Finding τ) : Mute (succeed r finding category) :=
  (Mute.setStage _).bind fun _ => (Mute.log _ _).bind fun _ => .pure finding

theorem attains_fail_accuses {fault : Fault τ} {reason : Reason}
    (h : Blames b (.error fault : Except (Fault τ) (Finding τ)) denied)
    (hreason : Failure.reasonOf? fault = some reason) :
    Attains (.blaming τ Request Reply) (do
      return .error (← fail category reason fault) : Fetch τ (Except (Failure τ) (Finding τ))) n denied fun x _ =>
        Accuses b x := by
  simp only [fail, bind_assoc, pure_bind]
  refine .attemptCount_bind ?_
  refine Mute.attains_bind (Mute.updateTask id fun _ => rfl) (fun _ _ _ => trivial) fun _ _ => ?_
  refine (Mute.log _ _).attains_bind (fun _ _ _ => trivial) fun _ _ => .pure ?_
  rintro rfl
  cases fault with
  | overBudget resetAt remaining resource =>
      cases h
      exact ⟨resetAt, remaining, rfl⟩
  | _ => cases hreason

variable (f r category earlier) in
theorem attains_fetch_accuses :
    Attains (.blaming τ Request Reply) (f.fetch r category earlier) n denied fun x _ =>
      Accuses (f.bucket category) x := by
  refine (Mute.openBucket _).attains_bind (fun _ _ _ => trivial) fun _ _ => ?_
  refine (Mute.setStage _).attains_bind (fun _ _ _ => trivial) fun _ _ => ?_
  refine (Mute.log _ _).attains_bind (fun _ _ _ => trivial) fun _ _ => ?_
  refine .result_bind (attains_fetchRaw_blames.mono fun x n' denied' hx => ?_)
  have hsucceed (n' : Numbers) (finding : Finding τ) : Attains (.blaming τ Request Reply) (do
      return .ok (← succeed r finding category) : Fetch τ (Except (Failure τ) (Finding τ))) n' denied' fun x _ =>
        Accuses (f.bucket category) x :=
    (mute_succeed finding).attains_bind (fun _ _ _ => trivial) fun _ _ => .pure trivial
  cases x with
  | ok finding => exact hsucceed n' finding
  | error fault =>
      dsimp only
      split
      case h_1 finding _ =>
        exact (Mute.log _ _).attains_bind (fun _ _ _ => trivial) fun _ n' => hsucceed n' finding
      case h_2 =>
        refine (Mute.log _ _).attains_bind (fun _ _ _ => trivial) fun _ _ => ?_
        exact (Mute.setStage _).attains_bind (fun _ _ _ => trivial) fun _ _ => .throw trivial
      case h_3 fault _ _ _ _ =>
        cases hreason : Failure.reasonOf? fault with
        | some reason => exact attains_fail_accuses hx hreason
        | none => exact .throw trivial

/-! ## Runs -/

/-- A failure because of a limit names the bucket of its category exactly if the permit for the latest attempt was
denied, or if that is the usual bucket anyway. A wait that is refused is always blamed on the usual bucket. -/
theorem rate_limited_names_bucket_iff {sur : Surroundings σ τ Request Reply} {Others : Effect τ Request → Prop}
    (hsur : sur.Blameless) {w w' : World σ τ Request} (hw : w.registry.Named) {s s' : Session τ}
    {ds : List (Deed τ Request Reply)} {failure : Failure τ}
    (h : ((f.fetch r category earlier).start s).Among sur Others w ds (.done (.ok (.error failure), s')) w')
    (hreason : failure.reason = .rateLimited) :
    ∃ resetAt remaining resource, failure.cause = some (.overBudget resetAt remaining resource) ∧
      (resource = category.endpoint.resource ↔
        Deed.endsDenied ds = true ∨ category.endpoint.resource = coreResource) ∧
      (Deed.endsDenied ds = false → resource = coreResource) := by
  have halways : ((f.fetch r category earlier).start s).Always (.blaming τ Request Reply)
      (fun e denied => Accuses (f.bucket category) e.1 denied) false :=
    attains_fetch_accuses f r category earlier s rfl
  have hend : Accuses (f.bucket category) (.ok (.error failure)) (Deed.endsDenied ds) :=
    halways.ended h.plays (h.fair hsur hw)
  obtain ⟨resetAt, remaining, hcause⟩ := hend hreason
  refine ⟨resetAt, remaining, _, hcause, ?_⟩
  cases Deed.endsDenied ds with
  | true =>
      refine ⟨?_, nofun⟩
      simp [bucket, Bucket.of]
  | false =>
      refine ⟨?_, fun _ => rfl⟩
      simp [eq_comm]

/-- A service that asks to be left alone for a long time. -/
def begging : Surroundings Surroundings.Hours Rat Request Reply :=
  .quiet fun _ _ => .ok ⟨429, [("Retry-After", "1000")], []⟩

theorem blameless_begging : begging.Blameless := fun _ _ => trivial

/-- A world in which nothing is left of the budget for searches. -/
def searchedOut : World Surroundings.Hours Rat Request :=
  ((World.start ⟨0, 0, false⟩ (.empty 0)).perform begging
    (.update (usual.bucket .openIssues) ⟨0, 1000000, 30, "search"⟩)).2

/-- How a run failed because of a limit, and which resource it blames. -/
def blamed (x : Option (Except (Fault τ) (Except (Failure τ) (Finding τ)) × Session τ)) : Option (Reason × String) :=
  match x with
  | some (.ok (.error ⟨_, reason, some (.overBudget _ _ resource), _⟩), _) => some (reason, resource)
  | _ => none

omit [Seconds τ] in
theorem exists_failure_of_blamed {x : Option (Except (Fault τ) (Except (Failure τ) (Finding τ)) × Session τ)}
    {reason : Reason} {resource : String} (h : blamed x = some (reason, resource)) :
    ∃ failure s', x = some (.ok (.error failure), s') ∧ failure.reason = reason ∧
      ∀ resetAt remaining resource', failure.cause = some (.overBudget resetAt remaining resource') →
        resource' = resource := by
  unfold blamed at h
  split at h
  · cases h
    refine ⟨_, _, rfl, rfl, ?_⟩
    rintro _ _ _ ⟨⟩
    rfl
  · cases h

theorem rate_limited_names_bucket_iff_of_searchedOut :
    ∃ failure s' w' ds, ((usual.fetch ⟨"o", "n"⟩ .openIssues none).start .start).Among begging (fun _ => True)
        searchedOut ds (.done (.ok (.error failure), s')) w' ∧
      failure.reason = .rateLimited ∧ Deed.endsDenied ds = true := by
  have hblamed : blamed ((usual.fetch ⟨"o", "n"⟩ .openIssues none).run begging .start searchedOut).1 =
      some (.rateLimited, "search") := by
    decide +kernel
  obtain ⟨failure, s', hrun, hreason, hresource⟩ := exists_failure_of_blamed hblamed
  obtain ⟨ds, h⟩ : ∃ ds, ((usual.fetch ⟨"o", "n"⟩ .openIssues none).start .start).Among begging (fun _ => True)
      searchedOut ds (Program.ended _) _ := Program.Among.exists_of_run _ _
  unfold Work.run at hrun
  rw [hrun] at h
  have hw : searchedOut.registry.Named := World.named_perform (Registry.named_empty 0) _
  obtain ⟨resetAt, remaining, resource, hcause, hiff, -⟩ :=
    rate_limited_names_bucket_iff blameless_begging hw h hreason
  refine ⟨failure, s', _, ds, h, hreason, ?_⟩
  rcases hiff.mp (hresource _ _ _ hcause) with hdenied | hcore
  · exact hdenied
  · exact absurd hcore (by decide)

/-- Who is asked for too long a wait while searching blames the usual bucket, which has nothing to do with it. -/
theorem rate_limited_search_names_core :
    blamed ((usual.fetch ⟨"o", "n"⟩ .openIssues none).run begging .start (.start ⟨0, 0, false⟩ (.empty 0))).1 =
        some (.rateLimited, "core") ∧
      "core" ≠ Category.openIssues.endpoint.resource := by
  decide +kernel

end Fetcher

end RepoCensus
