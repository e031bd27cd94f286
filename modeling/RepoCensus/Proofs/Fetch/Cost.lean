import RepoCensus.Fetch.Basic
import RepoCensus.Proofs.Budget.Waiting
import RepoCensus.Proofs.Http.Verdict
import RepoCensus.Proofs.Pages.Walk
import RepoCensus.Proofs.Retry.Attempts

/-!
# What a fetch costs

A fetch is a walk over pages, each page is a request that is retried, and each attempt waits for a permit and
is sent. The prices multiply.
-/

namespace RepoCensus

open RepoCensus.Calendar

variable {σ τ α : Type} [Seconds τ] {quiet : Prop}

/-! ## Answers -/

theorem Response.ends_verdict (room : Nat) (conventions : Conventions) (now : τ) (url : String) (r : Response) :
    Ends quiet (fun v => ∀ fault, v = some fault → fault.isOrdinary = true)
      (Fault.lift (r.verdict room conventions now url) : Except (Fault τ) (Option (Fault τ))) := by
  cases h : r.verdict room conventions now url with
  | ok v => exact fun fault hv => (isVerdict_of_verdict (hv ▸ h)).isOrdinary
  | error why => exact fun _ => rfl

/-! ## Sending -/

namespace Transport

open Work

/-- A request costs what it costs to meet the service, be it handed over or made by a client. -/
theorem within_send {c : Crew σ τ Request Reply} (t : Transport) (r : Request) :
    Within c c.prices.ask (fun _ => True) (t.send r : Work τ Request Reply Response) := by
  cases t with
  | direct => exact (Within.ask r).bind (m := 0) fun _ _ => .pure trivial
  | wire client =>
      refine (Within.log _ _).free fun _ _ => ?_
      refine (Within.answer _).bind (m := 0) fun answer h => ?_
      cases answer with
      | ok reply => exact .pure trivial
      | error fault => exact .throw fun hquiet => (isOrdinary_faultOf r fault).trans (h hquiet)

end Transport

namespace Fetcher

omit [Seconds τ] in
theorem ends_ofReading (x : Reading α) :
    Ends quiet (fun _ => True) (ofReading x : Except (Fault τ) α) := by
  unfold ofReading
  split
  · trivial
  · exact fun _ => rfl
  · exact fun _ => rfl

omit [Seconds τ] in
theorem ends_refuseUnchanged (conditional : Bool) (response : Response) :
    Ends quiet (fun _ => True) (refuseUnchanged conditional response : Except (Fault τ) Unit) := by
  unfold refuseUnchanged
  split
  · split
    · exact fun _ => rfl
    · exact fun _ => rfl
  · trivial

/-! ## One request -/

/-- A fetcher is one of a crew: it waits for permits as often as the crew does, and if nobody may stall its
surroundings are punctual and its times are ordered as they are on a clock. -/
structure Joins (f : Fetcher τ) (c : Crew σ τ Request Reply) : Prop where
  patience : c.patience = f.patience
  seconds : ¬ c.stalls → OrderedSeconds τ
  punctual : ¬ c.stalls → c.sur.Punctual f.flag

/-- What a request costs, with all its attempts: each of them sends it once and may pass on a budget. -/
def sendCost (f : Fetcher τ) (p : Prices) : Nat := f.retry.attempts * (p.ask + p.update)

open Work

variable {f : Fetcher τ} {c : Crew σ τ Request Reply}

theorem within_onRetry (k : Nat) (delay : τ) (fault : Fault τ) :
    Within c 0 (fun _ => True) (onRetry k delay fault : Fetch τ Unit) := by
  refine Within.session.free fun s _ => ?_
  cases s.task with
  | none => exact .pure trivial
  | some t =>
      refine (Within.setStage _).free fun _ _ => ?_
      exact .ite (fun _ => Within.log _ _) fun _ => .pure trivial

theorem within_settleTask : Within c 0 (fun _ => True) (settleTask : Fetch τ Unit) :=
  Within.attemptCount.free fun _ _ => Within.updateTask _

theorem within_judged (f : Fetcher τ) (request : Request) (response : Response) :
    Within c 0 (fun _ => True) (do
      let now ← clock
      match ← ofExcept (Fault.lift (response.verdict f.room f.conventions now request.url)) with
      | some fault => throw fault
      | none => return response : Fetch τ Response) := by
  refine Within.clock.free fun now _ => ?_
  refine (Within.ofExcept (response.ends_verdict _ _ now _)).free fun verdict hverdict => ?_
  cases verdict with
  | some fault => exact .throw fun _ => hverdict fault rfl
  | none => exact .pure trivial

theorem within_attemptOnce (hf : f.Joins c) (bucket : Bucket) (request : Request) :
    Within c (c.prices.ask + c.prices.update) (fun _ => True) (f.attemptOnce bucket request) := by
  have hacquire : Within c 0 (fun _ => True) (Work.acquire bucket f.flag
      (some f.options.safetyMargin.floor) f.patience f.options.maxResetWait : Fetch τ Permit) :=
    hf.patience ▸ Within.acquire hf.seconds hf.punctual bucket _ _
  refine hacquire.free fun _ _ => ?_
  refine (f.transport.within_send request).bind fun response _ => ?_
  refine (Within.ofExcept (Ends.lift _)).free fun budget _ => ?_
  cases budget with
  | none => exact (within_judged f request response).mono (Nat.zero_le _) fun _ h => h
  | some budget =>
      refine (Within.update bucket budget).bind (m := 0) fun r _ => ?_
      exact (Within.ofExcept (Ends.lift r)).free fun _ _ => within_judged f request response

/-- A request costs what an attempt costs, as often as the options allow attempts. -/
theorem within_send (hf : f.Joins c) (bucket : Bucket) (request : Request) :
    Within c (f.sendCost c.prices) (fun _ => True) (f.send bucket request) := by
  have hattempt : Within c (f.sendCost c.prices) (fun _ => True)
      (f.retry.attempt f.flag onRetry (f.attemptOnce bucket request)) :=
    Retry.within_attempt within_onRetry (within_attemptOnce hf bucket request)
  refine hattempt.result.bind (m := 0) fun outcome houtcome => ?_
  exact within_settleTask.free fun _ _ => Within.ofExcept houtcome

/-! ## One category -/

theorem within_fetchCount (hf : f.Joins c) (r : Repository) (category : Category)
    (previous : Option (Finding τ)) (read : List UInt8 → Reading Tally) :
    Within c (f.sendCost c.prices) (fun _ => True)
      (f.fetchCount r category previous read) := by
  refine (within_send hf _ _).bind (m := 0) fun response _ => ?_
  refine (Within.ofExcept (ends_refuseUnchanged _ _)).free fun _ _ => ?_
  refine (Within.ofExcept (ends_ofReading _)).free fun n _ => ?_
  exact Within.clock.free fun now _ => .pure trivial

theorem within_fetchPage (hf : f.Joins c) (r : Repository) (category : Category)
    (previous : Option (Finding τ)) (read : List UInt8 → Reading (List Record)) (cursor : Option String) :
    Within c (f.sendCost c.prices) (fun _ => True) (f.fetchPage r category previous read cursor) := by
  refine (within_send hf _ _).bind (m := 0) fun response _ => ?_
  refine (Within.ofExcept (ends_refuseUnchanged _ _)).free fun _ _ => ?_
  exact (Within.ofExcept (ends_ofReading _)).free fun items _ => .pure trivial

theorem within_fetchCollection (hf : f.Joins c) (r : Repository) (category : Category)
    (previous : Option (Finding τ)) (read : List UInt8 → Reading (List Record)) :
    Within c (f.limits.mostPages * f.sendCost c.prices) (fun _ => True)
      (f.fetchCollection r category previous read) := by
  refine (Walk.within_collect (within_fetchPage hf r category previous read) none).bind (m := 0)
    fun walked hwalked => ?_
  obtain ⟨items, walk⟩ := walked
  refine (Within.ofExcept hwalked).free fun items _ => ?_
  refine .ite (fun _ => ?_) fun _ => Within.clock.free fun _ _ => .pure trivial
  exact (Within.log _ _).free fun _ _ => Within.clock.free fun _ _ => .pure trivial

/-- The requests that a category may need, each with all its attempts. -/
def mostRequests (f : Fetcher τ) (category : Category) : Nat :=
  if category.endpoint.isPaged then f.limits.mostPages else 1

/-- What a category costs. -/
def cost (f : Fetcher τ) (p : Prices) (category : Category) : Nat :=
  f.mostRequests category * f.sendCost p

/-- The price of a category is that of its requests. -/
theorem within_fetchRaw (hf : f.Joins c) (r : Repository) (category : Category) (previous : Option (Finding τ)) :
    Within c (f.cost c.prices category) (fun _ => True) (f.fetchRaw r category previous) := by
  refine (Within.check f.flag).free fun _ _ => ?_
  unfold cost mostRequests Endpoint.isPaged
  cases category.endpoint.reader with
  | count read =>
      rw [if_neg Bool.false_ne_true, Nat.one_mul]
      exact within_fetchCount hf r category previous (read f.room)
  | page read =>
      rw [if_pos rfl]
      exact within_fetchCollection hf r category previous (read f.room)

theorem within_succeed (r : Repository) (finding : Finding τ) (category : Category) :
    Within c 0 (fun _ => True) (succeed r finding category) :=
  (Within.setStage _).free fun _ _ => (Within.log _ _).free fun _ _ => .pure trivial

theorem within_fail (category : Category) (reason : Reason) (cause : Fault τ) :
    Within c 0 (fun _ => True) (fail category reason cause) :=
  Within.attemptCount.free fun _ _ => (Within.updateTask _).free fun _ _ =>
    (Within.log _ _).free fun _ _ => .pure trivial

/-- A fetch comes to its end at the price of its requests. -/
theorem within_fetch (hf : f.Joins c) (r : Repository) (category : Category) (earlier : Option (Finding τ)) :
    Within c (f.cost c.prices category) (fun _ => True) (f.fetch r category earlier) := by
  refine (Within.openBucket _).free fun _ _ => (Within.setStage _).free fun _ _ => (Within.log _ _).free fun _ _ => ?_
  refine (within_fetchRaw hf r category _).result.bind (m := 0) fun outcome houtcome => ?_
  cases outcome with
  | ok finding => exact (within_succeed r finding category).free fun _ _ => .pure trivial
  | error fault =>
      dsimp only
      split
      · exact (Within.log _ _).free fun _ _ => (within_succeed r _ category).free fun _ _ => .pure trivial
      · refine (Within.log _ _).free fun _ _ => (Within.setStage _).free fun _ _ => ?_
        exact .throw fun _ => rfl
      · split
        · exact (within_fail category _ _).free fun _ _ => .pure trivial
        · exact .throw houtcome

end Fetcher

end RepoCensus
