import RepoCensus.Proofs.Fetch.Steady
import RepoCensus.Proofs.Pages.Heed
import RepoCensus.Proofs.Record.Reach
import RepoCensus.Proofs.Retry.Heed

/-!
# Fetches that heed a flag

A fetch looks at the flag before each attempt at a request and after each wait. What it finds rests upon answers that
were heard: on that to a count, on all the pages of a collection, or on the word that nothing has changed.
-/

namespace RepoCensus

open RepoCensus.Calendar Work

variable {τ : Type} {told : Fault τ → Prop}

theorem Fault.IsVerdict.not_isWord {fault : Fault τ} (h : fault.IsVerdict) : ¬ fault.IsWord := by
  cases fault <;> first | exact id | exact h.elim

/-! ## Requests over a transport -/

namespace Transport

/-- The request as it is made: a client makes it in its own name. -/
def handed : Transport → Request → Request
  | direct, q => q
  | wire client, q => { q with client := some client }

/-- What a transport brings from answers that were heard. -/
def Brings (t : Transport) (Heard : Request → Except (Fault τ) Reply → Prop) (q : Request) (response : Response) :
    Prop :=
  ∃ reply, Heard (t.handed q) (.ok reply) ∧ reply.response = response

theorem faultOf_eq_of_isWord {q : Request} {fault : Fault τ} (h : (faultOf q fault).IsWord) :
    faultOf q fault = fault := by
  unfold faultOf at h ⊢
  split at h
  · cases h
  · cases h
  · rfl

variable {v : Watch τ Request Reply}

/-- A request may be sent where a request may be made, and it is the only one. -/
theorem heeds_send (t : Transport) (q : Request) :
    Heeds v true false (t.Brings v.Heard q) (t.send q : Work τ Request Reply Response) := by
  cases t with
  | direct => exact (Heeds.ask q).bind fun reply hreply => .pure ⟨reply, hreply, rfl⟩
  | wire client =>
      refine (Heeds.log _ _).bind fun _ _ => (Heeds.answer _).bind fun answer hanswer => ?_
      cases answer with
      | ok reply => exact .pure ⟨reply, hanswer, rfl⟩
      | error fault =>
          refine .throw fun hword => ?_
          rw [faultOf_eq_of_isWord hword]
          exact v.told_of_heard hanswer

end Transport

/-! ## One request -/

namespace Fetcher

variable [Seconds τ] {f : Fetcher τ} {v : Watch τ Request Reply}

/-- A success that was brought from answers that were heard. -/
structure Had (f : Fetcher τ) (Heard : Request → Except (Fault τ) Reply → Prop) (q : Request) (response : Response) :
    Prop where
  brought : f.transport.Brings Heard q response
  success : response.isSuccess = true

theorem tells_verdict (now : τ) (url : String) (response : Response) :
    Tells told (fun verdict => response.verdict f.room f.conventions now url = .ok verdict)
      (Fault.lift (response.verdict f.room f.conventions now url) : Except (Fault τ) (Option (Fault τ))) := by
  cases response.verdict f.room f.conventions now url with
  | ok verdict => rfl
  | error why => exact nofun

theorem heeds_judged {n : Bool} (request : Request) {response : Response}
    (h : f.transport.Brings v.Heard request response) :
    Heeds v n n (f.Had v.Heard request) (do
      let now ← clock
      match ← ofExcept (Fault.lift (response.verdict f.room f.conventions now request.url)) with
      | some fault => throw fault
      | none => return response : Fetch τ Response) := by
  refine Heeds.clock.bind fun now _ => ?_
  refine (Heeds.ofExcept (tells_verdict now request.url response)).bind fun verdict hverdict => ?_
  cases hsuccess : response.isSuccess with
  | false =>
      obtain ⟨fault, rfl, hfault⟩ := Response.exists_fault_of_verdict hsuccess hverdict
      exact .throw fun h => absurd h hfault.not_isWord
  | true =>
      rw [Response.verdict_of_isSuccess hsuccess] at hverdict
      cases hverdict
      exact .pure ⟨h, hsuccess⟩

/-- An attempt that has its permit makes one request. -/
theorem heeds_paid (bucket : Bucket) (request : Request) :
    Heeds v true false (f.Had v.Heard request) (do
      let response ← f.transport.send request
      match ← ofExcept (Fault.lift (response.budget f.conventions)) with
      | some budget => do ofExcept (Fault.lift (← update bucket budget))
      | none => pure ()
      let now ← clock
      match ← ofExcept (Fault.lift (response.verdict f.room f.conventions now request.url)) with
      | some fault => throw fault
      | none => return response : Fetch τ Response) := by
  refine (f.transport.heeds_send request).bind fun response hresponse => ?_
  refine (Heeds.ofExcept (Tells.lift _)).bind fun budget _ => ?_
  cases budget with
  | none => exact heeds_judged request hresponse
  | some budget =>
      refine (Heeds.update bucket budget).bind fun r _ => ?_
      exact (Heeds.ofExcept (Tells.lift r)).bind fun _ _ => heeds_judged request hresponse

theorem heeds_onRetry (k : Nat) (delay : τ) (fault : Fault τ) :
    Heeds v false false (fun _ => True) (onRetry k delay fault : Fetch τ Unit) := by
  refine Heeds.session.bind fun s _ => ?_
  cases s.task with
  | none => exact .pure trivial
  | some t =>
      refine (Heeds.setStage _).bind fun _ _ => ?_
      exact .ite (fun _ => Heeds.log _ _) fun _ => .pure trivial

omit [Seconds τ] in
theorem heeds_settleTask {n : Bool} : Heeds v n n (fun _ => True) (settleTask : Fetch τ Unit) :=
  Heeds.attemptCount.bind fun _ _ => Heeds.updateTask _

section

variable (hflag : f.flag = some v.flag)

include hflag

theorem heeds_attemptOnce (bucket : Bucket) (request : Request) :
    Heeds v true false (f.Had v.Heard request) (f.attemptOnce bucket request) :=
  (Heeds.acquire hflag bucket _ _ _).bind fun _ _ => heeds_paid bucket request

/-- A request is made where there may be none, for it looks at the flag itself. -/
theorem heeds_send (bucket : Bucket) (request : Request) :
    Heeds v false false (f.Had v.Heard request) (f.send bucket request) := by
  refine (Retry.heeds_attempt hflag heeds_onRetry (heeds_attemptOnce hflag bucket request)).result.bind
    fun outcome houtcome => ?_
  exact heeds_settleTask.bind fun _ _ => Heeds.ofExcept houtcome

end

/-! ## What a finding rests upon -/

variable {r : Repository} {category : Category} {previous : Option (Finding τ)}

/-- A page that a success holds. -/
def HadPage (f : Fetcher τ) (r : Repository) (category : Category) (previous : Option (Finding τ))
    (Heard : Request → Except (Fault τ) Reply → Prop) (read : List UInt8 → Reading (List Record))
    (cursor : Option String) (p : Page Record) : Prop :=
  ∃ response, f.Had Heard (f.pageRequest r category previous cursor) response ∧
    f.pageOf read cursor.isNone previous.isSome response = .ok p

/-- A word that the service told. That nothing has changed the answer to the first request may say, too. -/
def Told (f : Fetcher τ) (r : Repository) (category : Category) (previous : Option (Finding τ))
    (Heard : Request → Except (Fault τ) Reply → Prop) (fault : Fault τ) : Prop :=
  (fault = .unchanged ∧ ∃ response, f.Had Heard (f.firstRequest r category previous) response ∧
      response.status = 304) ∨ ∃ q, Heard q (.error fault)

/-- What a finding rests upon: the word that nothing has changed since the previous one, the answer to a count, or all
the pages of a collection. -/
inductive Backed (f : Fetcher τ) (r : Repository) (category : Category) (previous : Option (Finding τ))
    (Heard : Request → Except (Fault τ) Reply → Prop) (finding : Finding τ) : Prop where
  | unchanged (hprevious : previous = some finding) (htold : f.Told r category previous Heard .unchanged)
  | count {read : Nat → List UInt8 → Reading Tally} {response : Response}
      (hread : category.endpoint.reader = .count read)
      (had : f.Had Heard (f.firstRequest r category previous) response)
      (hgist : f.countGist (read f.room) previous.isSome (.ok response) = .ok finding.gist)
  | pages {read : Nat → List UInt8 → Reading (List Record)} {trail : List (Page Record)} {walk : Walk Record}
      (hread : category.endpoint.reader = .page read)
      (hwhole : Walk.Whole (f.HadPage r category previous Heard (read f.room)) f.limits trail walk)
      (hgist : finding.gist = itemsGist (trail.reverse.flatMap Page.items) walk)

section

variable {α β : Type} {conditional : Bool} {response : Response} {read : List UInt8 → Reading α} {fault : Fault τ}

omit [Seconds τ] in
theorem not_isWord_of_ofReading {x : Reading α} (h : (ofReading x : Except (Fault τ) α) = .error fault) :
    ¬ fault.IsWord := by
  unfold ofReading at h
  split at h
  · cases h
  · cases h
    exact id
  · cases h
    exact id

omit [Seconds τ] in
/-- Only whoever asked whether anything has changed, and was told that nothing has, makes a word of an answer. -/
theorem unchanged_of_refuseUnchanged (hword : fault.IsWord)
    (h : (refuseUnchanged conditional response : Except (Fault τ) Unit) = .error fault) :
    fault = .unchanged ∧ conditional = true ∧ response.status = 304 := by
  unfold refuseUnchanged at h
  split at h
  · split at h
    · cases h
      exact ⟨rfl, ‹_›, ‹_›⟩
    · cases h
      exact hword.elim
  · cases h

omit [Seconds τ] in
theorem unchanged_of_countOf {read : List UInt8 → Reading Tally} (hword : fault.IsWord)
    (h : (countOf read conditional response : Except (Fault τ) Tally) = .error fault) :
    fault = .unchanged ∧ conditional = true ∧ response.status = 304 := by
  obtain h | ⟨_, -, h⟩ := bind_eq_error.mp h
  · exact unchanged_of_refuseUnchanged hword h
  · exact absurd hword (not_isWord_of_ofReading h)

omit [Seconds τ] in
theorem unchanged_of_pageOf {read : List UInt8 → Reading (List Record)} {isFirst : Bool} (hword : fault.IsWord)
    (h : f.pageOf read isFirst conditional response = .error fault) :
    fault = .unchanged ∧ isFirst = true ∧ response.status = 304 := by
  obtain h | ⟨_, -, h⟩ := bind_eq_error.mp h
  · obtain ⟨rfl, hfirst, hstatus⟩ := unchanged_of_refuseUnchanged hword h
    exact ⟨rfl, (Bool.and_eq_true_iff.mp hfirst).1, hstatus⟩
  · obtain h | ⟨_, -, h⟩ := bind_eq_error.mp h
    · exact absurd hword (not_isWord_of_ofReading h)
    · cases h

end

section

variable (hflag : f.flag = some v.flag)
  (htold : ∀ response, f.Had v.Heard (f.firstRequest r category previous) response → response.status = 304 →
    v.Told .unchanged)

include hflag htold

theorem heeds_fetchPage (read : List UInt8 → Reading (List Record)) (cursor : Option String) :
    Heeds v false false (f.HadPage r category previous v.Heard read cursor)
      (f.fetchPage r category previous read cursor) := by
  rw [fetchPage_eq]
  refine (heeds_send hflag _ _).bind fun response hhad => Heeds.ofExcept ?_
  cases hpage : f.pageOf read cursor.isNone previous.isSome response with
  | ok p => exact ⟨response, hhad, hpage⟩
  | error fault =>
      intro hword
      obtain ⟨rfl, hfirst, hstatus⟩ := unchanged_of_pageOf hword hpage
      obtain rfl := Option.isNone_iff_eq_none.mp hfirst
      exact htold response hhad hstatus

theorem heeds_fetchCount {read : Nat → List UInt8 → Reading Tally} (hread : category.endpoint.reader = .count read) :
    Heeds v false false (f.Backed r category previous v.Heard) (f.fetchCount r category previous (read f.room)) := by
  rw [fetchCount_eq]
  refine (heeds_send hflag _ _).bind fun response hhad => ?_
  have hcounted : Tells v.Told
      (fun n => (countOf (read f.room) previous.isSome response : Except (Fault τ) Tally) = .ok n)
      (countOf (read f.room) previous.isSome response : Except (Fault τ) Tally) := by
    cases hcount : (countOf (read f.room) previous.isSome response : Except (Fault τ) Tally) with
    | ok n => rfl
    | error fault =>
        intro hword
        obtain ⟨rfl, -, hstatus⟩ := unchanged_of_countOf hword hcount
        exact htold response hhad hstatus
  refine (Heeds.ofExcept hcounted).bind fun n hn => Heeds.clock.bind fun now _ => .pure (.count hread hhad ?_)
  unfold countGist
  dsimp only [bind, Except.bind]
  rw [hn]
  rfl

theorem heeds_fetchCollection {read : Nat → List UInt8 → Reading (List Record)}
    (hread : category.endpoint.reader = .page read) :
    Heeds v false false (f.Backed r category previous v.Heard)
      (f.fetchCollection r category previous (read f.room)) := by
  refine (Walk.heeds_collect hflag (heeds_fetchPage hflag htold (read f.room))).bind ?_
  rintro ⟨items, walk⟩ hwalk
  refine (Heeds.ofExcept hwalk).bind fun items ⟨trail, hitems, hwhole⟩ => ?_
  have hbacked : ∀ now, f.Backed r category previous v.Heard
      ⟨category, .records items, walk.firstPage.bind Page.freshness, now, walk.pages, walk.truncated⟩ :=
    fun now => .pages hread hwhole (by rw [hitems]; rfl)
  refine .ite (fun _ => ?_) fun _ => Heeds.clock.bind fun now _ => .pure (hbacked now)
  exact (Heeds.log _ _).bind fun _ _ => Heeds.clock.bind fun now _ => .pure (hbacked now)

theorem heeds_fetchRaw :
    Heeds v false false (f.Backed r category previous v.Heard) (f.fetchRaw r category previous) := by
  refine (Heeds.check hflag).weaken.bind fun _ _ => ?_
  cases hread : category.endpoint.reader with
  | count read => exact heeds_fetchCount hflag htold hread
  | page read => exact heeds_fetchCollection hflag htold hread

end

/-! ## One category -/

/-- What is watched while a category is fetched. -/
def watch (f : Fetcher τ) (flag : Flag) (r : Repository) (category : Category) (previous : Option (Finding τ))
    (Heard : Request → Except (Fault τ) Reply → Prop) : Watch τ Request Reply where
  flag := flag
  Heard := Heard
  Told := f.Told r category previous Heard
  told_of_heard h := .inr ⟨_, h⟩

omit [Seconds τ] in
theorem heeds_succeed {n : Bool} (r : Repository) (finding : Finding τ) (category : Category) :
    Heeds v n n (· = finding) (succeed r finding category) :=
  (Heeds.setStage _).bind fun _ _ => (Heeds.log _ _).bind fun _ _ => .pure rfl

theorem heeds_fail {n : Bool} (category : Category) (reason : Reason) (cause : Fault τ) :
    Heeds v n n (fun _ => True) (fail category reason cause) :=
  Heeds.attemptCount.bind fun _ _ => (Heeds.updateTask _).bind fun _ _ => (Heeds.log _ _).bind fun _ _ => .pure trivial

/-- A fetch heeds the flag, and what it finds is backed by what was heard. -/
theorem heeds_fetch {flag : Flag} (hflag : f.flag = some flag) (r : Repository) (category : Category)
    (earlier : Option (Finding τ)) (Heard : Request → Except (Fault τ) Reply → Prop) :
    Heeds (f.watch flag r category (comparable category earlier) Heard) false false
      (fun x => ∀ finding, x = .ok finding → f.Backed r category (comparable category earlier) Heard finding)
      (f.fetch r category earlier) := by
  let v := f.watch flag r category (comparable category earlier) Heard
  have hsucceed : ∀ finding, f.Backed r category (comparable category earlier) Heard finding → Heeds v false false
      (fun x => ∀ finding, x = .ok finding → f.Backed r category (comparable category earlier) Heard finding)
      (do return .ok (← succeed r finding category) : Fetch τ (Except (Failure τ) (Finding τ))) := by
    refine fun finding h => (heeds_succeed r finding category).bind ?_
    rintro _ rfl
    refine .pure ?_
    rintro _ ⟨⟩
    exact h
  refine (Heeds.openBucket _).bind fun _ _ => (Heeds.setStage _).bind fun _ _ => (Heeds.log _ _).bind fun _ _ => ?_
  have hraw := heeds_fetchRaw (v := v) (r := r) hflag fun response had h => .inl ⟨rfl, response, had, h⟩
  refine hraw.result.bind fun outcome houtcome => ?_
  cases outcome with
  | ok finding => exact hsucceed finding houtcome
  | error fault =>
      dsimp only
      split
      · rename_i finding hprevious
        exact (Heeds.log _ _).bind fun _ _ => hsucceed finding (.unchanged hprevious (houtcome trivial))
      · exact (Heeds.log _ _).bind fun _ _ => (Heeds.setStage _).bind fun _ _ => .throw nofun
      · split
        · exact (heeds_fail category _ _).bind fun _ _ => .pure nofun
        · exact .throw houtcome

end Fetcher

end RepoCensus
