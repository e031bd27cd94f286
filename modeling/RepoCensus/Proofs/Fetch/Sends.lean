import RepoCensus.Proofs.Fetch.Undisturbed
import RepoCensus.Proofs.Pages.Visits
import RepoCensus.Proofs.Retry.Rounds

/-!
# The requests of a fetch

A fetch makes one request after another, with nothing but looks at the flag and entries of the log between them. It
breaks off at a request, because no answer is had or because the answer cannot be read, or it breaks off between two
requests.
-/

namespace RepoCensus

open RepoCensus.Calendar Work

variable {τ : Type}

/-- A request of a fetch, with all that was done for it and what that came to. -/
structure Sent (τ : Type) where
  request : Request
  deeds : List (Deed τ Request Reply)
  outcome : Except (Fault τ) Response

def Sent.Answered (p : Sent τ) : Prop := ∃ response, p.outcome = .ok response

namespace Fetcher

variable [Seconds τ]

structure IsSent (f : Fetcher τ) (b : Bucket) (s : Session τ) (ds : List (Deed τ Request Reply)) (p : Sent τ)
    (s' : Session τ) : Prop where
  deeds : p.deeds = ds
  does : (f.send b p.request).Does s ds p.outcome s'

section

variable (f : Fetcher τ) (r : Repository) (category : Category) (previous : Option (Finding τ))

/-- An answer of which nothing can be made. -/
inductive Unread (p : Sent τ) (fault : Fault τ) : Prop where
  | count {read : Nat → List UInt8 → Reading Tally} {response : Response}
      (hread : category.endpoint.reader = .count read) (hrequest : p.request = f.firstRequest r category previous)
      (hanswer : p.outcome = .ok response)
      (hfault : countOf (read f.room) previous.isSome response = .error fault)
  | page {read : Nat → List UInt8 → Reading (List Record)} {response : Response} {cursor : Option String}
      (hread : category.endpoint.reader = .page read) (hrequest : p.request = f.pageRequest r category previous cursor)
      (hanswer : p.outcome = .ok response)
      (hfault : f.pageOf (read f.room) cursor.isNone previous.isSome response = .error fault)

/-- Where a fetch that made these requests breaks off with a fault: at the last of them, or between two requests. -/
inductive Breaks : List (Sent τ) → Fault τ → Option (Sent τ) → Prop where
  | unanswered {ps : List (Sent τ)} {p : Sent τ} {fault : Fault τ} (hanswered : ∀ q ∈ ps, q.Answered)
      (hfault : p.outcome = .error fault) : Breaks (ps ++ [p]) fault (some p)
  | unread {ps : List (Sent τ)} {p : Sent τ} {fault : Fault τ} (hanswered : ∀ q ∈ ps, q.Answered)
      (hunread : Unread f r category previous p fault) : Breaks (ps ++ [p]) fault (some p)
  | paused {ps : List (Sent τ)} {fault : Fault τ} (hanswered : ∀ q ∈ ps, q.Answered) (hpause : fault.IsPause) :
      Breaks ps fault none

end

variable {f : Fetcher τ} {r : Repository} {category : Category} {previous earlier : Option (Finding τ)}
  {s s' : Session τ} {ds : List (Deed τ Request Reply)}

/-! ## One request -/

/-- The task when a request that took so many attempts is done. -/
def settledTask (attempts : Nat) (t : Task τ) : Task τ :=
  { t with
    attempts := t.attempts + attempts
    stage := if t.stage = .retrying then .inProgress else t.stage }

theorem exists_of_send {b : Bucket} {q : Request} {y : Except (Fault τ) Response} (h : (f.send b q).Does s ds y s') :
    ∃ tried u, (f.retry.attempt f.flag onRetry (f.attemptOnce b q)).Does s tried y u ∧
      ds = tried ++ Deed.tells (u.task.map (settledTask ((u.attempts.map Attempts.count).getD 0))) ∧
      s' = { u with task := u.task.map (settledTask ((u.attempts.map Attempts.count).getD 0)) } := by
  obtain ⟨tried, x, u, rest, rfl, hattempt, hsettle⟩ := h.exists_of_result_bind
  unfold settleTask at hsettle
  rw [bind_assoc] at hsettle
  obtain ⟨told, rfl, hend⟩ := hsettle.attemptCount_bind.exists_of_updateTask_bind
  obtain ⟨rfl, rfl, rfl⟩ := does_ofExcept_iff.mp hend
  rw [List.append_nil]
  exact ⟨tried, u, hattempt, rfl, rfl⟩

/-- The caller who is told of a further attempt only listens, and the task is retrying. -/
theorem exists_of_onRetry {n : Nat} {delay : τ} {fault : Fault τ} {y : Except (Fault τ) Unit}
    (h : (onRetry n delay fault).Does s ds y s') :
    y = .ok () ∧ s' = s.staged .retrying ∧
      ∃ idle, Deed.Idle idle ∧ ds = Deed.tells (s.staged .retrying).task ++ idle := by
  have h := h.session_bind
  obtain ⟨attempts, task⟩ := s
  cases task with
  | none =>
      obtain ⟨rfl, rfl, rfl⟩ := does_pure_iff.mp h
      exact ⟨rfl, rfl, [], .nil, rfl⟩
  | some t =>
      obtain ⟨rest, rfl, hlog⟩ := Does.exists_of_updateTask_bind h
      dsimp only at hlog
      split at hlog
      · obtain ⟨_, rfl, rfl, rfl⟩ := Does.exists_of_act (e := .note (.log _ _)) hlog
        exact ⟨rfl, rfl, _, .cons rfl .nil, rfl⟩
      · obtain ⟨rfl, rfl, rfl⟩ := does_pure_iff.mp hlog
        exact ⟨rfl, rfl, [], .nil, rfl⟩

/-- A request comes to what one of its attempts came to, or to a fault of the run of attempts. -/
theorem IsSent.given {b : Bucket} {p : Sent τ} (h : f.IsSent b s ds p s') :
    Retry.Given (f.attemptOnce b p.request) ds p.outcome := by
  obtain ⟨tried, u, hattempt, rfl, -⟩ := exists_of_send h.does
  exact (Retry.given_of_attempt (fun _ _ _ _ _ _ _ h => (exists_of_onRetry h).1) hattempt).mono
    (List.subset_append_left _ _)

/-! ## Counts and pages -/

/-- The requests of the work of a fetch, where it breaks off, and what its finding is of and when it may be cut off. -/
structure Made (f : Fetcher τ) (r : Repository) (category : Category) (previous : Option (Finding τ)) (s : Session τ)
    (ds : List (Deed τ Request Reply)) (x : Except (Fault τ) (Finding τ)) (s' : Session τ) (ps : List (Sent τ)) :
    Prop where
  sent : Series (f.IsSent (f.bucket category)) s ds ps s'
  breaks : ∀ fault, x = .error fault → ∃ failed, f.Breaks r category previous ps fault failed
  category : ∀ finding, x = .ok finding → finding.category = category
  cut : ∀ finding, x = .ok finding → finding.truncated = true → f.options.maxPages.isSome = true

theorem Made.of_fault {ps : List (Sent τ)} {fault : Fault τ} {failed : Option (Sent τ)}
    (hsent : Series (f.IsSent (f.bucket category)) s ds ps s') (hbreaks : f.Breaks r category previous ps fault failed) :
    f.Made r category previous s ds (.error fault) s' ps where
  sent := hsent
  breaks := by
    rintro _ ⟨⟩
    exact ⟨failed, hbreaks⟩
  category := nofun
  cut := nofun

theorem Made.of_found {ps : List (Sent τ)} {finding : Finding τ}
    (hsent : Series (f.IsSent (f.bucket category)) s ds ps s') (hcategory : finding.category = category)
    (hcut : finding.truncated = true → f.options.maxPages.isSome = true) :
    f.Made r category previous s ds (.ok finding) s' ps where
  sent := hsent
  breaks := nofun
  category := by
    rintro _ ⟨⟩
    exact hcategory
  cut := by
    rintro _ ⟨⟩
    exact hcut

theorem exists_made_of_fetchCount {read : Nat → List UInt8 → Reading Tally} {x : Except (Fault τ) (Finding τ)}
    (hread : category.endpoint.reader = .count read)
    (h : (f.fetchCount r category previous (read f.room)).Does s ds x s') :
    ∃ ps, f.Made r category previous s ds x s' ps := by
  rw [fetchCount_eq] at h
  rcases h.exists_of_bind with ⟨fault, hsend, rfl⟩ | ⟨ds, response, t, rest, rfl, hsend, hcount⟩
  · let p : Sent τ := ⟨f.firstRequest r category previous, ds, .error fault⟩
    have hsent : Series (f.IsSent (f.bucket category)) s ds [p] s' := .single ⟨rfl, hsend⟩
    have hbreaks : f.Breaks r category previous ([] ++ [p]) fault (some p) := .unanswered (List.forall_mem_nil _) rfl
    exact ⟨[p], .of_fault hsent hbreaks⟩
  let p : Sent τ := ⟨f.firstRequest r category previous, ds, .ok response⟩
  have hsent : Series (f.IsSent (f.bucket category)) s ds [p] t := .single ⟨rfl, hsend⟩
  rcases hcount.exists_of_ofExcept_bind with ⟨fault, hfault, rfl, rfl, rfl⟩ | ⟨n, -, hgo⟩
  · have hbreaks : f.Breaks r category previous ([] ++ [p]) fault (some p) :=
      .unread (List.forall_mem_nil _) (.count hread rfl rfl hfault)
    exact ⟨[p], .of_fault (hsent.append_idle .nil) hbreaks⟩
  · obtain ⟨now, rest, rfl, hend⟩ := hgo.exists_of_clock_bind
    obtain ⟨rfl, rfl, rfl⟩ := does_pure_iff.mp hend
    refine ⟨[p], .of_found (hsent.append_idle (.cons rfl .nil)) rfl fun htruncated => ?_⟩
    cases htruncated

/-- What a request for a page comes to. -/
structure GivesPage (f : Fetcher τ) (r : Repository) (category : Category) (previous : Option (Finding τ))
    (read : List UInt8 → Reading (List Record)) (p : Sent τ) (x : Except (Fault τ) (Page Record)) : Prop where
  page : ∃ cursor, p.request = f.pageRequest r category previous cursor ∧
    x = p.outcome.bind (f.pageOf read cursor.isNone previous.isSome)

omit [Seconds τ] in
theorem GivesPage.answered {read : List UInt8 → Reading (List Record)} {p : Sent τ} {page : Page Record}
    (h : f.GivesPage r category previous read p (.ok page)) : p.Answered := by
  obtain ⟨cursor, -, hpage⟩ := h.page
  obtain ⟨request, ds, outcome⟩ := p
  cases outcome with
  | ok response => exact ⟨response, rfl⟩
  | error fault => cases hpage

theorem exists_sent_of_fetchPage {read : List UInt8 → Reading (List Record)} (cursor : Option String) (s : Session τ)
    (ds : List (Deed τ Request Reply)) (x : Except (Fault τ) (Page Record)) (s' : Session τ)
    (h : (f.fetchPage r category previous read cursor).Does s ds x s') :
    ∃ p, f.IsSent (f.bucket category) s ds p s' ∧ f.GivesPage r category previous read p x := by
  rw [fetchPage_eq] at h
  rcases h.exists_of_bind with ⟨fault, hsend, rfl⟩ | ⟨ds, response, t, rest, rfl, hsend, hpage⟩
  · exact ⟨⟨_, ds, .error fault⟩, ⟨rfl, hsend⟩, cursor, rfl, rfl⟩
  · obtain ⟨rfl, rfl, rfl⟩ := does_ofExcept_iff.mp hpage
    rw [List.append_nil]
    exact ⟨⟨_, ds, .ok response⟩, ⟨rfl, hsend⟩, cursor, rfl, rfl⟩

omit [Seconds τ] in
theorem breaks_of_visited {read : Nat → List UInt8 → Reading (List Record)} {ps : List (Sent τ)} {fault : Fault τ}
    (hread : category.endpoint.reader = .page read)
    (h : Walk.Visited (f.GivesPage r category previous (read f.room)) ps (.error fault)) :
    ∃ failed, f.Breaks r category previous ps fault failed := by
  cases h with
  | paused hgiven hpause =>
      exact ⟨none, .paused (fun p hp => let ⟨_, hpage⟩ := hgiven p hp; hpage.answered) hpause⟩
  | @missed ps p fault hgiven hmissed =>
      have hanswered : ∀ q ∈ ps, Sent.Answered q := fun q hq => let ⟨_, hpage⟩ := hgiven q hq; hpage.answered
      obtain ⟨cursor, hrequest, hfault⟩ := hmissed.page
      cases houtcome : p.outcome with
      | error why =>
          rw [houtcome] at hfault
          cases hfault
          exact ⟨some p, .unanswered hanswered houtcome⟩
      | ok response =>
          rw [houtcome] at hfault
          exact ⟨some p, .unread hanswered (.page hread hrequest houtcome hfault.symm)⟩

/-- A collection is found by a walk, after which the log is written to and the clock is read. -/
theorem exists_of_fetchCollection {read : List UInt8 → Reading (List Record)} {x : Except (Fault τ) (Finding τ)}
    (h : (f.fetchCollection r category previous read).Does s ds x s') :
    ∃ walked e idle now, ds = walked ++ idle ∧ Deed.Idle idle ∧
      (Walk.collect f.limits f.flag (f.fetchPage r category previous read) (.start none)).Does s walked e s' ∧
      x = (walkGist e).map (Gist.finding category now) := by
  rcases h.exists_of_bind with ⟨fault, hcollect, rfl⟩ | ⟨walked, ⟨items, walk⟩, t, rest, rfl, hcollect, hgo⟩
  · exact ⟨ds, _, [], Seconds.zero, (List.append_nil ds).symm, .nil, hcollect, rfl⟩
  rcases Does.exists_of_ofExcept_bind hgo with ⟨fault, rfl, rfl, rfl, rfl⟩ | ⟨items, rfl, hfound⟩
  · exact ⟨walked, _, [], Seconds.zero, rfl, .nil, hcollect, rfl⟩
  have hclock {rest : List (Deed τ Request Reply)} (h : (do
      return Gist.finding category (← clock) (itemsGist items walk) : Fetch τ (Finding τ)).Does t rest x s') :
      Deed.Idle rest ∧ s' = t ∧ ∃ now, x = .ok (Gist.finding category now (itemsGist items walk)) := by
    obtain ⟨now, rest, rfl, hend⟩ := h.exists_of_clock_bind
    obtain ⟨rfl, rfl, rfl⟩ := does_pure_iff.mp hend
    exact ⟨.cons rfl .nil, rfl, now, rfl⟩
  have hfinish : Deed.Idle rest ∧ s' = t ∧ ∃ now, x = .ok (Gist.finding category now (itemsGist items walk)) := by
    dsimp only at hfound
    split at hfound
    · obtain ⟨rest, rfl, hend⟩ := hfound.exists_of_log_bind
      obtain ⟨hidle, hs, hx⟩ := hclock hend
      exact ⟨.cons rfl hidle, hs, hx⟩
    · exact hclock hfound
  obtain ⟨hidle, rfl, now, rfl⟩ := hfinish
  exact ⟨walked, _, rest, now, rfl, hidle, hcollect, rfl⟩

theorem exists_made_of_fetchCollection {read : Nat → List UInt8 → Reading (List Record)}
    {x : Except (Fault τ) (Finding τ)} (hread : category.endpoint.reader = .page read)
    (h : (f.fetchCollection r category previous (read f.room)).Does s ds x s') :
    ∃ ps, f.Made r category previous s ds x s' ps := by
  obtain ⟨walked, _, idle, now, rfl, hidle, hcollect, rfl⟩ := exists_of_fetchCollection h
  obtain ⟨y, walk, ps, rfl, hsent, hvisited, hcut⟩ := Walk.visited_of_collect exists_sent_of_fetchPage hcollect
  cases y with
  | error fault =>
      obtain ⟨failed, hbreaks⟩ := breaks_of_visited hread hvisited
      exact ⟨ps, .of_fault (hsent.append_idle hidle) hbreaks⟩
  | ok items =>
      refine ⟨ps, .of_found (hsent.append_idle hidle) rfl fun htruncated => ?_⟩
      rcases hcut htruncated with h | h
      · cases h
      · rwa [limits, Option.isSome_map] at h

theorem exists_made_of_fetchRaw {x : Except (Fault τ) (Finding τ)}
    (h : (f.fetchRaw r category previous).Does s ds x s') : ∃ ps, f.Made r category previous s ds x s' ps := by
  rcases h.exists_of_check_bind with ⟨rfl, hidle, rfl⟩ | ⟨idle, rest, rfl, hidle, hgo⟩
  · exact ⟨[], .of_fault (.idle hidle) (.paused (List.forall_mem_nil _) .stopped)⟩
  have hread : ∃ ps, f.Made r category previous s rest x s' ps := by
    split at hgo
    case h_1 read hread => exact exists_made_of_fetchCount hread hgo
    case h_2 read hread => exact exists_made_of_fetchCollection hread hgo
  obtain ⟨ps, hmade⟩ := hread
  exact ⟨ps, hmade.sent.idle_append hidle, hmade.breaks, hmade.category, hmade.cut⟩

/-! ## One category -/

/-- The end of a fetch, when its work has come to `y`. -/
inductive Closes (category : Category) (previous : Option (Finding τ)) (s : Session τ) :
    Except (Fault τ) (Finding τ) → List (Deed τ Request Reply) → Except (Fault τ) (Except (Failure τ) (Finding τ)) →
      Session τ → Prop where
  | found {finding : Finding τ} {idle : List (Deed τ Request Reply)} (hidle : Deed.Idle idle) :
      Closes category previous s (.ok finding) (Deed.tells (s.staged .succeeded).task ++ idle) (.ok (.ok finding))
        (s.staged .succeeded)
  | unchanged {finding : Finding τ} {idle idle' : List (Deed τ Request Reply)} (hprevious : previous = some finding)
      (hidle : Deed.Idle idle) (hidle' : Deed.Idle idle') :
      Closes category previous s (.error .unchanged)
        (idle ++ (Deed.tells (s.staged .succeeded).task ++ idle')) (.ok (.ok finding)) (s.staged .succeeded)
  | failed {fault : Fault τ} {reason : Reason} {failure : Failure τ} {idle : List (Deed τ Request Reply)}
      (hreason : Failure.reasonOf? fault = some reason)
      (hfailure : failure = ⟨category, reason, some fault, ((s.attempts.map Attempts.count).getD 0 : Nat)⟩)
      (hidle : Deed.Idle idle) :
      Closes category previous s (.error fault) (Deed.tells (s.task.map (·.fail failure)) ++ idle)
        (.ok (.error failure)) { s with task := s.task.map (·.fail failure) }
  /-- Nothing has changed, and there is nothing to hand back. -/
  | lost {idle : List (Deed τ Request Reply)} (hprevious : previous = none) (hidle : Deed.Idle idle) :
      Closes category previous s (.error .unchanged) (idle ++ Deed.tells (s.staged .succeeded).task)
        (.error (.anomaly .noParts)) (s.staged .succeeded)
  | escaped {fault : Fault τ} (hreason : Failure.reasonOf? fault = none) (hunchanged : fault ≠ .unchanged) :
      Closes category previous s (.error fault) [] (.error fault) s

variable {x : Except (Fault τ) (Except (Failure τ) (Finding τ))}

omit [Seconds τ] in
theorem does_succeed {finding : Finding τ}
    (h : (succeed r finding category >>= fun found => pure (.ok found)).Does s ds x s') :
    x = .ok (.ok finding) ∧ s' = s.staged .succeeded ∧
      ∃ idle, Deed.Idle idle ∧ ds = Deed.tells (s.staged .succeeded).task ++ idle := by
  unfold succeed setStage at h
  simp only [bind_assoc, pure_bind] at h
  obtain ⟨rest, rfl, hlog⟩ := h.exists_of_updateTask_bind
  obtain ⟨rest, rfl, hend⟩ := hlog.exists_of_log_bind
  obtain ⟨rfl, rfl, rfl⟩ := does_pure_iff.mp hend
  exact ⟨rfl, rfl, _, .cons rfl .nil, rfl⟩

theorem does_fail {fault : Fault τ} {reason : Reason}
    (h : (fail category reason fault >>= fun failure => pure (.error failure)).Does s ds x s') :
    ∃ failure, failure = ⟨category, reason, some fault, ((s.attempts.map Attempts.count).getD 0 : Nat)⟩ ∧
      x = .ok (.error failure) ∧ s' = { s with task := s.task.map (·.fail failure) } ∧
      ∃ idle, Deed.Idle idle ∧ ds = Deed.tells (s.task.map (·.fail failure)) ++ idle := by
  unfold fail at h
  simp only [bind_assoc, pure_bind] at h
  obtain ⟨rest, rfl, hlog⟩ := h.attemptCount_bind.exists_of_updateTask_bind
  obtain ⟨rest, rfl, hend⟩ := hlog.exists_of_log_bind
  obtain ⟨rfl, rfl, rfl⟩ := does_pure_iff.mp hend
  exact ⟨_, rfl, rfl, rfl, _, .cons rfl .nil, rfl⟩

/-- A fetch tells that it is begun, does its work and closes. -/
theorem exists_of_fetch (h : (f.fetch r category earlier).Does s ds x s') :
    ∃ idle raw rest y u, ds = ⟨.openBucket (f.bucket category), ()⟩ ::
        (Deed.tells (s.staged .inProgress).task ++ (idle ++ (raw ++ rest))) ∧ Deed.Idle idle ∧
      (f.fetchRaw r category (comparable category earlier)).Does (s.staged .inProgress) raw y u ∧
      Closes category (comparable category earlier) u y rest x s' := by
  obtain ⟨_, ds, rfl, hstage⟩ := Does.exists_of_act_bind (e := .openBucket (f.bucket category)) h
  obtain ⟨ds, rfl, hlog⟩ := Does.exists_of_updateTask_bind hstage
  obtain ⟨ds, rfl, hgo⟩ := hlog.exists_of_log_bind
  obtain ⟨raw, y, u, rest, rfl, hraw, hend⟩ := hgo.exists_of_result_bind
  refine ⟨[_], raw, rest, y, u, rfl, .cons rfl .nil, hraw, ?_⟩
  cases y with
  | ok finding =>
      obtain ⟨rfl, rfl, idle, hidle, rfl⟩ := does_succeed hend
      exact .found hidle
  | error fault =>
      dsimp only at hend
      split at hend
      case h_1 finding hprevious =>
        obtain ⟨rest, rfl, hsucceed⟩ := hend.exists_of_log_bind
        obtain ⟨rfl, rfl, idle, hidle, rfl⟩ := does_succeed hsucceed
        exact .unchanged hprevious (.cons rfl .nil) hidle
      case h_2 hprevious =>
        obtain ⟨rest, rfl, hsucceed⟩ := hend.exists_of_log_bind
        obtain ⟨rest, rfl, hthrow⟩ := Does.exists_of_updateTask_bind hsucceed
        obtain ⟨rfl, rfl, rfl⟩ := does_throw_iff.mp hthrow
        rw [List.append_nil]
        exact .lost hprevious (.cons rfl .nil)
      case h_3 fault hfound hlost =>
        split at hend
        case h_1 reason hreason =>
          obtain ⟨failure, hfailure, rfl, rfl, idle, hidle, rfl⟩ := does_fail hend
          exact .failed hreason hfailure hidle
        case h_2 hreason =>
          obtain ⟨rfl, rfl, rfl⟩ := does_throw_iff.mp hend
          refine .escaped hreason fun hunchanged => ?_
          cases hprevious : comparable category earlier with
          | none => exact hlost hunchanged hprevious
          | some finding => exact hfound finding hunchanged hprevious

end Fetcher

end RepoCensus
