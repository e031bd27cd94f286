import RepoCensus.Proofs.Fetch.Accounts
import RepoCensus.Proofs.Fetch.Sends

/-!
# What a failure reckons

A failure tells of attempts. Main statement: these are the attempts at the last request that was made, whether it is the
one that failed or not; so they are the requests sent for the one that failed only if its latest attempt had a permit,
and they are none where the fetch breaks off between two requests only if no attempt was ever made.
-/

namespace RepoCensus

open RepoCensus.Calendar Work

variable {τ Q R : Type}

/-! ## The events of deeds -/

/-- The event that a deed leaves in the journal, as far as the accounts know of it. -/
def Deed.event? : Deed τ Q R → Option (Event τ Q)
  | ⟨.ask q, _⟩ => some (.asked q)
  | ⟨.reserve b _, .ok _⟩ => some (.granted b)
  | ⟨.note n, _⟩ => some (.noted n)
  | _ => none

@[simp] theorem Deed.event?_granted {b : Bucket} {margin : Option Int} {permit : Permit} :
    event? (⟨.reserve b margin, .ok permit⟩ : Deed τ Q R) = some (.granted b) := rfl

def Deed.events (ds : List (Deed τ Q R)) : List (Event τ Q) := ds.filterMap event?

namespace Accounts

variable {g : Accounts}

theorem after_of_event {d : Deed τ Request Reply} {events : List (Event τ Request)} :
    (of events).after d.effect d.answer = of (events ++ d.event?.toList) := by
  obtain ⟨e, a⟩ := d
  cases e with
  | ask q => exact (of_append events _).symm
  | note n => exact (of_append events _).symm
  | reserve b margin =>
      cases a with
      | ok permit =>
          rw [Deed.event?_granted]
          exact (enter_granted (b := b)).symm.trans (of_append events _).symm
      | error refusal => exact congrArg of (List.append_nil events).symm
  | _ => exact congrArg of (List.append_nil events).symm

/-- The accounts after some deeds are those of their events. -/
theorem afterAll_of (events : List (Event τ Request)) (ds : List (Deed τ Request Reply)) :
    (of events).afterAll ds = of (events ++ Deed.events ds) := by
  induction ds generalizing events with
  | nil => exact congrArg of (List.append_nil events).symm
  | cons d ds ih =>
      have hnext : (of events).afterAll (d :: ds) = ((of events).after d.effect d.answer).afterAll ds := rfl
      rw [hnext, after_of_event, ih, List.append_assoc]
      congr 2
      cases h : d.event? with
      | none => exact (List.filterMap_cons_none h).symm
      | some e => exact (List.filterMap_cons_some h).symm

end Accounts

/-! ## One request -/

/-- How often a request was sent. -/
def Sent.sends (p : Sent τ) : Nat := (Journal.requests (Deed.events p.deeds)).length

/-- The latest attempt at a request came to its end without a permit. -/
def Sent.lacksPermit (p : Sent τ) : Bool := Journal.lacksPermit (Deed.events p.deeds)

namespace Fetcher

variable [Seconds τ] {f : Fetcher τ} {b : Bucket} {r : Repository} {category : Category}
  {previous earlier : Option (Finding τ)} {s s' : Session τ} {ds : List (Deed τ Request Reply)} {p : Sent τ}
  {ps : List (Sent τ)}

theorem IsSent.count_eq (h : f.IsSent b s ds p s') :
    s'.attempts.map Attempts.count = some (p.sends + p.lacksPermit.toNat) := by
  have hcounted := (attains_send_counted (g := .of ([] : List (Event τ Request))) rfl).of_does h.does
  rw [Accounts.afterAll_of, List.nil_append, ← h.deeds] at hcounted
  obtain ⟨k, ⟨sent, hsends, -, hk, -⟩, hnumbers⟩ := hcounted
  have hsends : p.sends = 0 + sent := hsends
  rw [hsends, Nat.zero_add]
  exact (congrArg Numbers.latest hnumbers).trans (congrArg some hk)

theorem IsSent.sends_pos (h : f.IsSent b s ds p s') (hanswered : p.Answered) : 0 < p.sends := by
  obtain ⟨response, hresponse⟩ := hanswered
  have hgiven := h.given
  rw [hresponse] at hgiven
  cases hgiven with
  | called hcall hcalled hlasting =>
      have hattempted := (attains_attemptOnce_booked (g := .of ([] : List (Event τ Request)))).of_does hcall
      rw [Accounts.afterAll_of, List.nil_append] at hattempted
      obtain ⟨-, hsent | ⟨hdenied, -⟩⟩ := hattempted
      case inr => exact hdenied.elim
      have hone : (Journal.requests (Deed.events _)).length = 1 := congrArg Accounts.sends hsent
      obtain ⟨q, hq⟩ := List.exists_mem_of_length_pos (hone ▸ Nat.one_pos)
      obtain ⟨e, he, hasked⟩ := List.mem_filterMap.mp hq
      obtain ⟨d, hd, hevent⟩ := List.mem_filterMap.mp he
      have hmem : e ∈ Deed.events p.deeds := List.mem_filterMap.mpr ⟨d, h.deeds ▸ hcalled hd, hevent⟩
      exact List.length_pos_of_mem (List.mem_filterMap.mpr ⟨e, hmem, hasked⟩)

/-! ## One category -/

/-- The attempts at the last request, or those of the record if no request was made. -/
def reckoned (s : Session τ) (ps : List (Sent τ)) : Nat :=
  match ps.getLast? with
  | some p => p.sends + p.lacksPermit.toNat
  | none => (s.attempts.map Attempts.count).getD 0

/-- The latest attempt at the request that failed had its permit; if no request failed, no attempt was ever made. -/
def Reckons (s : Session τ) (ps : List (Sent τ)) : Option (Sent τ) → Prop
  | some p => p.lacksPermit = false
  | none => ps = [] ∧ (s.attempts.map Attempts.count).getD 0 = 0

omit [Seconds τ] in
@[simp] theorem reckoned_nil : reckoned s [] = (s.attempts.map Attempts.count).getD 0 := rfl

omit [Seconds τ] in
@[simp] theorem reckoned_concat : reckoned s (ps ++ [p]) = p.sends + p.lacksPermit.toNat := by
  rw [reckoned, List.getLast?_concat]

theorem count_of_series (h : Series (f.IsSent b) s ds ps s') :
    (s'.attempts.map Attempts.count).getD 0 = reckoned s ps := by
  rcases ps.eq_nil_or_concat' with rfl | ⟨ps, p, rfl⟩
  · rw [h.eq_of_nil, reckoned_nil]
  · obtain ⟨t, ds', hsent⟩ := h.exists_of_concat
    rw [hsent.count_eq, reckoned_concat]
    rfl

theorem reckoned_eq_sends_iff {fault : Fault τ} {failed : Option (Sent τ)} (h : Series (f.IsSent b) s ds ps s')
    (hbreaks : f.Breaks r category previous ps fault failed) :
    reckoned s ps = (failed.map Sent.sends).getD 0 ↔ Reckons s ps failed := by
  have hlast {p : Sent τ} {n : Nat} : n + p.lacksPermit.toNat = n ↔ p.lacksPermit = false := by
    cases p.lacksPermit <;> simp
  cases hbreaks with
  | unanswered hanswered hfault =>
      rw [reckoned_concat]
      exact hlast
  | unread hanswered hunread =>
      rw [reckoned_concat]
      exact hlast
  | paused hanswered hpause =>
      rcases ps.eq_nil_or_concat' with rfl | ⟨ps, p, rfl⟩
      · exact ⟨fun h => ⟨rfl, h⟩, And.right⟩
      · obtain ⟨t, ds', hsent⟩ := h.exists_of_concat
        have hpos := hsent.sends_pos (hanswered p List.mem_concat_self)
        rw [reckoned_concat]
        refine ⟨fun hzero => ?_, fun hnil => ?_⟩
        · have hzero : p.sends + p.lacksPermit.toNat = 0 := hzero
          omega
        · exact absurd hnil.1 (List.concat_ne_nil p ps)

/-- A failure tells of the attempts at the last request that was made. They are the requests that were sent for the one
that failed if and only if its latest attempt had its permit or, if the fetch broke off between two requests, no
attempt was ever made. -/
theorem failure_attempts_eq_sends_iff {failure : Failure τ}
    (h : (f.fetch r category earlier).Does s ds (.ok (.error failure)) s') :
    ∃ raw ps u fault failed, raw ⊆ ds ∧ Series (f.IsSent (f.bucket category)) (s.staged .inProgress) raw ps u ∧
      f.Breaks r category (comparable category earlier) ps fault failed ∧ failure.cause = some fault ∧
      failure.attempts = reckoned s ps ∧
      (failure.attempts = ((failed.map Sent.sends).getD 0 : Nat) ↔ Reckons s ps failed) := by
  obtain ⟨idle, raw, rest, y, u, rfl, hidle, hraw, hend⟩ := exists_of_fetch h
  obtain ⟨ps, hmade⟩ := exists_made_of_fetchRaw hraw
  cases hend with
  | @failed fault reason failure rest hreason hfailure hidle' =>
      obtain ⟨failed, hbreaks⟩ := hmade.breaks fault rfl
      have hcount := count_of_series hmade.sent
      have hiff := reckoned_eq_sends_iff hmade.sent hbreaks
      -- to be told of the beginning changes nothing of the attempts
      rw [show reckoned (s.staged .inProgress) ps = reckoned s ps from rfl] at hcount hiff
      have hattempts : failure.attempts = reckoned s ps := by rw [hfailure, hcount]
      refine ⟨raw, ps, u, fault, failed, ?_, hmade.sent, hbreaks, by rw [hfailure], hattempts, ?_⟩
      · intro d hd
        simp [hd]
      · rw [hattempts, Int.natCast_inj]
        exact hiff

/-! ## A walk that is stopped between two pages -/

def failed? : Except (Fault τ) (Except (Failure τ) (Finding τ)) → Option (Failure τ)
  | .ok (.error failure) => some failure
  | _ => none

omit [Seconds τ] in
theorem eq_of_failed? {x : Except (Fault τ) (Except (Failure τ) (Finding τ))} {failure : Failure τ}
    (h : failed? x = some failure) : x = .ok (.error failure) := by
  obtain fault | failure' | finding := x
  · cases h
  · cases h
    rfl
  · cases h

/-- A first page that leads on to a second one. -/
def leadingOn : Reply := ⟨200, [("Link", "<https://h/2>; rel=\"next\"")], "\x7b\"C\":10\x7d".toUTF8.toList⟩

/-- A place where the caller raises the flag once a page was answered. -/
def stoppedAfterPage : Surroundings Surroundings.Hours Rat Request Reply :=
  { Surroundings.quiet fun _ _ => .ok leadingOn with cancelled := fun o => decide (0 < o.served) }

def watchful : Fetcher Rat := { usual with flag := some .callers }

/-- What comes of the fetch of the languages there. -/
def stoppedRun :
    Option (Except (Fault Rat) (Except (Failure Rat) (Finding Rat)) × Session Rat) ×
      World Surroundings.Hours Rat Request :=
  (watchful.fetch ⟨"o", "n"⟩ .languages none).run stoppedAfterPage .start (.start ⟨0, 0, false⟩ ⟨0, [], 0⟩)

/-- The attempts of the first page are told, although it did not fail. -/
theorem failure_attempts_eq_sends_iff_of_stopped :
    ∃ (ds : List (Deed Rat Request Reply)) (failure : Failure Rat) (s' : Session Rat) (ps : List (Sent Rat)),
      (watchful.fetch ⟨"o", "n"⟩ .languages none).Does .start ds (.ok (.error failure)) s' ∧
      failure.attempts = reckoned .start ps ∧ reckoned .start ps = 1 := by
  have htold : (stoppedRun.1.bind fun e => failed? e.1).map Failure.attempts = some 1 := by decide +kernel
  obtain ⟨failure, hfailed, hone⟩ := Option.map_eq_some_iff.mp htold
  obtain ⟨⟨x, s'⟩, hrun, hx⟩ := Option.bind_eq_some_iff.mp hfailed
  obtain ⟨ds, hdoes⟩ := exists_does_of_run (w := watchful.fetch ⟨"o", "n"⟩ .languages none) hrun
  obtain rfl := eq_of_failed? hx
  obtain ⟨raw, ps, u, fault, failed, -, -, -, -, hattempts, -⟩ := failure_attempts_eq_sends_iff hdoes
  refine ⟨ds, failure, s', ps, hdoes, hattempts, ?_⟩
  rw [hattempts] at hone
  exact Int.ofNat.inj hone

/-- The fetch is stopped before a request for the second page is sent, but its failure tells of an attempt. -/
theorem failure_reckons_earlier_page :
    (stoppedRun.1.bind fun e => failed? e.1).map (fun failure => (failure.reason, failure.attempts)) =
        some (.cancelled, 1) ∧
      (Journal.requests stoppedRun.2.journal.reverse).map Request.url = ["https://h/repos/o/n/languages"] := by
  decide +kernel

end Fetcher

end RepoCensus
