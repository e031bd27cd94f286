import RepoCensus.Proofs.Fetch.Requests
import RepoCensus.Proofs.Fetch.Undisturbed
import RepoCensus.Proofs.Pages.Accounts
import RepoCensus.Proofs.Retry.Accounts
import RepoCensus.Proofs.World.Accounts

/-!
# Accounts of fetches

Every request that a fetch sends is paid by one permit, no permit is taken without a request, and the task is told of
one attempt for each request. Only an attempt to which the permit is denied is told without a request.
-/

namespace RepoCensus

open RepoCensus.Calendar Work Accounts

variable {σ τ β : Type} [Seconds τ]

namespace Fetcher

variable {f : Fetcher τ} {b : Bucket} {q : Request} {r : Repository} {category : Category}
  {previous earlier : Option (Finding τ)} {n n' : Numbers} {g g' : Accounts}

/-! ## One request -/

theorem attains_attemptOnce_booked :
    Attains (Accounts.behaviour b) (f.attemptOnce b q) n g fun x n' g' => n' = n ∧ g.Attempted x g' := by
  refine (attains_acquire_booked f.flag _ f.patience _).andThen ?_ ?_
  · rintro fault _ _ ⟨rfl, ⟨⟨_, hpermit⟩, _⟩ | ⟨hdenied, rfl⟩⟩
    · cases hpermit
    · exact ⟨rfl, .inr ⟨hdenied, rfl⟩⟩
  rintro permit _ _ ⟨rfl, ⟨_, rfl⟩ | ⟨hdenied, _⟩⟩
  case inr => exact hdenied.elim
  refine (f.transport.attains_send_booked q).andThen ?_ ?_
  · rintro fault _ _ ⟨rfl, rfl⟩
    exact ⟨rfl, .inl rfl⟩
  rintro response _ _ ⟨rfl, rfl⟩
  -- Neither the limits nor the verdict cost anything, whatever they are.
  refine Abstains.attains ?_ fun _ => ⟨rfl, .inl rfl⟩
  refine (Abstains.ofExcept _).bind fun told => ?_
  cases told
  case' some budget => refine (Abstains.update budget).bind fun _ => (Abstains.ofExcept _).bind fun _ => ?_
  all_goals
    refine Abstains.clock.bind fun now => (Abstains.ofExcept _).bind fun verdict => ?_
    cases verdict with
    | none => exact .pure _
    | some fault => exact .throw _

theorem abstains_onRetry (k : Nat) (delay : τ) (fault : Fault τ) : Abstains b (onRetry k delay fault) := by
  intro n g
  refine .session_bind fun s _ => ?_
  cases s.task with
  | none => exact Abstains.pure _ n g
  | some task =>
      refine ((Abstains.setStage _).bind fun _ => ?_) n g
      exact .ite (fun _ => .log _ _) fun _ => .pure _

omit [Seconds τ] in
theorem attains_settleTask_bind {k : Unit → Fetch τ β} {post : Except (Fault τ) β → Numbers → Accounts → Prop}
    (h : Attains (Accounts.behaviour b) (k ()) ⟨n.latest, n.total.map (· + n.latest.getD 0)⟩ g post) :
    Attains (Accounts.behaviour b) (settleTask >>= k) n g post := by
  unfold settleTask
  rw [bind_assoc]
  exact .attemptCount_bind (attains_updateTask_bind (· + n.latest.getD 0) (fun _ => rfl) h)

/-- The attempts at a request are counted as the accounts of its deeds are. -/
theorem attains_send_counted (hpaid : g.tries.unpaid = false) :
    Attains (Accounts.behaviour b) (f.send b q) n g fun x n' g' =>
      ∃ k, g.Grows k (Denied x) g' ∧ n' = ⟨some k, n.total.map (· + k)⟩ := by
  refine .result_bind (.mono (Retry.attains_attempt_booked (fun _ _ => attains_attemptOnce_booked)
    abstains_onRetry hpaid) ?_)
  rintro x _ g' ⟨k, hgrows, rfl⟩
  apply attains_settleTask_bind
  apply Attains.ofExcept
  exact ⟨k, hgrows, rfl⟩

/-- The task is told of one attempt for each request that was sent, and of one more if a permit was denied. -/
theorem attains_send_tallied (hpaid : g.tries.unpaid = false) :
    Attains (Accounts.behaviour b) (f.send b q) n g fun x => Tallies n g (Denied x) := by
  refine (attains_send_counted hpaid).mono ?_
  rintro x _ g' ⟨k, hgrows, rfl⟩
  exact ⟨k, hgrows, rfl⟩

/-! ## Counts and pages -/

theorem attains_fetchCount_tallied {read : List UInt8 → Reading Tally} (hpaid : g.tries.unpaid = false) :
    Attains (Accounts.behaviour (f.bucket category)) (f.fetchCount r category previous read) n g
      fun x => Tallies n g (Denied x) := by
  rw [fetchCount_eq]
  refine (attains_send_tallied hpaid).andThen (fun _ _ _ hx => hx) fun response n' g' hx => ?_
  have hrest : Abstains (f.bucket category) (do
      let count ← ofExcept (countOf read previous.isSome response)
      return Gist.finding category (← clock) ⟨.count count, f.freshnessOf response, 1, false⟩ : Fetch τ (Finding τ)) :=
    (Abstains.ofExcept _).bind fun _ => Abstains.clock.bind fun _ => .pure _
  exact hrest.attains fun _ => hx.mono False.elim

theorem attains_fetchPage_tallied {read : List UInt8 → Reading (List Record)} (cursor : Option String)
    (hpaid : g.tries.unpaid = false) :
    Attains (Accounts.behaviour (f.bucket category)) (f.fetchPage r category previous read cursor) n g
      fun x => Tallies n g (Denied x) := by
  rw [fetchPage_eq]
  refine (attains_send_tallied hpaid).andThen (fun _ _ _ hx => hx) fun response n' g' hx => ?_
  apply Attains.ofExcept
  exact hx.mono False.elim

theorem attains_fetchCollection_tallied {read : List UInt8 → Reading (List Record)} (hpaid : g.tries.unpaid = false) :
    Attains (Accounts.behaviour (f.bucket category)) (f.fetchCollection r category previous read) n g
      fun x => Tallies n g (Denied x) := by
  refine (Walk.attains_collect_booked (fun cursor _ _ => attains_fetchPage_tallied cursor) hpaid).andThen ?_ ?_
  · intro fault n' g' hx
    exact hx.mono False.elim
  · rintro ⟨items, walk⟩ n' g' hx
    refine .bind (.ofExcept ?_)
    cases items with
    | error fault => exact hx
    | ok items =>
        have hclock : Abstains (f.bucket category) (do
            return Gist.finding category (← clock) ⟨.records items, walk.firstPage.bind Page.freshness,
              walk.pages, walk.truncated⟩ : Fetch τ (Finding τ)) :=
          Abstains.clock.bind fun _ => .pure _
        have hgiven : ∀ x : Except (Fault τ) (Finding τ), Tallies n g (Denied x) n' g' := fun _ => hx.mono False.elim
        exact .ite (fun _ => ((Abstains.log _ _).bind fun _ => hclock).attains hgiven) fun _ =>
          hclock.attains hgiven

theorem attains_fetchRaw_tallied (hpaid : g.tries.unpaid = false) :
    Attains (Accounts.behaviour (f.bucket category)) (f.fetchRaw r category previous) n g
      fun x => Tallies n g (Denied x) := by
  refine (Abstains.check f.flag).attains_bind (fun _ => .refl hpaid) fun _ => ?_
  cases category.endpoint.reader with
  | count read => exact attains_fetchCount_tallied hpaid
  | page read => exact attains_fetchCollection_tallied hpaid

/-! ## One category -/

/-- A failure because a permit was denied. -/
def Refused : Except (Fault τ) (Except (Failure τ) (Finding τ)) → Prop
  | .ok (.error failure) => failure.reason = .rateLimited ∨ failure.reason = .cancelled
  | _ => False

omit [Seconds τ] in
/-- A permit that is denied becomes a failure for a reason of its own. -/
theorem reasonOf?_of_isDenial {fault : Fault τ} (h : fault.isDenial = true) :
    Failure.reasonOf? fault = some .rateLimited ∨ Failure.reasonOf? fault = some .cancelled := by
  cases fault with
  | overBudget => exact .inl rfl
  | cancelled => exact .inr rfl
  | _ => cases h

omit [Seconds τ] in
theorem abstains_succeed (finding : Finding τ) : Abstains b (succeed r finding category) :=
  (Abstains.setStage _).bind fun _ => (Abstains.log _ _).bind fun _ => .pure _

omit [Seconds τ] in
theorem attains_succeed_tallied {x : Except (Fault τ) (Finding τ)} (finding : Finding τ)
    (hx : Tallies n g (Denied x) n' g') (hgiven : ¬ Denied x) :
    Attains (Accounts.behaviour b) (do
      return .ok (← succeed r finding category) : Fetch τ (Except (Failure τ) (Finding τ))) n' g'
        fun x => Tallies n g (Refused x) := by
  refine ((abstains_succeed finding).bind fun _ => .pure _).attains fun _ => ?_
  exact hx.mono fun hdenied => (hgiven hdenied).elim

/-- A failure is told with all attempts that were counted, and is a refusal if a permit was denied. -/
theorem attains_fail_tallied {fault : Fault τ} {reason : Reason}
    (hx : Tallies n g (Denied (.error fault : Except (Fault τ) (Finding τ))) n' g')
    (hreason : Failure.reasonOf? fault = some reason) :
    Attains (Accounts.behaviour b) (do
      return .error (← fail category reason fault) : Fetch τ (Except (Failure τ) (Finding τ))) n' g'
        fun x => Tallies n g (Refused x) := by
  have hrefused : fault.isDenial = true → reason = .rateLimited ∨ reason = .cancelled := by
    intro hdenied
    rcases reasonOf?_of_isDenial hdenied with h | h <;> cases hreason.symm.trans h
    · exact .inl rfl
    · exact .inr rfl
  simp only [fail, bind_assoc, pure_bind]
  refine .attemptCount_bind (attains_updateTask_bind id (fun _ => rfl) ?_)
  rw [Option.map_id_fun, id]
  refine attains_still_bind (e := .note _) trivial (fun _ => rfl) fun _ => ?_
  exact .pure (hx.mono hrefused)

variable (f r category earlier) in
/-- The tally of a fetch: an attempt for each request, and one more if the last permit was refused. -/
theorem attains_fetch_tallied (hpaid : g.tries.unpaid = false) :
    Attains (Accounts.behaviour (f.bucket category)) (f.fetch r category earlier) n g
      fun x => Tallies n g (Refused x) := by
  refine Abstains.openBucket.attains_bind (fun _ => .refl hpaid) fun _ => ?_
  refine (Abstains.setStage _).attains_bind (fun _ => .refl hpaid) fun _ => ?_
  refine (Abstains.log _ _).attains_bind (fun _ => .refl hpaid) fun _ => ?_
  refine .result_bind ((attains_fetchRaw_tallied hpaid).mono fun x n' g' hx => ?_)
  cases x with
  | ok finding => exact attains_succeed_tallied finding hx id
  | error fault =>
      dsimp only
      split
      case h_1 finding _ =>
        have hgiven : ¬ Denied (.error .unchanged : Except (Fault τ) (Finding τ)) := Bool.false_ne_true
        refine (Abstains.log _ _).attains_bind (fun _ => ?_) fun _ =>
          attains_succeed_tallied finding hx hgiven
        exact hx.mono fun hdenied => (hgiven hdenied).elim
      case h_2 =>
        have htold (x : Except (Fault τ) (Except (Failure τ) (Finding τ))) : Tallies n g (Refused x) n' g' :=
          hx.mono fun hdenied => nomatch hdenied
        refine (Abstains.log _ _).attains_bind (fun _ => htold _) fun _ => ?_
        exact (Abstains.setStage _).attains_bind (fun _ => htold _) fun _ => .throw (htold _)
      case h_3 fault _ _ _ _ =>
        cases hreason : Failure.reasonOf? fault with
        | some reason => exact attains_fail_tallied hx hreason
        | none =>
            refine .throw (hx.mono fun hdenied => ?_)
            rcases reasonOf?_of_isDenial hdenied with h | h <;> cases hreason.symm.trans h

/-! ## Runs -/

/-- A fetch takes as many permits of its bucket as it sends requests, and leaves all other trackers alone. The task is
told of one attempt for each request, and of one more if and only if the latest attempt came to its end without a
permit; then the fetch fails for that reason. -/
theorem fetch_accounts {sur : Surroundings σ τ Request Reply} {s t : Session τ} {w : World σ τ Request}
    {x : Except (Fault τ) (Except (Failure τ) (Finding τ))}
    (hrun : ((f.fetch r category earlier).run sur s w).1 = some (x, t)) :
    let w' := ((f.fetch r category earlier).run sur s w).2
    let events := Journal.after w.journal.length w'.journal
    let sends := (Journal.requests events).length
    (w'.tracker (f.bucket category)).reserved = (w.tracker (f.bucket category)).reserved + sends ∧
      (∀ b, b ≠ f.bucket category → w'.registry.get? b = w.registry.get? b) ∧
      t.task.map Task.attempts =
        (s.task.map Task.attempts).map (· + (sends + (Journal.lacksPermit events).toNat)) ∧
      (Journal.lacksPermit events = true → Refused x) := by
  intro w' events sends
  have halways := attains_fetch_tallied f r category earlier (g := .of ([] : List (Event τ Request)))
    rfl s rfl
  obtain ⟨g, hbooked, hend⟩ := (w.shown_accounts sur (f.bucket category)).run halways (.refl _ w)
  have hrun : (((f.fetch r category earlier).start s).run sur w).1 = some (x, t) := hrun
  rw [hrun] at hend
  obtain ⟨k, ⟨sent, hsends, hpermits, hk, hrefused⟩, htotal⟩ := hend
  obtain ⟨new, hjournal, rfl⟩ := hbooked.journal
  have hevents : events = new.reverse := by
    have hjournal : w'.journal = new ++ w.journal := hjournal
    simp [events, Journal.after, hjournal]
  have hsent : sends = sent := by
    have hsends : (Journal.requests new.reverse).length = 0 + sent := hsends
    simp only [sends, hevents, hsends, Nat.zero_add]
  have hpermits : (Accounts.of new.reverse).permits = sends := by
    rw [hpermits, hsent]
    exact Nat.zero_add sent
  refine ⟨?_, hbooked.others, ?_, ?_⟩
  · exact hbooked.reserved.trans (congrArg _ hpermits)
  · rw [hevents, hsent]
    exact htotal.trans (by rw [hk]; rfl)
  · rw [hevents]
    exact hrefused

/-- A reply that tells of a passing trouble, and that no request is left for a long time. -/
def troubled : Reply :=
  ⟨500, [("X-RateLimit-Remaining", "0"), ("X-RateLimit-Reset", "1700000000")], []⟩

/-- After a passing trouble that used up the budget, the second attempt is told but no request is sent. -/
theorem fetch_accounts_of_troubled :
    let sur : Surroundings Surroundings.Hours Rat Request Reply := .quiet fun _ _ => .ok troubled
    let w : World Surroundings.Hours Rat Request := .start ⟨0, 0, false⟩ ⟨0, [], 0⟩
    let run := (usual.fetch ⟨"o", "n"⟩ .stars none).run sur ⟨none, some (.start .stars)⟩ w
    ∃ x t, run.1 = some (x, t) ∧ Refused x ∧ t.task.map Task.attempts = some 2 ∧
      (run.2.tracker (usual.bucket .stars)).reserved = 1 := by
  intro sur w run
  have hends : run.1.isSome = true := by decide +kernel
  obtain ⟨⟨x, t⟩, hrun⟩ := Option.isSome_iff_exists.mp hends
  obtain ⟨hreserved, _, htold, hrefused⟩ := fetch_accounts hrun
  have hsends : (Journal.requests (Journal.after w.journal.length run.2.journal)).length = 1 := by decide +kernel
  have hlacks : Journal.lacksPermit (Journal.after w.journal.length run.2.journal) = true := by decide +kernel
  refine ⟨x, t, hrun, hrefused hlacks, ?_, ?_⟩
  · rw [htold, hsends, hlacks]
    rfl
  · rw [hreserved, hsends]
    rfl

end Fetcher

end RepoCensus
