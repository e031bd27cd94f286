import RepoCensus.Proofs.Retry.Undisturbed
import RepoCensus.Proofs.World.Drift
import RepoCensus.Proofs.World.Scene

/-!
# The course of a run of attempts

Which attempts a run makes, and what comes between them, is told by the passing troubles that it met with. Main
statement: after each passing trouble but that of the last attempt that is allowed, the wait is worked out, the caller
is told and the run sleeps, once and in this order. The record counts the attempts that were begun throughout.
-/

namespace RepoCensus

open RepoCensus.Calendar

variable {σ τ Q R α : Type}

/-- An attempt after which a further one was made: its fault, and the wait without and with its random part. -/
structure Setback (τ : Type) where
  fault : Fault τ
  base : τ
  delay : τ

/-- The record when so many attempts were begun and these setbacks are past. -/
def Attempts.after (stage : Stage) (count : Nat) (past : List (Setback τ)) : Attempts τ :=
  ⟨stage, count, past.map Setback.base, past.map Setback.delay, past.getLast?.map Setback.fault⟩

/-- The record between two attempts, or before the first one. -/
def Attempts.between (past : List (Setback τ)) : Attempts τ :=
  .after (if past.isEmpty then .pending else .retrying) past.length past

/-- The record with a further wait that was worked out. -/
def Attempts.weighed (x : Attempts τ) (base delay : τ) : Attempts τ :=
  { x with baseDelays := x.baseDelays ++ [base], delays := x.delays ++ [delay] }

theorem Attempts.after_concat (n : Nat) (past : List (Setback τ)) (s : Setback τ) :
    Attempts.after .retrying n (past ++ [s]) = { (Attempts.after .inProgress n past).weighed s.base s.delay with
      stage := .retrying
      lastFault := some s.fault } := by
  simp [after, weighed]

/-- The record of a run that a fault ended. -/
def Attempts.failed (x : Attempts τ) (fault : Fault τ) : Attempts τ :=
  { x with stage := .failed, lastFault := some fault }

namespace Retry

open Work

variable [Seconds τ]

/-- The sleep between two attempts, without the look at the flag that follows it. -/
def sleepOnly (r : Retry τ) (flag : Option Flag) (s : τ) : Work τ Q R Unit :=
  if r.ownSleep then sleep s
  else match flag with
    | some f => if Seconds.zero < s then wait f s else pure ()
    | none => sleep s

/-- The scene in which the caller is told of a setback, when the wait and the fault are recorded and logged. -/
def recorded (r : Retry τ) (n : Nat) (past : List (Setback τ)) (s : Setback τ) (a : Scene σ τ Q) : Scene σ τ Q :=
  ((a.attempting ((Attempts.after .inProgress n past).weighed s.base s.delay)).attempting
    (.after .retrying n (past ++ [s]))).logged .warning (r.againText n s.delay s.fault)

section

variable (sur : Surroundings σ τ Q R) (r : Retry τ) (flag : Option Flag) (onRetry : RetryListener τ Q R)
  (operation : Work τ Q R α)

/-- The attempt number `n`, which follows these setbacks. The operation is called, with the attempt counted. -/
structure Calls (past : List (Setback τ)) (a : Scene σ τ Q) (n : Nat) (x : Except (Fault τ) α) (b : Scene σ τ Q) :
    Prop where
  number : n = past.length + 1
  unraised : a.isRaised sur flag = false
  comesTo : operation.ComesTo sur (a.attempting (.after .inProgress n past)) x b

/-- Setbacks, one after another, after those that are past. Each is a call of the operation that met with a passing
trouble; after it the wait is worked out, the caller is told and the run sleeps. -/
inductive Suffers : List (Setback τ) → Scene σ τ Q → List (Setback τ) → Scene σ τ Q → Prop where
  | nil (past : List (Setback τ)) (a : Scene σ τ Q) : Suffers past a [] a
  | cons {past rest : List (Setback τ)} {s : Setback τ} {n : Nat} {a b c d e f : Scene σ τ Q}
      (hcall : Calls sur flag operation past a n (.error s.fault) b) (htransient : s.fault.isTransient = true)
      (hdelay : (r.delayAfter n s.fault).ComesTo sur b (.ok (s.base, s.delay)) c)
      (htold : (onRetry n s.delay s.fault).ComesTo sur (r.recorded n past s c) (.ok ()) d)
      (hsleep : (r.sleepOnly flag s.delay).ComesTo sur d (.ok ()) e)
      (hcounts : ∀ x ∈ [b, c, d, e], x.session.attempts.map Attempts.count = some n)
      (hrest : Suffers (past ++ [s]) e rest f) : Suffers past a (s :: rest) f

/-- How a run ends after these setbacks, when `most` attempts are allowed: with what the last call comes to, when all
attempts are used up or the wait that follows is refused, or because the flag is raised. -/
inductive Settles (most : Nat) (past : List (Setback τ)) (a : Scene σ τ Q) :
    Except (Fault τ) α → Scene σ τ Q → Prop where
  | value {n : Nat} {v : α} {b : Scene σ τ Q} (hcall : Calls sur flag operation past a n (.ok v) b) :
      Settles most past a (.ok v) (b.attempting (.after .succeeded n past))
  | fault {n : Nat} {fault : Fault τ} {b : Scene σ τ Q} (hcall : Calls sur flag operation past a n (.error fault) b)
      (htransient : fault.isTransient = false) (hordinary : fault.isOrdinary = true) :
      Settles most past a (.error fault) (b.attempting ((Attempts.after .inProgress n past).failed fault))
  | exhausted {n : Nat} {fault : Fault τ} {base delay : τ} {b c : Scene σ τ Q}
      (hcall : Calls sur flag operation past a n (.error fault) b) (htransient : fault.isTransient = true)
      (hmost : n = most) (hdelay : (r.delayAfter n fault).ComesTo sur b (.ok (base, delay)) c) :
      Settles most past a (.error (.gaveUp fault n))
        (((c.attempting ((Attempts.after .inProgress n past).weighed base delay)).attempting
          (((Attempts.after .inProgress n past).weighed base delay).failed fault)).logged .warning
            (s!"Giving up after {n} attempts: " ++ fault.message))
  /-- An interruption leaves the record as it is. -/
  | interrupted {n : Nat} {fault : Fault τ} {b : Scene σ τ Q}
      (hcall : Calls sur flag operation past a n (.error fault) b) (hordinary : fault.isOrdinary = false) :
      Settles most past a (.error fault) b
  | refused {n : Nat} {fault refusal : Fault τ} {b c : Scene σ τ Q}
      (hcall : Calls sur flag operation past a n (.error fault) b) (htransient : fault.isTransient = true)
      (hdelay : (r.delayAfter n fault).ComesTo sur b (.error refusal) c) :
      Settles most past a (.error refusal) (c.attempting ((Attempts.after .inProgress n past).failed refusal))
  | stopped (hraised : a.isRaised sur flag = true) :
      Settles most past a (.error .stopped) (a.attempting ((Attempts.between past).failed .stopped))

/-- How a run ends after these setbacks, if the caller who is told of a further one may end it with a fault. -/
inductive Closes (most : Nat) (past : List (Setback τ)) (a : Scene σ τ Q) :
    Except (Fault τ) α → Scene σ τ Q → Prop where
  | settled {y : Except (Fault τ) α} {b : Scene σ τ Q} (h : Settles sur r flag operation most past a y b) :
      Closes most past a y b
  | abandoned {n : Nat} {s : Setback τ} {why : Fault τ} {b c d : Scene σ τ Q}
      (hcall : Calls sur flag operation past a n (.error s.fault) b) (htransient : s.fault.isTransient = true)
      (hmost : n < most) (hdelay : (r.delayAfter n s.fault).ComesTo sur b (.ok (s.base, s.delay)) c)
      (htold : (onRetry n s.delay s.fault).ComesTo sur (r.recorded n past s c) (.error why) d) :
      Closes most past a (.error why)
        (if why.isOrdinary then d.attempting ((Attempts.after .retrying n (past ++ [s])).failed why) else d)

end

variable {sur : Surroundings σ τ Q R} {r : Retry τ} {flag : Option Flag} {onRetry : RetryListener τ Q R}
  {operation : Work τ Q R α} {a b c d e : Scene σ τ Q} {past : List (Setback τ)} {n left most : Nat}
  {fault : Fault τ}

/-! ## A single attempt -/

theorem sleepBetween_eq (r : Retry τ) (flag : Option Flag) (s : τ) :
    (r.sleepBetween flag s : Work τ Q R Unit) = r.sleepOnly flag s >>= fun _ => check flag := by
  unfold sleepBetween sleepOnly
  split
  · rfl
  · cases flag with
    | none => exact (bind_pure _).symm
    | some f =>
        show pause f s = _
        unfold pause
        split <;> simp

theorem exists_delayAfter (sur : Surroundings σ τ Q R) (r : Retry τ) (n : Nat) (fault : Fault τ) (a : Scene σ τ Q) :
    ∃ b : Scene σ τ Q, b.session = a.session ∧
      ((∃ base delay, (r.delayAfter n fault : Work τ Q R _).ComesTo sur a (.ok (base, delay)) b) ∨
        ∃ refusal, refusal.isOrdinary = true ∧
          (r.delayAfter n fault : Work τ Q R _).ComesTo sur a (.error refusal) b) := by
  -- after a denial the clock is read, and the wait may be too long; else the number of the attempt tells the wait
  cases fault with
  | rateLimited text status resetAt retryAfter =>
      refine ⟨⟨a.session, (a.world.perform sur .clock).2⟩, rfl, ?_⟩
      have hends : Ends True (fun _ => True) (r.policy.limitWait (a.world.perform sur .clock).1 resetAt retryAfter) :=
        r.policy.ends_limitWait _ _ _
      cases hwait : r.policy.limitWait (a.world.perform sur .clock).1 resetAt retryAfter with
      | ok wait =>
          exact .inl ⟨_, _, (ComesTo.act .clock a).bind ((ComesTo.ofExcept_of_eq hwait _).bind (.pure _ _))⟩
      | error refusal =>
          rw [hwait] at hends
          exact .inr ⟨refusal, hends trivial, (ComesTo.act .clock a).bind (ComesTo.ofExcept_of_eq hwait _).bind_error⟩
  | _ =>
      cases hbackoff : r.policy.backoff ((n : Int) - 1) with
      | ok base =>
          have hbase : (ofExcept (Fault.lift (r.policy.backoff _)) : Work τ Q R τ).ComesTo sur a (.ok base) a :=
            .ofExcept_of_eq (congrArg Fault.lift hbackoff) a
          exact ⟨⟨a.session, (a.world.perform sur .jitter).2⟩, rfl,
            .inl ⟨_, _, hbase.bind ((ComesTo.act .jitter a).bind (.pure _ _))⟩⟩
      | error why =>
          exact ⟨a, rfl, .inr ⟨.anomaly why, rfl,
            (ComesTo.ofExcept_of_eq (congrArg Fault.lift hbackoff) a).bind_error⟩⟩

theorem exists_sleepOnly (sur : Surroundings σ τ Q R) (r : Retry τ) (flag : Option Flag) (s : τ) (a : Scene σ τ Q) :
    ∃ b : Scene σ τ Q, (r.sleepOnly flag s : Work τ Q R Unit).ComesTo sur a (.ok ()) b ∧ b.session = a.session := by
  unfold sleepOnly
  split
  · exact ⟨_, .act (.sleep s) a, rfl⟩
  · split
    · split
      · exact ⟨_, .act (.wait _ s) a, rfl⟩
      · exact ⟨a, .pure () a, rfl⟩
    · exact ⟨_, .act (.sleep s) a, rfl⟩

/-- What is done when the attempts are over. -/
def settle : Except (Fault τ) (Ending τ α) → Work τ Q R α
  | .ok (.value v) => do
    updateAttempts fun x => { x with stage := .succeeded }
    return v
  | .ok (.exhausted fault n) => do
    failAttempts fault
    log .warning (s!"Giving up after {n} attempts: " ++ fault.message)
    throw (.gaveUp fault n)
  | .error fault => do
    if fault.isOrdinary then failAttempts fault
    throw fault

theorem attempt_eq (r : Retry τ) (flag : Option Flag) (onRetry : RetryListener τ Q R) (operation : Work τ Q R α) :
    r.attempt flag onRetry operation = (do
      setAttempts .start
      settle (← result (r.attemptFrom flag onRetry operation r.policy.furtherAttempts 1))) := by
  unfold attempt
  congr 1

theorem settle_error {x : Attempts τ} (hrecord : a.session.attempts = some x) (hordinary : fault.isOrdinary = true) :
    (settle (.error fault) : Work τ Q R α).ComesTo sur a (.error fault) (a.attempting (x.failed fault)) := by
  have hsettle : (settle (.error fault) : Work τ Q R α) = failAttempts fault >>= fun _ => throw fault := by
    simp only [settle, if_pos hordinary]
  rw [hsettle]
  exact (ComesTo.updateAttempts hrecord _).bind (.throw _ _)

theorem settle_interruption (a : Scene σ τ Q) (hordinary : fault.isOrdinary = false) :
    (settle (.error fault) : Work τ Q R α).ComesTo sur a (.error fault) a := by
  have hsettle : (settle (.error fault) : Work τ Q R α) = throw fault := by
    simp [settle, hordinary]
  rw [hsettle]
  exact .throw _ _

theorem settle_fault {x : Attempts τ} (hrecord : a.session.attempts = some x) (fault : Fault τ) :
    (settle (.error fault) : Work τ Q R α).ComesTo sur a (.error fault)
      (if fault.isOrdinary then a.attempting (x.failed fault) else a) := by
  cases hordinary : fault.isOrdinary with
  | true => exact settle_error hrecord hordinary
  | false => exact settle_interruption a hordinary

theorem comesTo_check_attemptFrom {x : Except (Fault τ) (Ending τ α)}
    (h : (r.attemptFrom flag onRetry operation left n).ComesTo sur a x b) :
    (check flag >>= fun _ => r.attemptFrom flag onRetry operation left n).ComesTo sur a x b := by
  -- the attempt begins with a look at the flag itself, so one before it makes no difference
  cases hraised : a.isRaised sur flag with
  | false => exact (ComesTo.check hraised).bind h
  | true =>
      rw [attemptFrom_eq] at h
      obtain ⟨rfl, rfl⟩ := h.unique (ComesTo.check_raised hraised).bind_error
      exact (ComesTo.check_raised hraised).bind_error

theorem comesTo_attemptFrom {x : Except (Fault τ) α} {y : Except (Fault τ) (Ending τ α)}
    (hrecord : a.session.attempts = some (.between past)) (hcall : Calls sur flag operation past a n x b)
    (h : match x with
      | .ok v => y = .ok (.value v) ∧ c = b
      | .error fault => if fault.isTransient then (r.afterTrouble flag onRetry operation left n fault).ComesTo sur b y c
        else y = .error fault ∧ c = b) :
    (r.attemptFrom flag onRetry operation left n).ComesTo sur a y c := by
  rw [attemptFrom_eq]
  refine (ComesTo.check hcall.unraised).bind ((ComesTo.updateAttempts hrecord _).bind (hcall.comesTo.result_bind ?_))
  cases x with
  | ok v =>
      obtain ⟨rfl, rfl⟩ := h
      exact .pure _ _
  | error fault =>
      dsimp only at h ⊢
      split at h
      · rw [if_pos ‹_›]
        exact h
      · obtain ⟨rfl, rfl⟩ := h
        rw [if_neg ‹_›]
        exact .throw _ _

theorem comesTo_afterTrouble {base delay : τ} {x : Attempts τ} {y : Except (Fault τ) (Ending τ α)}
    (hdelay : (r.delayAfter n fault).ComesTo sur a (.ok (base, delay)) b) (hrecord : b.session.attempts = some x)
    (h : (r.afterDelay flag onRetry operation left n fault delay).ComesTo sur
      (b.attempting (x.weighed base delay)) y c) :
    (r.afterTrouble flag onRetry operation left n fault).ComesTo sur a y c :=
  ComesTo.bind (hdelay.bind ((ComesTo.updateAttempts hrecord _).bind (.pure _ _))) h

/-! ## Attempt after attempt -/

variable (sur r flag onRetry operation) in
/-- With so many further attempts, a run suffers setbacks, no more of them than that, and closes. -/
def RunsOn (left : Nat) (past : List (Setback τ)) (a : Scene σ τ Q) : Prop :=
  ∃ ss b x d y c, Suffers sur r flag onRetry operation past a ss b ∧ ss.length ≤ left ∧
    Closes sur r flag onRetry operation (past.length + 1 + left) (past ++ ss) b y c ∧
    (r.attemptFrom flag onRetry operation left (past.length + 1)).ComesTo sur a x d ∧
    (settle x).ComesTo sur d y c

theorem RunsOn.of_closes {x : Except (Fault τ) (Ending τ α)} {y : Except (Fault τ) α}
    (hcloses : Closes sur r flag onRetry operation (past.length + 1 + left) past a y c)
    (hattempt : (r.attemptFrom flag onRetry operation left (past.length + 1)).ComesTo sur a x d)
    (hsettle : (settle x).ComesTo sur d y c) : RunsOn sur r flag onRetry operation left past a := by
  refine ⟨[], a, x, d, y, c, .nil past a, Nat.zero_le _, ?_, hattempt, hsettle⟩
  rwa [List.append_nil]

theorem RunsOn.cons {s : Setback τ} (h : RunsOn sur r flag onRetry operation left (past ++ [s]) e)
    (hsuffers : Suffers sur r flag onRetry operation past a [s] e)
    (hattempt : ∀ y c, (r.attemptFrom flag onRetry operation left (past.length + 2)).ComesTo sur e y c →
      (r.attemptFrom flag onRetry operation (left + 1) (past.length + 1)).ComesTo sur a y c) :
    RunsOn sur r flag onRetry operation (left + 1) past a := by
  obtain ⟨ss, b, x, d, y, c, hrest, hlength, hcloses, hattempt', hsettle⟩ := h
  have hlast : (past ++ [s]).length = past.length + 1 := by simp
  rw [hlast] at hcloses hattempt'
  rw [List.append_assoc, List.singleton_append, Nat.add_right_comm] at hcloses
  refine ⟨s :: ss, b, x, d, y, c, ?_, Nat.succ_le_succ hlength, hcloses, hattempt _ _ hattempt', hsettle⟩
  cases hsuffers with
  | cons hcall htransient hdelay htold hsleep hcounts hnil =>
      cases hnil
      exact .cons hcall htransient hdelay htold hsleep hcounts hrest

section

variable (hoperation : ∀ a : Scene σ τ Q, ∃ x b, operation.ComesTo sur a x b ∧ b.session.attempts = a.session.attempts)

include hoperation

/-- An attempt ends the run, unless it meets with a passing trouble after which the wait can be worked out. -/
theorem settles_or_troubled (r : Retry τ) (flag : Option Flag) (onRetry : RetryListener τ Q R) (left most : Nat)
    (hrecord : a.session.attempts = some (.between past)) (hn : n = past.length + 1) :
    (∃ x d y c, Settles sur r flag operation most past a y c ∧
      (r.attemptFrom flag onRetry operation left n).ComesTo sur a x d ∧ (settle x).ComesTo sur d y c) ∨
    ∃ fault base delay b c, Calls sur flag operation past a n (.error fault) b ∧ fault.isTransient = true ∧
      (r.delayAfter n fault).ComesTo sur b (.ok (base, delay)) c ∧
      b.session.attempts = some (.after .inProgress n past) ∧ c.session = b.session ∧
      ∀ y d, (r.afterDelay flag onRetry operation left n fault delay).ComesTo sur
          (c.attempting ((Attempts.after .inProgress n past).weighed base delay)) y d →
        (r.attemptFrom flag onRetry operation left n).ComesTo sur a y d := by
  cases hraised : a.isRaised sur flag with
  | true =>
      refine .inl ⟨.error .stopped, a, _, _, .stopped hraised, ?_, settle_error hrecord rfl⟩
      rw [attemptFrom_eq]
      exact (ComesTo.check_raised hraised).bind_error
  | false =>
      obtain ⟨x, b, hcall, hb⟩ := hoperation (a.attempting (.after .inProgress n past))
      have hcall : Calls sur flag operation past a n x b := ⟨hn, hraised, hcall⟩
      have hb : b.session.attempts = some (.after .inProgress n past) := hb
      cases x with
      | ok v =>
          refine .inl ⟨.ok (.value v), b, _, _, .value hcall, ?_, ?_⟩
          · exact comesTo_attemptFrom hrecord hcall ⟨rfl, rfl⟩
          · exact (ComesTo.updateAttempts hb _).bind (.pure _ _)
      | error fault =>
          cases htransient : fault.isTransient with
          | false =>
              have hattempt : (r.attemptFrom flag onRetry operation left n).ComesTo sur a (.error fault) b :=
                comesTo_attemptFrom hrecord hcall (by simp [htransient])
              cases hordinary : fault.isOrdinary with
              | true =>
                  exact .inl ⟨_, b, _, _, .fault hcall htransient hordinary, hattempt, settle_error hb hordinary⟩
              | false =>
                  exact .inl ⟨_, b, _, _, .interrupted hcall hordinary, hattempt, settle_interruption b hordinary⟩
          | true =>
              have htrouble (y d) (h : (r.afterTrouble flag onRetry operation left n fault).ComesTo sur b y d) :
                  (r.attemptFrom flag onRetry operation left n).ComesTo sur a y d :=
                comesTo_attemptFrom hrecord hcall (by simpa [htransient] using h)
              obtain ⟨c, hc, ⟨base, delay, hdelay⟩ | ⟨refusal, hordinary, hrefused⟩⟩ :=
                exists_delayAfter sur r n fault b
              · exact .inr ⟨fault, base, delay, b, c, hcall, htransient, hdelay, hb, hc, fun y d h =>
                  htrouble y d (comesTo_afterTrouble hdelay (hc ▸ hb) h)⟩
              · refine .inl ⟨.error refusal, c, _, _, .refused hcall htransient hrefused, ?_,
                  settle_error (hc ▸ hb) hordinary⟩
                exact htrouble _ _ (ComesTo.bind_error (ComesTo.bind_error hrefused))

section

variable (hlisten : ∀ n delay fault (a : Scene σ τ Q), ∃ x b,
  (onRetry n delay fault).ComesTo sur a x b ∧ b.session.attempts = a.session.attempts)

include hlisten

/-- From these setbacks on a run that has so many further attempts suffers more of them, and then closes. -/
theorem runsOn (r : Retry τ) (flag : Option Flag) (left : Nat) (hrecord : a.session.attempts = some (.between past)) :
    RunsOn sur r flag onRetry operation left past a := by
  -- on the attempts that are left; each setback uses up one of them
  induction left generalizing past a with
  | zero =>
      rcases settles_or_troubled hoperation r flag onRetry 0 (past.length + 1) hrecord rfl with
        ⟨x, d, y, c, hsettles, hattempt, hsettle⟩ |
        ⟨fault, base, delay, b, c, hcall, htransient, hdelay, hb, hc, hattempt⟩
      · exact .of_closes (.settled hsettles) hattempt hsettle
      -- a passing trouble, and no attempt is left
      · have hexhausted : Settles sur r flag operation (past.length + 1) past a _ _ :=
          .exhausted hcall htransient rfl hdelay
        exact .of_closes (.settled hexhausted) (hattempt _ _ (.pure _ _))
          ((ComesTo.updateAttempts rfl _).bind ((ComesTo.log _ _ _).bind (.throw _ _)))
  | succ left ih =>
      rcases settles_or_troubled hoperation r flag onRetry (left + 1) (past.length + 1 + (left + 1)) hrecord rfl with
        ⟨x, d, y, c, hsettles, hattempt, hsettle⟩ |
        ⟨fault, base, delay, b, c, hcall, htransient, hdelay, hb, hc, hattempt⟩
      · exact .of_closes (.settled hsettles) hattempt hsettle
      -- a passing trouble, of which the caller is told
      · let s : Setback τ := ⟨fault, base, delay⟩
        have hlast : (past ++ [s]).length = past.length + 1 := by simp
        obtain ⟨x, d, htold, hd⟩ := hlisten (past.length + 1) delay fault (r.recorded (past.length + 1) past s c)
        have hd : d.session.attempts = some (.after .retrying (past.length + 1) (past ++ [s])) := hd
        have hattempt {y c'} (h : (onRetry (past.length + 1) delay fault >>= fun _ =>
            r.sleepBetween flag delay >>= fun _ => r.attemptFrom flag onRetry operation left (past.length + 2)).ComesTo
              sur (r.recorded (past.length + 1) past s c) y c') :
            (r.attemptFrom flag onRetry operation (left + 1) (past.length + 1)).ComesTo sur a y c' := by
          rw [recorded, Attempts.after_concat] at h
          exact hattempt y c' ((ComesTo.updateAttempts rfl _).bind ((ComesTo.log _ _ _).bind h))
        cases x with
        | error why =>
            have hless : past.length + 1 < past.length + 1 + (left + 1) := by omega
            exact .of_closes (.abandoned hcall htransient hless hdelay htold) (hattempt htold.bind_error)
              (settle_fault hd why)
        | ok v =>
            obtain ⟨e, hsleep, he⟩ := exists_sleepOnly sur r flag delay d
            have he : e.session.attempts = some (.between (past ++ [s])) := by
              rw [he, hd, Attempts.between, hlast]
              simp
            refine (ih he).cons ?_ fun y c' h => hattempt (htold.bind ?_)
            · refine .cons hcall htransient hdelay htold hsleep ?_ (.nil _ e)
              simp [hb, hc, hd, he, Attempts.after, Attempts.between]
            · rw [sleepBetween_eq, bind_assoc]
              exact hsleep.bind (comesTo_check_attemptFrom h)

/-- A run of attempts meets with setbacks, fewer than the attempts that are allowed, and comes to an end after them. -/
theorem exists_course (r : Retry τ) (flag : Option Flag) (a : Scene σ τ Q) {most : Nat} (hmost : 1 ≤ most)
    (hpolicy : r.policy.maxAttempts = .number most) :
    ∃ ss b y c, (r.attempt flag onRetry operation).ComesTo sur a y c ∧ ss.length < most ∧
      Suffers sur r flag onRetry operation [] (a.attempting .start) ss b ∧
      Closes sur r flag onRetry operation most ss b y c := by
  obtain ⟨left, rfl⟩ := Nat.exists_eq_add_of_le' hmost
  have hleft : r.policy.furtherAttempts = left := by
    rw [RetryPolicy.furtherAttempts, hpolicy, Amount.ceiling_number]
    omega
  have hrecord : (a.attempting .start).session.attempts = some (.between []) := rfl
  obtain ⟨ss, b, x, d, y, c, hsuffers, hlength, hcloses, hattempt, hsettle⟩ :=
    runsOn hoperation hlisten r flag left hrecord
  rw [List.nil_append, List.length_nil, Nat.zero_add, Nat.add_comm] at hcloses
  refine ⟨ss, b, y, c, ?_, Nat.lt_succ_of_le hlength, hsuffers, hcloses⟩
  rw [attempt_eq, hleft]
  exact (ComesTo.setAttempts .start a).bind (hattempt.result_bind hsettle)

end

variable (hlisten : ∀ n delay fault (a : Scene σ τ Q), ∃ b,
  (onRetry n delay fault).ComesTo sur a (.ok ()) b ∧ b.session.attempts = a.session.attempts)

include hlisten

/-- A run of attempts meets with setbacks, fewer than the attempts that are allowed, and then settles. If it is not
stopped and no wait is refused it comes to the value or the fault of the first attempt that did not meet with a passing
trouble, or is given up with the trouble of the last one. -/
theorem attempt_runs_its_course (r : Retry τ) (flag : Option Flag) (a : Scene σ τ Q) {most : Nat} (hmost : 1 ≤ most)
    (hpolicy : r.policy.maxAttempts = .number most) :
    ∃ ss b y c, (r.attempt flag onRetry operation).ComesTo sur a y c ∧ ss.length < most ∧
      Suffers sur r flag onRetry operation [] (a.attempting .start) ss b ∧
      Settles sur r flag operation most ss b y c := by
  have hends : ∀ n delay fault (a : Scene σ τ Q), ∃ x b,
      (onRetry n delay fault).ComesTo sur a x b ∧ b.session.attempts = a.session.attempts :=
    fun n delay fault a => ⟨.ok (), hlisten n delay fault a⟩
  obtain ⟨ss, b, y, c, hattempt, hlength, hsuffers, hcloses⟩ :=
    exists_course hoperation hends r flag a hmost hpolicy
  refine ⟨ss, b, y, c, hattempt, hlength, hsuffers, ?_⟩
  cases hcloses with
  | settled h => exact h
  | abandoned _ _ _ _ htold =>
      obtain ⟨d, hd, -⟩ := hlisten _ _ _ _
      cases (htold.unique hd).1

end

/-- A service that is busy at first, and then has a value. -/
def busyTwice : Surroundings Surroundings.Hours Rat Unit Nat :=
  .quiet fun _ served => if served < 2 then .error (.transient "busy" none) else .ok 7

theorem run_attempt_busyTwice :
    (((⟨.usual, true⟩ : Retry Rat).attempt none (fun _ _ _ => pure ()) (ask ())).run busyTwice .start
      (.start ⟨0, 0, false⟩ ⟨0, [], 0⟩)).1.map (fun x => (x.1.toOption, x.2.attempts.map Attempts.count)) =
    some (some 7, some 3) := by
  decide +kernel

/-- Two passing troubles and then a value, when five attempts are allowed. -/
theorem attempt_runs_its_course_of_busyTwice :
    let r : Retry Rat := ⟨.usual, true⟩
    let a : Scene Surroundings.Hours Rat Unit := ⟨.start, .start ⟨0, 0, false⟩ ⟨0, [], 0⟩⟩
    ∃ ss b c, ss.length = 2 ∧ Suffers busyTwice r none (fun _ _ _ => pure ()) (ask ()) [] (a.attempting .start) ss b ∧
      Settles busyTwice r none (ask ()) 5 ss b (.ok 7) c := by
  intro r a
  have hoperation : ∀ a, ∃ x b, (ask ()).ComesTo busyTwice a x b ∧ b.session.attempts = a.session.attempts :=
    fun a => ⟨_, _, .ask () a, rfl⟩
  have hlisten : ∀ (n : Nat) (delay : Rat) (fault : Fault Rat) a, ∃ b,
      (pure () : Work Rat Unit Nat Unit).ComesTo busyTwice a (.ok ()) b ∧ b.session.attempts = a.session.attempts :=
    fun _ _ _ a => ⟨a, .pure () a, rfl⟩
  have hfive : 1 ≤ 5 := by decide
  obtain ⟨ss, b, y, c, hattempt, -, hsuffers, hsettles⟩ :=
    attempt_runs_its_course hoperation hlisten r none a hfive rfl
  have hrun := run_attempt_busyTwice
  rw [show _ = _ from hattempt] at hrun
  cases hsettles with
  | @value n v b' hcall =>
      have heq : some (some v, some n) = some (some 7, some 3) := hrun
      cases heq
      have hnumber := hcall.number
      exact ⟨ss, b, _, by omega, hsuffers, .value hcall⟩
  | _ => cases hrun

end Retry

end RepoCensus
