import RepoCensus.Proofs.Budget.Allowance
import RepoCensus.Proofs.Retry.Course
import RepoCensus.Proofs.Work.Does

/-!
# One attempt after another

What a single attempt of a run can do, whatever its steps are answered: it ends the run, or it meets with a passing
trouble, after which the wait is worked out, the caller is told, the run sleeps and goes on with a further attempt.
-/

namespace RepoCensus

open RepoCensus.Calendar

variable {τ Q R α β : Type}

/-- Steps that a run of attempts takes itself, its sleeps apart. -/
def Effect.isOwn : Effect τ Q → Bool
  | .clock | .jitter | .cancelled _ | .note (.attempts _) | .note (.log ..) => true
  | _ => false

theorem Deed.waits_of_isOwn {ds : List (Deed τ Q R)} (h : ∀ d ∈ ds, d.effect.isOwn = true) : waits ds = [] := by
  refine List.filterMap_eq_nil_iff.mpr fun d hd => ?_
  have hown := h d hd
  obtain ⟨e, a⟩ := d
  cases e with
  | sleep s => cases hown
  | wait f s => cases hown
  | _ => rfl

theorem Effect.isOwn_of_isIdle {e : Effect τ Q} (h : e.isIdle = true) : e.isOwn = true := by
  cases e with
  | clock => rfl
  | cancelled => rfl
  | note n =>
      cases n with
      | log => rfl
      | _ => cases h
  | _ => cases h

/-- The faults with which a wait is refused. -/
def Fault.isRefusal : Fault τ → Bool
  | .overBudget .. | .anomaly _ => true
  | _ => false

theorem Fault.not_isTransient_of_isRefusal {fault : Fault τ} (h : fault.isRefusal = true) :
    fault.isTransient = false := by
  cases fault with
  | overBudget => rfl
  | anomaly => rfl
  | _ => cases h

/-- The record when the attempt number `n` is begun. -/
def Attempts.begun (n : Nat) (a : Attempts τ) : Attempts τ := { a with stage := .inProgress, count := n }

/-- The record when a further attempt is to be made. -/
def Attempts.retried (fault : Fault τ) (a : Attempts τ) : Attempts τ :=
  { a with stage := .retrying, lastFault := some fault }

namespace Retry

open Work

/-! ## Steps of the run itself -/

/-- A run takes steps of its own, its sleeps apart, and changes nothing but its record of attempts. -/
structure Minds (f : Attempts τ → Attempts τ) (s : Session τ) (ds : List (Deed τ Q R)) (s' : Session τ) : Prop where
  own : ∀ d ∈ ds, d.effect.isOwn = true
  record : s' = { s with attempts := s.attempts.map f }

/-- What a run minds that does not change its record. -/
structure Looks (s : Session τ) (ds : List (Deed τ Q R)) (s' : Session τ) : Prop where
  own : ∀ d ∈ ds, d.effect.isOwn = true
  record : s' = s

variable {s s' t : Session τ} {ds ds' : List (Deed τ Q R)} {f : Attempts τ → Attempts τ} {flag : Option Flag}

theorem Looks.of_idle (h : Deed.Idle ds) : Looks s ds s where
  own := fun d hd => Effect.isOwn_of_isIdle (h d hd)
  record := rfl

theorem Looks.minds (h : Looks s ds t) (h' : Minds f t ds' s') : Minds f s (ds ++ ds') s' where
  own := List.forall_mem_append.mpr ⟨h.own, h'.own⟩
  record := h.record ▸ h'.record

theorem Minds.looks (h : Minds f s ds t) (h' : Looks t ds' s') : Minds f s (ds ++ ds') s' where
  own := List.forall_mem_append.mpr ⟨h.own, h'.own⟩
  record := h'.record.trans h.record

theorem minds_updateAttempts {x : Except (Fault τ) Unit} (h : (updateAttempts f : Work τ Q R Unit).Does s ds x s') :
    x = .ok () ∧ Minds f s ds s' := by
  obtain ⟨rfl, rfl, rfl⟩ := h.of_updateAttempts
  refine ⟨rfl, ?_, rfl⟩
  cases s.attempts with
  | none => exact List.forall_mem_nil _
  | some a => exact List.forall_mem_singleton.mpr rfl

theorem exists_minds_of_updateAttempts_bind {k : Unit → Work τ Q R β} {y : Except (Fault τ) β}
    (h : (updateAttempts f >>= k).Does s ds y s') :
    ∃ own t ds', ds = own ++ ds' ∧ Minds f s own t ∧ (k ()).Does t ds' y s' := by
  rcases h.exists_of_bind with ⟨fault, hupdate, -⟩ | ⟨own, _, t, ds', rfl, hupdate, hk⟩
  · cases (minds_updateAttempts hupdate).1
  · exact ⟨own, t, ds', rfl, (minds_updateAttempts hupdate).2, hk⟩

variable [Seconds τ]

/-- Where a flag is watched a wait of no time is not slept. -/
def isSlept (r : Retry τ) (flag : Option Flag) (delay : τ) : Bool :=
  r.ownSleep || flag.isNone || decide (Seconds.zero < delay)

variable {r : Retry τ} {onRetry : RetryListener τ Q R} {operation : Work τ Q R α} {left n : Nat}
  {fault : Fault τ} {delay : τ}

/-! ## Waits -/

theorem isRefusal_of_limitWait {p : RetryPolicy τ} {now : τ} {resetAt retryAfter : Option τ} {refusal : Fault τ}
    (h : p.limitWait now resetAt retryAfter = .error refusal) : refusal.isRefusal = true := by
  have hgranted : ∀ wait : τ, (if p.maxResetWait < wait then
      .error (.overBudget (resetAt.getD (now + wait)) 0 coreResource) else .ok wait : Except (Fault τ) τ) =
        .error refusal → refusal.isRefusal = true := by
    intro wait h
    split at h
    · cases h
      rfl
    · cases h
  unfold RetryPolicy.limitWait at h
  cases retryAfter with
  | some wait => exact hgranted wait h
  | none =>
      cases resetAt with
      | some reset => exact hgranted _ h
      | none =>
          dsimp only at h
          cases hbackoff : p.backoff 0 with
          | ok wait => rw [hbackoff] at h; cases h
          | error why => rw [hbackoff] at h; cases h; rfl

/-- The wait is worked out without a change to the record, or refused. -/
theorem looks_delayAfter {x : Except (Fault τ) (τ × τ)}
    (h : (r.delayAfter n fault : Work τ Q R (τ × τ)).Does s ds x s') :
    Looks s ds s' ∧ ∀ refusal, x = .error refusal → refusal.isRefusal = true := by
  have hlooks : Looks s ds s' := by
    have hkeeps : Confined id (fun e => e.isOwn = true) (r.delayAfter n fault : Work τ Q R (τ × τ)) := by
      unfold delayAfter
      split
      · exact .bind (.act rfl) fun now => (Confined.ofExcept _).bind fun wait => .pure _
      · exact (Confined.ofExcept _).bind fun base => .bind (.act rfl) fun u => .pure _
    obtain ⟨hrecord, hown⟩ := hkeeps _ _ _ _ h
    exact ⟨hown, hrecord⟩
  refine ⟨hlooks, ?_⟩
  rintro refusal rfl
  unfold delayAfter at h
  split at h
  · obtain ⟨now, ds', -, h⟩ := h.exists_of_clock_bind
    rcases h.exists_of_ofExcept_bind with ⟨_, hwait, ⟨⟩, -, -⟩ | ⟨wait, -, h⟩
    · exact isRefusal_of_limitWait hwait
    · cases (does_pure_iff.mp h).2.1
  · rcases h.exists_of_ofExcept_bind with ⟨_, hbase, ⟨⟩, -, -⟩ | ⟨base, -, h⟩
    · cases hbackoff : r.policy.backoff ((n : Int) - 1) with
      | ok base => rw [hbackoff] at hbase; cases hbase
      | error why => rw [hbackoff] at hbase; cases hbase; rfl
    · obtain ⟨u, ds', -, h⟩ := Does.exists_of_act_bind (e := .jitter) h
      cases (does_pure_iff.mp h).2.1

theorem waits_of_sleepOnly {x : Except (Fault τ) Unit} (h : (r.sleepOnly flag delay).Does s ds x s') :
    x = .ok () ∧ s' = s ∧ Deed.waits ds = if r.isSlept flag delay then [delay] else [] := by
  obtain ⟨policy, ownSleep⟩ := r
  cases ownSleep with
  | true =>
      obtain ⟨_, rfl, rfl, rfl⟩ := Does.exists_of_act (e := .sleep delay) h
      exact ⟨rfl, rfl, rfl⟩
  | false =>
      cases flag with
      | none =>
          obtain ⟨_, rfl, rfl, rfl⟩ := Does.exists_of_act (e := .sleep delay) h
          exact ⟨rfl, rfl, rfl⟩
      | some f =>
          have h : (if Seconds.zero < delay then wait f delay else pure () : Work τ Q R Unit).Does s ds x s' := h
          split at h
          case isTrue hpositive =>
            obtain ⟨_, rfl, rfl, rfl⟩ := Does.exists_of_act (e := .wait f delay) h
            exact ⟨rfl, rfl, by simp [isSlept, hpositive, Deed.waits, Effect.wait?]⟩
          case isFalse hpositive =>
            obtain ⟨rfl, rfl, rfl⟩ := does_pure_iff.mp h
            exact ⟨rfl, rfl, by simp [isSlept, hpositive, Deed.waits]⟩

/-- A sleep between two attempts ends early only if the run is stopped. -/
theorem waits_of_sleepBetween {x : Except (Fault τ) Unit} (h : (r.sleepBetween flag delay).Does s ds x s') :
    (x = .ok () ∨ x = .error .stopped) ∧ s' = s ∧ Deed.waits ds = if r.isSlept flag delay then [delay] else [] := by
  rw [sleepBetween_eq] at h
  rcases h.exists_of_bind with ⟨why, hsleep, -⟩ | ⟨slept, _, t, looked, rfl, hsleep, hcheck⟩
  · cases (waits_of_sleepOnly hsleep).1
  · obtain ⟨-, rfl, hwaits⟩ := waits_of_sleepOnly hsleep
    obtain ⟨hx, hidle, rfl⟩ := hcheck.of_check
    refine ⟨hx, rfl, ?_⟩
    rw [Deed.waits_append, Deed.waits_of_isOwn fun d hd => Effect.isOwn_of_isIdle (hidle d hd), List.append_nil,
      hwaits]

/-! ## A single attempt -/

/-- The attempt number `n` met with a passing trouble, and the wait after it was worked out. -/
structure Troubled (r : Retry τ) (operation : Work τ Q R α) (n : Nat) (s : Session τ)
    (own called worked : List (Deed τ Q R)) (fault : Fault τ) (base delay : τ) (s' : Session τ) : Prop where
  transient : fault.isTransient = true
  course : ∃ t u, Minds (.begun n) s own t ∧ operation.Does t called (.error fault) u ∧
    (r.delayAfter n fault).Does u worked (.ok (base, delay)) s'

/-- What a single attempt of a run can do, if `left` further ones are allowed. -/
inductive Once (r : Retry τ) (flag : Option Flag) (onRetry : RetryListener τ Q R) (operation : Work τ Q R α)
    (left n : Nat) (s : Session τ) : List (Deed τ Q R) → Except (Fault τ) (Ending τ α) → Session τ → Prop where
  | stopped {ds : List (Deed τ Q R)} {t : Session τ} (hlooks : Looks s ds t) :
      Once r flag onRetry operation left n s ds (.error .stopped) t
  | value {own called : List (Deed τ Q R)} {a : α} {t u : Session τ} (hbegun : Minds (.begun n) s own t)
      (hcall : operation.Does t called (.ok a) u) :
      Once r flag onRetry operation left n s (own ++ called) (.ok (.value a)) u
  | fault {own called : List (Deed τ Q R)} {fault : Fault τ} {t u : Session τ} (hbegun : Minds (.begun n) s own t)
      (hcall : operation.Does t called (.error fault) u) (hlasting : fault.isTransient = false) :
      Once r flag onRetry operation left n s (own ++ called) (.error fault) u
  /-- The wait is refused. -/
  | refused {own called worked : List (Deed τ Q R)} {fault refusal : Fault τ} {t u v : Session τ}
      (hbegun : Minds (.begun n) s own t) (hcall : operation.Does t called (.error fault) u)
      (htransient : fault.isTransient = true) (hwait : (r.delayAfter n fault).Does u worked (.error refusal) v) :
      Once r flag onRetry operation left n s (own ++ called ++ worked) (.error refusal) v
  | exhausted {own called worked noted : List (Deed τ Q R)} {fault : Fault τ} {base delay : τ} {t u : Session τ}
      (htroubled : Troubled r operation n s own called worked fault base delay t)
      (hnoted : Minds (·.weighed base delay) t noted u) (hleft : left = 0) :
      Once r flag onRetry operation left n s (own ++ called ++ worked ++ noted) (.ok (.exhausted fault n)) u
  /-- The caller who is told of the trouble ends the run. -/
  | abandoned {own called worked noted told : List (Deed τ Q R)} {fault why : Fault τ} {base delay : τ} {left' : Nat}
      {t u v : Session τ} (htroubled : Troubled r operation n s own called worked fault base delay t)
      (hnoted : Minds (fun a => (a.weighed base delay).retried fault) t noted u) (hleft : left = left' + 1)
      (htold : (onRetry n delay fault).Does u told (.error why) v) :
      Once r flag onRetry operation left n s (own ++ called ++ worked ++ noted ++ told) (.error why) v
  | woken {own called worked noted told slept : List (Deed τ Q R)} {fault : Fault τ} {base delay : τ} {left' : Nat}
      {t u v w : Session τ} (htroubled : Troubled r operation n s own called worked fault base delay t)
      (hnoted : Minds (fun a => (a.weighed base delay).retried fault) t noted u) (hleft : left = left' + 1)
      (htold : (onRetry n delay fault).Does u told (.ok ()) v)
      (hsleep : (r.sleepBetween flag delay).Does v slept (.error .stopped) w) :
      Once r flag onRetry operation left n s (own ++ called ++ worked ++ noted ++ told ++ slept) (.error .stopped) w
  | again {own called worked noted told slept rest : List (Deed τ Q R)} {fault : Fault τ} {base delay : τ} {left' : Nat}
      {x : Except (Fault τ) (Ending τ α)} {t u v w s' : Session τ}
      (htroubled : Troubled r operation n s own called worked fault base delay t)
      (hnoted : Minds (fun a => (a.weighed base delay).retried fault) t noted u) (hleft : left = left' + 1)
      (htold : (onRetry n delay fault).Does u told (.ok ()) v)
      (hsleep : (r.sleepBetween flag delay).Does v slept (.ok ()) w)
      (hrest : (r.attemptFrom flag onRetry operation left' (n + 1)).Does w rest x s') :
      Once r flag onRetry operation left n s (own ++ called ++ worked ++ noted ++ told ++ slept ++ rest) x s'

/-- What a run does, once the wait after the attempt number `n` was worked out. -/
theorem once_of_troubled {own called worked noted rest : List (Deed τ Q R)} {base delay : τ}
    {x : Except (Fault τ) (Ending τ α)} {u : Session τ}
    (htroubled : Troubled r operation n s own called worked fault base delay t)
    (hnoted : Minds (·.weighed base delay) t noted u)
    (h : (r.afterDelay flag onRetry operation left n fault delay).Does u rest x s') :
    Once r flag onRetry operation left n s (own ++ called ++ worked ++ noted ++ rest) x s' := by
  cases left with
  | zero =>
      obtain ⟨rfl, rfl, rfl⟩ := does_pure_iff.mp h
      rw [List.append_nil]
      exact .exhausted htroubled hnoted rfl
  | succ left =>
      obtain ⟨own', v, rest, rfl, hretried, hlog⟩ := exists_minds_of_updateAttempts_bind h
      obtain ⟨rest, rfl, htell⟩ := hlog.exists_of_log_bind
      -- the record is changed twice before the caller is told
      have hnoted : Minds (fun a => (a.weighed base delay).retried fault) t
          (noted ++ own' ++ [⟨.note (.log .warning (r.againText n delay fault)), ()⟩]) v := by
        refine Minds.looks ⟨List.forall_mem_append.mpr ⟨hnoted.own, hretried.own⟩, ?_⟩
          ⟨List.forall_mem_singleton.mpr rfl, rfl⟩
        rw [hretried.record, hnoted.record]
        simp only [Option.map_map]
        rfl
      have happend (ds : List (Deed τ Q R)) : own ++ called ++ worked ++ noted ++
          (own' ++ ⟨.note (.log .warning (r.againText n delay fault)), ()⟩ :: ds) = own ++ called ++ worked ++
          (noted ++ own' ++ [⟨.note (.log .warning (r.againText n delay fault)), ()⟩]) ++ ds := by
        simp
      rw [happend]
      rcases htell.exists_of_bind with ⟨why, htold, rfl⟩ | ⟨told, _, w, rest, rfl, htold, hgo⟩
      · exact .abandoned htroubled hnoted rfl htold
      rw [← List.append_assoc]
      rcases hgo.exists_of_bind with ⟨why, hsleep, rfl⟩ | ⟨slept, _, w', rest, rfl, hsleep, hrest⟩
      · obtain hwhy | hwhy := (waits_of_sleepBetween hsleep).1
        · cases hwhy
        · obtain rfl := Except.error.inj hwhy
          exact .woken htroubled hnoted rfl htold hsleep
      rw [← List.append_assoc]
      exact .again htroubled hnoted rfl htold hsleep hrest

theorem once_of_does {x : Except (Fault τ) (Ending τ α)}
    (h : (r.attemptFrom flag onRetry operation left n).Does s ds x s') :
    Once r flag onRetry operation left n s ds x s' := by
  rw [attemptFrom_eq] at h
  rcases h.exists_of_check_bind with ⟨rfl, hidle, rfl⟩ | ⟨looked, ds, rfl, hidle, hbegin⟩
  · exact .stopped (.of_idle hidle)
  obtain ⟨own, t, ds, rfl, hbegun, hcalls⟩ := exists_minds_of_updateAttempts_bind hbegin
  have hbegun : Minds (.begun n) s (looked ++ own) t := (Looks.of_idle hidle).minds hbegun
  rw [← List.append_assoc]
  obtain ⟨called, outcome, u, rest, rfl, hcall, hgo⟩ := hcalls.exists_of_result_bind
  rw [← List.append_assoc]
  cases outcome with
  | ok a =>
      obtain ⟨rfl, rfl, rfl⟩ := does_pure_iff.mp hgo
      rw [List.append_nil]
      exact .value hbegun hcall
  | error fault =>
      dsimp only at hgo
      split at hgo
      case isFalse hlasting =>
        obtain ⟨rfl, rfl, rfl⟩ := does_throw_iff.mp hgo
        rw [List.append_nil]
        exact .fault hbegun hcall (eq_false_of_ne_true hlasting)
      case isTrue htransient =>
        unfold afterTrouble recordDelay at hgo
        rw [bind_assoc] at hgo
        rcases hgo.exists_of_bind with ⟨refusal, hwait, rfl⟩ | ⟨worked, ⟨base, delay⟩, v, rest, rfl, hwait, hnote⟩
        · exact .refused hbegun hcall htransient hwait
        rw [bind_assoc] at hnote
        obtain ⟨noted, w, rest, rfl, hnoted, hafter⟩ := exists_minds_of_updateAttempts_bind hnote
        rw [← List.append_assoc, ← List.append_assoc]
        exact once_of_troubled ⟨htransient, t, u, hbegun, hcall, hwait⟩ hnoted hafter

/-! ## Whole runs -/

/-- What is done when the attempts are over changes nothing of the number of attempts and the waits. -/
theorem minds_settle {x : Except (Fault τ) (Ending τ α)} {y : Except (Fault τ) α}
    (h : (settle x : Work τ Q R α).Does s ds y s') : y = outcome x ∧ ∃ f : Attempts τ → Attempts τ, Minds f s ds s' ∧
      ∀ a, (f a).count = a.count ∧ (f a).baseDelays = a.baseDelays ∧ (f a).delays = a.delays := by
  rcases x with fault | ⟨v⟩ | ⟨fault, n⟩
  · cases hordinary : fault.isOrdinary with
    | true =>
        rw [show (settle (.error fault) : Work τ Q R α) = failAttempts fault >>= fun _ => throw fault by
          simp only [settle, if_pos hordinary]] at h
        obtain ⟨own, t, rest, rfl, hfailed, hthrow⟩ := exists_minds_of_updateAttempts_bind h
        obtain ⟨rfl, rfl, rfl⟩ := does_throw_iff.mp hthrow
        rw [List.append_nil]
        exact ⟨rfl, _, hfailed, fun a => ⟨rfl, rfl, rfl⟩⟩
    | false =>
        rw [show (settle (.error fault) : Work τ Q R α) = throw fault by simp [settle, hordinary]] at h
        obtain ⟨rfl, rfl, rfl⟩ := does_throw_iff.mp h
        refine ⟨rfl, id, ⟨List.forall_mem_nil _, ?_⟩, fun a => ⟨rfl, rfl, rfl⟩⟩
        rw [Option.map_id, id]
  · obtain ⟨own, t, rest, rfl, hnoted, hpure⟩ := exists_minds_of_updateAttempts_bind h
    obtain ⟨rfl, rfl, rfl⟩ := does_pure_iff.mp hpure
    rw [List.append_nil]
    exact ⟨rfl, _, hnoted, fun a => ⟨rfl, rfl, rfl⟩⟩
  · obtain ⟨own, t, rest, rfl, hfailed, hlog⟩ := exists_minds_of_updateAttempts_bind h
    obtain ⟨rest, rfl, hthrow⟩ := hlog.exists_of_log_bind
    obtain ⟨rfl, rfl, rfl⟩ := does_throw_iff.mp hthrow
    exact ⟨rfl, _, hfailed.looks ⟨List.forall_mem_singleton.mpr rfl, rfl⟩, fun a => ⟨rfl, rfl, rfl⟩⟩

/-- A run begins a new record, makes its attempts, and settles. -/
theorem exists_of_attempt {y : Except (Fault τ) α} (h : (r.attempt flag onRetry operation).Does s ds y s') :
    ∃ tried x u settled, ds = ⟨.note (.attempts .start), ()⟩ :: (tried ++ settled) ∧
      (r.attemptFrom flag onRetry operation r.policy.furtherAttempts 1).Does { s with attempts := some .start } tried x
        u ∧
      (settle x : Work τ Q R α).Does u settled y s' := by
  rw [attempt_eq] at h
  rcases h.exists_of_bind with ⟨why, hstart, -⟩ | ⟨started, _, t, rest, rfl, hstart, hrun⟩
  · cases hstart.of_setAttempts.2.1
  obtain ⟨rfl, -, rfl⟩ := hstart.of_setAttempts
  obtain ⟨tried, x, u, settled, rfl, hattempts, hsettle⟩ := hrun.exists_of_result_bind
  exact ⟨tried, x, u, settled, rfl, hattempts, hsettle⟩

/-- A run whose caller only listens comes to what a call of the operation came to, or to a fault of its own. -/
inductive Given (operation : Work τ Q R α) (ds : List (Deed τ Q R)) : Except (Fault τ) α → Prop where
  | called {x : Except (Fault τ) α} {called : List (Deed τ Q R)} {t u : Session τ} (hcall : operation.Does t called x u)
      (hcalled : called ⊆ ds) (hlasting : ∀ fault, x = .error fault → fault.isTransient = false) : Given operation ds x
  | stopped : Given operation ds (.error .stopped)
  | refused {refusal : Fault τ} (hrefusal : refusal.isRefusal = true) : Given operation ds (.error refusal)
  | gaveUp (fault : Fault τ) (n : Nat) : Given operation ds (.error (.gaveUp fault n))

omit [Seconds τ] in
theorem Given.mono {x : Except (Fault τ) α} (h : Given operation ds x) (hds : ds ⊆ ds') : Given operation ds' x := by
  cases h with
  | called hcall hcalled hlasting => exact .called hcall (List.Subset.trans hcalled hds) hlasting
  | stopped => exact .stopped
  | refused hrefusal => exact .refused hrefusal
  | gaveUp fault n => exact .gaveUp fault n

omit [Seconds τ] in
theorem Given.not_isTransient (h : Given operation ds (.error fault)) : fault.isTransient = false := by
  cases h with
  | called _ _ hlasting => exact hlasting fault rfl
  | stopped => rfl
  | refused hrefusal => exact Fault.not_isTransient_of_isRefusal hrefusal
  | gaveUp => rfl

section

variable (hlisten : ∀ n delay fault s ds x s', (onRetry n delay fault).Does s ds x s' → x = .ok ())

include hlisten

theorem given_of_attemptFrom {x : Except (Fault τ) (Ending τ α)}
    (h : (r.attemptFrom flag onRetry operation left n).Does s ds x s') : Given operation ds (outcome x) := by
  induction left using Nat.strongRecOn generalizing n s ds with
  | _ left ih =>
      cases once_of_does h with
      | stopped => exact .stopped
      | value hbegun hcall => exact .called hcall (List.subset_append_right _ _) nofun
      | fault hbegun hcall hlasting =>
          refine .called hcall (List.subset_append_right _ _) ?_
          rintro _ ⟨⟩
          exact hlasting
      | refused hbegun hcall htransient hwait => exact .refused ((looks_delayAfter hwait).2 _ rfl)
      | exhausted htroubled hnoted hleft => exact .gaveUp _ _
      | abandoned htroubled hnoted hleft htold => cases hlisten _ _ _ _ _ _ _ htold
      | woken => exact .stopped
      | again htroubled hnoted hleft htold hsleep hrest =>
          exact (ih _ (by omega) hrest).mono (List.subset_append_right _ _)

theorem given_of_attempt {y : Except (Fault τ) α} (h : (r.attempt flag onRetry operation).Does s ds y s') :
    Given operation ds y := by
  obtain ⟨tried, x, u, settled, rfl, hattempts, hsettle⟩ := exists_of_attempt h
  obtain ⟨rfl, -⟩ := minds_settle hsettle
  refine (given_of_attemptFrom hlisten hattempts).mono ?_
  exact List.Subset.trans (List.subset_append_left _ _) (List.subset_cons_self _ _)

end

end Retry

end RepoCensus
