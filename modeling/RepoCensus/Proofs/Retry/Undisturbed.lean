import RepoCensus.Proofs.Retry.Attempts
import RepoCensus.Proofs.Work.Calm

/-!
# Undisturbed attempts

Where nothing disturbs the work, passing troubles before a success leave no trace but the number of attempts,
and an operation that never succeeds is given up in the same way each time.
-/

namespace RepoCensus

open RepoCensus.Calendar

/-- A fault that does not tell how long the service wants to be left alone. -/
def Fault.IsHintless {τ : Type} : Fault τ → Prop
  | .rateLimited _ _ resetAt retryAfter => resetAt = none ∧ retryAfter = none
  | _ => True

theorem Fault.isHintless_of_not_isRateLimit {τ : Type} {fault : Fault τ} (h : fault.isRateLimit = false) :
    fault.IsHintless := by
  cases fault <;> simp_all [isRateLimit, IsHintless]

variable {τ Q R G α : Type} [Seconds τ]

namespace Retry

open Work

variable {B : Behaviour τ Q R G} {r : Retry τ} {flag : Option Flag} {onRetry : RetryListener τ Q R}
  {operation : Work τ Q R α} {g : G} {n left : Nat} {m : Numbers} {fault : Fault τ}

/-! ## Between two attempts -/

/-- The wait after the attempt number `n`, its random part apart, if the service asks for none. -/
def ownDelay (r : Retry τ) (n : Nat) (fault : Fault τ) : Except Anomaly τ :=
  r.policy.backoff (if fault.isRateLimit then 0 else (n : Int) - 1)

theorem ownDelay_of_not_isRateLimit (h : fault.isRateLimit = false) :
    r.ownDelay n fault = r.policy.backoff ((n : Int) - 1) := by
  simp [ownDelay, h]

/-- What is done when the wait after the attempt number `n` is known and `left` further ones are allowed. -/
def afterDelay (r : Retry τ) (flag : Option Flag) (onRetry : RetryListener τ Q R) (operation : Work τ Q R α)
    (left n : Nat) (fault : Fault τ) (delay : τ) : Work τ Q R (Ending τ α) := do
  match left with
  | 0 => return .exhausted fault n
  | left + 1 =>
    updateAttempts fun a => { a with stage := .retrying, lastFault := some fault }
    log .warning (r.againText n delay fault)
    onRetry n delay fault
    r.sleepBetween flag delay
    r.attemptFrom flag onRetry operation left (n + 1)

/-- What is done when the attempt number `n` met with a passing trouble and `left` further ones are allowed. -/
def afterTrouble (r : Retry τ) (flag : Option Flag) (onRetry : RetryListener τ Q R) (operation : Work τ Q R α)
    (left n : Nat) (fault : Fault τ) : Work τ Q R (Ending τ α) := do
  let delay ← r.recordDelay n fault
  r.afterDelay flag onRetry operation left n fault delay

theorem attemptFrom_eq (r : Retry τ) (flag : Option Flag) (onRetry : RetryListener τ Q R)
    (operation : Work τ Q R α) (left n : Nat) :
    r.attemptFrom flag onRetry operation left n = (do
      check flag
      updateAttempts fun a => { a with stage := .inProgress, count := n }
      match ← result operation with
      | .ok a => return .value a
      | .error fault =>
        if fault.isTransient then r.afterTrouble flag onRetry operation left n fault else throw fault) := by
  conv => lhs; rw [attemptFrom.eq_def]
  cases left <;> rfl

section

variable (hB : B.Calm flag)

include hB

theorem passes_sleepBetween (r : Retry τ) (wait : τ) :
    Passes B (r.sleepBetween flag wait : Work τ Q R Unit) :=
  .ite (fun _ => (Passes.act hB rfl).bind fun _ => .check hB) fun _ => .sleepWatching hB wait

/-- Without a hint of the service the wait is the policy's own. -/
theorem attains_recordDelay {post : Except (Fault τ) τ → Numbers → G → Prop} (hhint : fault.IsHintless)
    (h : match r.ownDelay n fault with
      | .ok _ => ∀ delay, post (.ok delay) m g
      | .error why => post (.error (.anomaly why)) m g) : Attains B (r.recordDelay n fault) m g post := by
  refine .bind ?_
  have hrecord : ∀ (base : τ), (∀ delay, post (.ok delay) m g) → ∀ delay, Attains B (do
      updateAttempts fun a : Attempts τ =>
        { a with baseDelays := a.baseDelays ++ [base], delays := a.delays ++ [delay] }
      return delay : Work τ Q R τ) m g post := by
    intro base h delay
    refine Passes.attains_bind ?_ fun _ => .pure (h delay)
    exact Passes.updateAttempts hB fun _ => rfl
  cases fault with
  | rateLimited text status resetAt retryAfter =>
      obtain ⟨rfl, rfl⟩ := hhint
      refine (Passes.clock hB).attains_bind fun now => .bind (.ofExcept ?_)
      have hwait : r.policy.limitWait now none none = Fault.lift (r.policy.backoff 0) := rfl
      rw [hwait]
      change match r.policy.backoff 0 with | .ok _ => _ | .error _ => _ at h
      cases hbackoff : r.policy.backoff 0 with
      | ok wait => rw [hbackoff] at h; exact .pure (hrecord wait h wait)
      | error why => rw [hbackoff] at h; exact h
  | _ =>
      refine .bind (.ofExcept ?_)
      change match r.policy.backoff ((n : Int) - 1) with | .ok _ => _ | .error _ => _ at h
      cases hbackoff : r.policy.backoff ((n : Int) - 1) with
      | ok base =>
          rw [hbackoff] at h
          exact (Passes.jitter hB).attains_bind fun u => .pure (hrecord base h _)
      | error why => rw [hbackoff] at h; exact h

/-! ## One attempt after another -/

variable (hlisten : ∀ n delay fault, Passes B (onRetry n delay fault))

section

variable {post : Except (Fault τ) (Ending τ α) → Numbers → G → Prop}

include hlisten

theorem attains_afterDelay {delay : τ}
    (h : match left with
      | 0 => post (.ok (.exhausted fault n)) m g
      | left + 1 => Attains B (r.attemptFrom flag onRetry operation left (n + 1)) m g post) :
    Attains B (r.afterDelay flag onRetry operation left n fault delay) m g post := by
  cases left with
  | zero => exact .pure h
  | succ left =>
      refine Passes.attains_bind (Passes.updateAttempts hB fun _ => rfl) fun _ => ?_
      refine (Passes.log hB _ _).attains_bind fun _ => ?_
      refine (hlisten n delay fault).attains_bind fun _ => ?_
      exact (passes_sleepBetween hB r delay).attains_bind fun _ => h

theorem attains_afterTrouble (hhint : fault.IsHintless)
    (h : match r.ownDelay n fault, left with
      | .error why, _ => post (.error (.anomaly why)) m g
      | .ok _, 0 => post (.ok (.exhausted fault n)) m g
      | .ok _, left + 1 => Attains B (r.attemptFrom flag onRetry operation left (n + 1)) m g post) :
    Attains B (r.afterTrouble flag onRetry operation left n fault) m g post := by
  refine .bind (attains_recordDelay hB hhint ?_)
  cases hdelay : r.ownDelay n fault with
  | error why => rw [hdelay] at h; exact h
  | ok wait =>
      rw [hdelay] at h
      intro delay
      refine attains_afterDelay hB hlisten ?_
      cases left <;> exact h

omit hlisten in
/-- What an attempt must come to: a value, a passing trouble after which it goes on, or a fault that ends all. -/
theorem attains_attemptFrom (h : Attains B operation ⟨m.latest.map fun _ => n, m.total⟩ g fun r' m g => match r' with
      | .ok a => post (.ok (.value a)) m g
      | .error fault =>
        if fault.isTransient then Attains B (r.afterTrouble flag onRetry operation left n fault) m g post
        else post (.error fault) m g) :
    Attains B (r.attemptFrom flag onRetry operation left n) m g post := by
  rw [attemptFrom_eq]
  refine (Passes.check hB).attains_bind fun _ => .bind ?_
  refine attains_updateAttempts hB (fun _ => n) (fun _ => rfl) (.result_bind ?_)
  refine h.mono fun r' m g hr => ?_
  cases r' with
  | ok a => exact .pure hr
  | error fault =>
      dsimp only at hr
      by_cases h : fault.isTransient = true
      · simpa [h] using hr
      · rw [if_neg h] at hr
        simpa [h] using Attains.throw hr

end

/-- What a run of attempts comes to. -/
def outcome : Except (Fault τ) (Ending τ α) → Except (Fault τ) α
  | .ok (.value a) => .ok a
  | .ok (.exhausted fault n) => .error (.gaveUp fault n)
  | .error fault => .error fault

theorem attains_attempt {post : Except (Fault τ) α → Numbers → G → Prop}
    (h : Attains B (r.attemptFrom flag onRetry operation r.policy.furtherAttempts 1) ⟨some 0, m.total⟩ g
      fun e => post (outcome e)) : Attains B (r.attempt flag onRetry operation) m g post := by
  refine .bind (attains_setAttempts hB (.result_bind (h.mono fun e m g he => ?_)))
  have hfail : ∀ fault, Passes B (failAttempts fault : Work τ Q R Unit) := fun fault =>
    Passes.updateAttempts hB fun _ => rfl
  cases e with
  | error fault =>
      refine .ite (fun _ => ?_) fun _ => .throw he
      exact (hfail fault).attains_bind fun _ => .throw he
  | ok ending =>
      cases ending with
      | value a => exact Passes.attains_bind (Passes.updateAttempts hB fun _ => rfl) fun _ => .pure he
      | exhausted fault attempts =>
          refine (hfail fault).attains_bind fun _ => ?_
          exact (Passes.log hB _ _).attains_bind fun _ => .throw he

/-! ## Troubles before a success -/

variable {χ : Type} {trouble : χ → Fault τ} {At : List χ → G → Prop} {Done : G → Prop} {a : α}

include hlisten

/-- Passing troubles before a success, fewer than the attempts that are left, show in nothing but the number of
attempts. `At xs` says that the troubles `xs` are still to come. -/
theorem attains_attemptFrom_of_troubles {xs : List χ} {first : Nat} {total : Option Nat}
    (hagain : ∀ x xs m g, At (x :: xs) g →
      Attains B operation m g fun r m' g' => r = .error (trouble x) ∧ m' = m ∧ At xs g')
    (hdone : ∀ m g, At [] g → Attains B operation m g fun r m' g' => r = .ok a ∧ m' = m ∧ Done g')
    (hplain : ∀ x ∈ xs, (trouble x).isTransient = true ∧ (trouble x).isRateLimit = false)
    (hdelays : ∀ i, i < xs.length → ∃ wait, r.policy.backoff ((n + i : Nat) - 1 : Int) = .ok wait)
    (hleft : xs.length ≤ left) (hg : At xs g) :
    Attains B (r.attemptFrom flag onRetry operation left n) ⟨some first, total⟩ g fun e m' g' =>
      e = .ok (.value a) ∧ m' = ⟨some (n + xs.length), total⟩ ∧ Done g' := by
  -- on the troubles that are still to come; each of them uses up one attempt and one wait
  induction xs generalizing g left n first with
  | nil =>
      refine attains_attemptFrom hB ((hdone _ _ hg).mono ?_)
      rintro e m' g' ⟨rfl, rfl, hg'⟩
      exact ⟨rfl, rfl, hg'⟩
  | cons x xs ih =>
      cases left with
      | zero => cases hleft
      | succ left =>
          obtain ⟨htransient, hlimit⟩ := hplain x (List.mem_cons_self ..)
          obtain ⟨wait, hwait : r.policy.backoff ((n : Int) - 1) = .ok wait⟩ := hdelays 0 (Nat.succ_pos _)
          have hdelays' : ∀ i, i < xs.length → ∃ wait, r.policy.backoff ((n + 1 + i : Nat) - 1 : Int) = .ok wait := by
            intro i hi
            have h := hdelays (i + 1) (Nat.succ_lt_succ hi)
            rwa [← Nat.add_assoc, Nat.add_right_comm] at h
          refine attains_attemptFrom hB ((hagain x xs _ _ hg).mono ?_)
          rintro e m' g' ⟨rfl, rfl, hg'⟩
          dsimp only
          rw [if_pos htransient]
          refine attains_afterTrouble hB hlisten (Fault.isHintless_of_not_isRateLimit hlimit) ?_
          rw [ownDelay_of_not_isRateLimit hlimit, hwait]
          have hplain' := fun y hy => hplain y (List.mem_cons_of_mem _ hy)
          refine (ih hplain' hdelays' (Nat.le_of_succ_le_succ hleft) hg').mono ?_
          rintro e m' g'' ⟨rfl, rfl, hg''⟩
          refine ⟨rfl, ?_, hg''⟩
          rw [List.length_cons, Nat.add_assoc, Nat.add_comm 1]

/-- Passing troubles before a success, fewer than the attempts that are allowed, only use up attempts. -/
theorem attains_attempt_of_troubles {xs : List χ}
    (hagain : ∀ x xs m g, At (x :: xs) g →
      Attains B operation m g fun r m' g' => r = .error (trouble x) ∧ m' = m ∧ At xs g')
    (hdone : ∀ m g, At [] g → Attains B operation m g fun r m' g' => r = .ok a ∧ m' = m ∧ Done g')
    (hplain : ∀ x ∈ xs, (trouble x).isTransient = true ∧ (trouble x).isRateLimit = false)
    (hdelays : ∀ i, i < xs.length → ∃ wait, r.policy.backoff (i : Int) = .ok wait)
    (hattempts : xs.length < r.attempts) (hg : At xs g) :
    Attains B (r.attempt flag onRetry operation) m g fun e m' g' =>
      e = .ok a ∧ m' = ⟨some (xs.length + 1), m.total⟩ ∧ Done g' := by
  refine attains_attempt hB ?_
  have hdelays' : ∀ i, i < xs.length → ∃ wait, r.policy.backoff ((1 + i : Nat) - 1 : Int) = .ok wait := by
    intro i hi
    have h : ((1 + i : Nat) - 1 : Int) = i := by omega
    rw [h]
    exact hdelays i hi
  refine (attains_attemptFrom_of_troubles hB hlisten hagain hdone hplain hdelays'
    (Nat.le_of_lt_succ hattempts) hg).mono ?_
  rintro e m' g' ⟨rfl, rfl, hg'⟩
  exact ⟨rfl, by rw [Nat.add_comm], hg'⟩

end

end Retry

end RepoCensus
