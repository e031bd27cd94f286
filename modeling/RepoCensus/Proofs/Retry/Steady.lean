import RepoCensus.Proofs.Retry.Undisturbed
import RepoCensus.Proofs.Work.Calm

/-!
# Attempts that always end alike

An operation that always leaves the same value leaves it at the first attempt, and one that never leaves any is
given up, however long the service asks to wait.
-/

namespace RepoCensus

open RepoCensus.Calendar Work

variable {τ Q R G α : Type} [Seconds τ]

namespace Retry

variable {B : Behaviour τ Q R G} {flag : Option Flag} {onRetry : RetryListener τ Q R}
  {operation : Work τ Q R α} {r : Retry τ} {n left : Nat} {m : Numbers} {g : G} {fault : Fault τ}

theorem ne_unchanged_of_limitWait {policy : RetryPolicy τ} {now : τ} {resetAt retryAfter : Option τ}
    (h : policy.limitWait now resetAt retryAfter = .error fault) : fault ≠ .unchanged := by
  have hgranted : ∀ wait, (if policy.maxResetWait < wait then .error (.overBudget (resetAt.getD (now + wait)) 0
      coreResource) else .ok wait : Except (Fault τ) τ) = .error fault → fault ≠ .unchanged := by
    intro wait h
    split at h
    · cases h
      nofun
    · cases h
  unfold RetryPolicy.limitWait at h
  split at h
  · exact hgranted _ h
  · exact hgranted _ h
  · unfold Fault.lift at h
    split at h
    · cases h
    · cases h
      nofun

variable (hB : B.Calm flag)

include hB

/-- The wait after an attempt is worked out, or it is refused. -/
theorem attains_recordDelay_or {post : Except (Fault τ) τ → Numbers → G → Prop} (hok : ∀ delay, post (.ok delay) m g)
    (herror : ∀ fault', fault' ≠ .unchanged → post (.error fault') m g) :
    Attains B (r.recordDelay n fault) m g post := by
  have hrecord : ∀ base delay, Attains B (do
      updateAttempts fun a : Attempts τ =>
        { a with baseDelays := a.baseDelays ++ [base], delays := a.delays ++ [delay] }
      return delay : Work τ Q R τ) m g post := by
    intro base delay
    refine Passes.attains_bind ?_ fun _ => .pure (hok delay)
    exact Passes.updateAttempts hB fun _ => rfl
  refine .bind ?_
  cases fault with
  | rateLimited text status resetAt retryAfter =>
      refine (Passes.clock hB).attains_bind fun now => .bind (.ofExcept ?_)
      cases hwait : r.policy.limitWait now resetAt retryAfter with
      | ok wait => exact .pure (hrecord wait wait)
      | error fault' => exact herror fault' (ne_unchanged_of_limitWait hwait)
  | _ =>
      refine .bind (.ofExcept ?_)
      cases r.policy.backoff ((n : Int) - 1) with
      | ok base => exact (Passes.jitter hB).attains_bind fun u => .pure (hrecord base _)
      | error why => exact herror _ nofun

variable (hlisten : ∀ n delay fault, Passes B (onRetry n delay fault))

include hlisten

/-- An attempt without success is followed by another one, or it was the last. -/
theorem attains_attemptFrom_of_more (h : Yields B operation none)
    (hmore : ∀ left', left = left' + 1 → ∀ m g, Attains B (r.attemptFrom flag onRetry operation left' (n + 1)) m g
      fun e _ _ => Leaves none (outcome e)) :
    Attains B (r.attemptFrom flag onRetry operation left n) m g fun e _ _ => Leaves none (outcome e) := by
  refine attains_attemptFrom hB ((h _ g).mono fun x m g hx => ?_)
  cases x with
  | ok a => cases hx
  | error fault =>
      have hdelay : ∀ delay, Attains B (r.afterDelay flag onRetry operation left n fault delay) m g
          fun e _ _ => Leaves none (outcome e) := by
        refine fun delay => attains_afterDelay hB hlisten ?_
        cases left with
        | zero => exact Leaves.of_error nofun
        | succ left => exact hmore left rfl m g
      dsimp only
      split
      · exact .bind (attains_recordDelay_or hB hdelay fun _ => Leaves.of_error)
      · exact hx

/-- An operation that never succeeds is given up. -/
theorem attains_attemptFrom_of_none (h : Yields B operation none) (left n : Nat) (m : Numbers) (g : G) :
    Attains B (r.attemptFrom flag onRetry operation left n) m g fun e _ _ => Leaves none (outcome e) := by
  induction left generalizing n m g with
  | zero => exact attains_attemptFrom_of_more hB hlisten h fun _ hleft => nomatch hleft
  | succ left ih =>
      refine attains_attemptFrom_of_more hB hlisten h fun left' hleft => ?_
      cases hleft
      exact ih (n + 1)

theorem yields_attempt {o : Option α} (h : Yields B operation o) : Yields B (r.attempt flag onRetry operation) o := by
  intro m g
  refine attains_attempt hB ?_
  cases o with
  | none => exact attains_attemptFrom_of_none hB hlisten h _ _ _ _
  | some a =>
      refine attains_attemptFrom hB ((h _ g).mono fun x m g hx => ?_)
      cases x with
      | ok b => exact hx
      | error fault => cases hx.1

end Retry

end RepoCensus
