import RepoCensus.Retry.Basic
import RepoCensus.Proofs.Work.Within

/-!
# Attempts within bounds

An operation that is retried is tried as often as the policy says and no oftener, whatever its faults are, so
it costs that many times what one attempt costs.
-/

namespace RepoCensus

open RepoCensus.Calendar

variable {σ τ Q R α : Type} [Seconds τ] {quiet : Prop}

theorem RetryPolicy.ends_limitWait (p : RetryPolicy τ) (now : τ) (resetAt retryAfter : Option τ) :
    Ends quiet (fun _ => True) (p.limitWait now resetAt retryAfter) := by
  have hgranted : ∀ wait : τ, Ends quiet (fun _ => True) (if p.maxResetWait < wait then
      .error (.overBudget (resetAt.getD (now + wait)) 0 coreResource) else .ok wait : Except (Fault τ) τ) := by
    intro wait
    split
    · exact fun _ => rfl
    · trivial
  unfold limitWait
  cases retryAfter with
  | some wait => exact hgranted wait
  | none =>
      cases resetAt with
      | some reset => exact hgranted _
      | none => exact Ends.lift _

namespace Retry

open Work

variable {c : Crew σ τ Q R} {r : Retry τ} {flag : Option Flag} {n : Nat} {post : α → Prop}
  {onRetry : RetryListener τ Q R} {operation : Work τ Q R α}

def attempts (r : Retry τ) : Nat := r.policy.furtherAttempts + 1

theorem within_delayAfter (r : Retry τ) (n : Nat) (fault : Fault τ) :
    Within c 0 (fun _ => True) (r.delayAfter n fault : Work τ Q R (τ × τ)) := by
  unfold delayAfter
  split
  · refine Within.clock.free fun now _ => ?_
    exact (Within.ofExcept (r.policy.ends_limitWait _ _ _)).free fun _ _ => .pure trivial
  · refine (Within.ofExcept (Ends.lift _)).free fun base _ => ?_
    exact Within.jitter.free fun _ _ => .pure trivial

theorem within_recordDelay (r : Retry τ) (n : Nat) (fault : Fault τ) :
    Within c 0 (fun _ => True) (r.recordDelay n fault : Work τ Q R τ) := by
  refine (within_delayAfter r n fault).free fun delays _ => ?_
  exact (Within.updateAttempts _).free fun _ _ => .pure trivial

theorem within_sleepBetween (r : Retry τ) (flag : Option Flag) (s : τ) :
    Within c 0 (fun _ => True) (r.sleepBetween flag s : Work τ Q R Unit) := by
  refine .ite (fun _ => ?_) fun _ => Within.sleepWatching flag s
  exact (Within.sleep s).free fun _ _ => Within.check flag

/-- How a run of attempts may end whose values satisfy `post`. -/
def EndsWith (post : α → Prop) : Ending τ α → Prop
  | .value a => post a
  | .exhausted _ _ => True

/-- One attempt after another: what each of them costs, as often as there are attempts left. -/
theorem within_attemptFrom (hlisten : ∀ k delay fault, Within c 0 (fun _ => True) (onRetry k delay fault))
    (hop : Within c n post operation) (left k : Nat) :
    Within c ((left + 1) * n) (EndsWith post) (r.attemptFrom flag onRetry operation left k) := by
  -- on the attempts that are left: this one costs `n`, and none of what comes between two of them costs anything
  induction left using Nat.strongRecOn generalizing k with
  | _ left ih =>
      unfold attemptFrom
      rw [Nat.succ_mul, Nat.add_comm]
      refine (Within.check flag).free fun _ _ => ?_
      refine (Within.updateAttempts _).free fun _ _ => ?_
      refine hop.result.bind fun outcome houtcome => ?_
      cases outcome with
      | ok a => exact .pure houtcome
      | error fault =>
          refine .ite (fun _ => ?_) fun _ => .throw houtcome
          refine (within_recordDelay r k fault).free fun delay _ => ?_
          cases left with
          | zero => exact .pure trivial
          | succ left =>
              refine (Within.updateAttempts _).free fun _ _ => ?_
              refine (Within.log _ _).free fun _ _ => ?_
              refine (hlisten k delay fault).free fun _ _ => ?_
              exact (within_sleepBetween r flag delay).free fun _ _ => ih left (Nat.lt_succ_self left) (k + 1)

/-- An operation that is retried costs what an attempt costs, as often as the policy allows attempts. -/
theorem within_attempt (hlisten : ∀ k delay fault, Within c 0 (fun _ => True) (onRetry k delay fault))
    (hop : Within c n post operation) :
    Within c (r.attempts * n) post (r.attempt flag onRetry operation) := by
  refine (Within.setAttempts _).free fun _ _ => ?_
  refine (within_attemptFrom hlisten hop _ 1).result.bind (m := 0) fun outcome houtcome => ?_
  cases outcome with
  | error fault =>
      refine .ite (fun _ => ?_) fun _ => .throw houtcome
      exact (Within.updateAttempts _).free fun _ _ => .throw houtcome
  | ok ending =>
      cases ending with
      | value a => exact (Within.updateAttempts _).free fun _ _ => .pure houtcome
      | exhausted fault attempts =>
          refine (Within.updateAttempts _).free fun _ _ => ?_
          exact (Within.log _ _).free fun _ _ => .throw fun _ => rfl

end Retry

end RepoCensus
