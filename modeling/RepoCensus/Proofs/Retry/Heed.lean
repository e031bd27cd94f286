import RepoCensus.Proofs.Retry.Attempts
import RepoCensus.Proofs.Work.Heed

/-!
# Attempts that heed a flag

Before each attempt the flag is looked at, and a wait before it comes first. So attempts may begin where there may be
no request, and end where there may be none.
-/

namespace RepoCensus

open RepoCensus.Calendar

variable {τ Q R α : Type} [Seconds τ] {Told : Fault τ → Prop}

theorem RetryPolicy.tells_limitWait (p : RetryPolicy τ) (now : τ) (resetAt retryAfter : Option τ) :
    Work.Tells Told (fun _ => True) (p.limitWait now resetAt retryAfter) := by
  have hgranted : ∀ wait : τ, Work.Tells Told (fun _ => True) (if p.maxResetWait < wait then
      .error (.overBudget (resetAt.getD (now + wait)) 0 coreResource) else .ok wait : Except (Fault τ) τ) := by
    intro wait
    split
    · exact nofun
    · trivial
  unfold limitWait
  cases retryAfter with
  | some wait => exact hgranted wait
  | none =>
      cases resetAt with
      | some reset => exact hgranted _
      | none => exact Work.Tells.lift _

namespace Retry

open Work

variable {v : Watch τ Q R} {r : Retry τ} {n : Bool} {post : α → Prop} {onRetry : RetryListener τ Q R}
  {operation : Work τ Q R α}

theorem heeds_delayAfter (r : Retry τ) (k : Nat) (fault : Fault τ) :
    Heeds v n n (fun _ => True) (r.delayAfter k fault : Work τ Q R (τ × τ)) := by
  unfold delayAfter
  split
  · refine Heeds.clock.bind fun now _ => ?_
    exact (Heeds.ofExcept (r.policy.tells_limitWait _ _ _)).bind fun _ _ => .pure trivial
  · refine (Heeds.ofExcept (Tells.lift _)).bind fun base _ => ?_
    exact Heeds.jitter.bind fun _ _ => .pure trivial

theorem heeds_recordDelay (r : Retry τ) (k : Nat) (fault : Fault τ) :
    Heeds v n n (fun _ => True) (r.recordDelay k fault : Work τ Q R τ) := by
  refine (heeds_delayAfter r k fault).bind fun delays _ => ?_
  exact (Heeds.updateAttempts _).bind fun _ _ => .pure trivial

section

variable {flag : Option Flag} (hflag : flag = some v.flag)

include hflag

theorem heeds_sleepBetween (r : Retry τ) (s : τ) :
    Heeds v n true (fun _ => True) (r.sleepBetween flag s : Work τ Q R Unit) := by
  refine .ite (fun _ => ?_) fun _ => Heeds.sleepWatching hflag s
  exact (Heeds.sleep s).bind fun _ _ => Heeds.check hflag

variable (hlisten : ∀ k delay fault, Heeds v false false (fun _ => True) (onRetry k delay fault))
  (hop : Heeds v true false post operation)

include hlisten hop

/-- From one attempt to the next the flag is looked at. -/
theorem heeds_attemptFrom (left k : Nat) :
    Heeds v false false (EndsWith post) (r.attemptFrom flag onRetry operation left k) := by
  -- on the attempts that are left: the next one begins with a look at the flag, so it may follow a wait
  induction left using Nat.strongRecOn generalizing k with
  | _ left ih =>
      unfold attemptFrom
      refine (Heeds.check hflag).bind fun _ _ => (Heeds.updateAttempts _).bind fun _ _ => ?_
      refine hop.result.bind fun outcome houtcome => ?_
      cases outcome with
      | ok a => exact .pure houtcome
      | error fault =>
          refine .ite (fun _ => ?_) fun _ => .throw houtcome
          refine (heeds_recordDelay r k fault).bind fun delay _ => ?_
          cases left with
          | zero => exact .pure trivial
          | succ left =>
              refine (Heeds.updateAttempts _).bind fun _ _ => (Heeds.log _ _).bind fun _ _ => ?_
              refine (hlisten k delay fault).bind fun _ _ => ?_
              refine (heeds_sleepBetween hflag r delay).weaken.bind fun _ _ => ?_
              exact ih left (Nat.lt_succ_self left) (k + 1)

/-- Attempts heed a flag that each attempt heeds. -/
theorem heeds_attempt : Heeds v false false post (r.attempt flag onRetry operation) := by
  refine (Heeds.setAttempts _).bind fun _ _ => ?_
  refine (heeds_attemptFrom hflag hlisten hop _ 1).result.bind fun outcome houtcome => ?_
  cases outcome with
  | error fault =>
      refine .ite (fun _ => ?_) fun _ => .throw houtcome
      exact (Heeds.updateAttempts _).bind fun _ _ => .throw houtcome
  | ok ending =>
      cases ending with
      | value a => exact (Heeds.updateAttempts _).bind fun _ _ => .pure houtcome
      | exhausted fault attempts =>
          exact (Heeds.updateAttempts _).bind fun _ _ => (Heeds.log _ _).bind fun _ _ => .throw nofun

end

end Retry

end RepoCensus
