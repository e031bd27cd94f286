import RepoCensus.Retry.Policy
import RepoCensus.Work.Basic

/-!
# Repeated attempts

An operation is tried until it succeeds, fails for good, or has used up its attempts.
-/

namespace RepoCensus

open RepoCensus.Calendar

/-- How to retry: the policy, and whether the sleep between attempts is the caller's own. -/
structure Retry (τ : Type) where
  policy : RetryPolicy τ
  ownSleep : Bool

/-- How a run of attempts ended, a fault that needs no further attempt apart. -/
inductive Ending (τ α : Type) where
  | value (a : α)
  /-- All attempts met with a passing trouble; the last one with this. -/
  | exhausted (fault : Fault τ) (attempts : Nat)

/-- What is done before the sleep that follows an attempt. -/
abbrev RetryListener (τ Q R : Type) := Nat → τ → Fault τ → Work τ Q R Unit

namespace Retry

variable {τ Q R α : Type} [Seconds τ]

open Work

/-- The wait after the attempt number `n` failed: without and with its random part. -/
def delayAfter (r : Retry τ) (n : Nat) (fault : Fault τ) : Work τ Q R (τ × τ) := do
  match fault with
  | .rateLimited _ _ resetAt retryAfter =>
    let now ← clock
    let wait ← ofExcept (r.policy.limitWait now resetAt retryAfter)
    return (wait, wait)
  | _ =>
    let base ← ofExcept (Fault.lift (r.policy.backoff ((n : Int) - 1)))
    let u ← jitter
    return (base, base + u * base)

/-- Works out and records the wait after an attempt. -/
def recordDelay (r : Retry τ) (n : Nat) (fault : Fault τ) : Work τ Q R τ := do
  let (base, delay) ← r.delayAfter n fault
  updateAttempts fun a =>
    { a with baseDelays := a.baseDelays ++ [base], delays := a.delays ++ [delay] }
  return delay

def sleepBetween (r : Retry τ) (flag : Option Flag) (s : τ) : Work τ Q R Unit :=
  if r.ownSleep then do
    sleep s
    check flag
  else sleepWatching flag s

def againText (r : Retry τ) (n : Nat) (delay : τ) (fault : Fault τ) : String :=
  let most := r.policy.maxAttempts.text
  s!"Attempt {n}/{most} failed (" ++ fault.message ++ "), retrying in " ++ Seconds.fixed 1 delay ++ "s"

/-- Tries an operation from attempt number `n` on, with `left` further attempts. -/
def attemptFrom (r : Retry τ) (flag : Option Flag) (onRetry : RetryListener τ Q R)
    (operation : Work τ Q R α) : (left n : Nat) → Work τ Q R (Ending τ α)
  | left, n => do
    check flag
    updateAttempts fun a => { a with stage := .inProgress, count := n }
    match ← result operation with
    | .ok a => return .value a
    | .error fault =>
      if fault.isTransient then
        let delay ← r.recordDelay n fault
        match left with
        | 0 => return .exhausted fault n
        | left + 1 =>
          updateAttempts fun a => { a with stage := .retrying, lastFault := some fault }
          log .warning (r.againText n delay fault)
          onRetry n delay fault
          r.sleepBetween flag delay
          attemptFrom r flag onRetry operation left (n + 1)
      else throw fault

def failAttempts (fault : Fault τ) : Work τ Q R Unit :=
  updateAttempts fun a => { a with stage := .failed, lastFault := some fault }

/-- Tries an operation as the policy says. An interruption leaves the record as it is. -/
def attempt (r : Retry τ) (flag : Option Flag) (onRetry : RetryListener τ Q R)
    (operation : Work τ Q R α) : Work τ Q R α := do
  setAttempts .start
  match ← result (r.attemptFrom flag onRetry operation r.policy.furtherAttempts 1) with
  | .ok (.value a) =>
    updateAttempts fun s => { s with stage := .succeeded }
    return a
  | .ok (.exhausted fault attempts) =>
    failAttempts fault
    log .warning (s!"Giving up after {attempts} attempts: " ++ fault.message)
    throw (.gaveUp fault attempts)
  | .error fault =>
    if fault.isOrdinary then failAttempts fault
    throw fault

end Retry

end RepoCensus
