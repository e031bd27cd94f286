import RepoCensus.Work.Basic

/-!
# Waiting for a permit

A request for which nothing is left of the budget waits for the next window, if that is near enough.
-/

namespace RepoCensus.Work

open RepoCensus.Calendar

variable {τ Q R : Type} [Seconds τ]

def waitingText (resource : String) (wait : τ) : String :=
  s!"Rate budget for '{resource}' exhausted, waiting " ++ Seconds.fixed 0 wait ++ "s for reset"

/-- Takes a permit, waiting for it as often as `patience` says but no longer than `mostWait` in all. -/
def acquire (bucket : Bucket) (flag : Option Flag) (margin : Option Int) :
    (patience : Nat) → (mostWait : τ) → Work τ Q R Permit
  | 0, _ => stall
  | patience + 1, mostWait => do
    match ← reserve bucket margin with
    | .ok permit => return permit
    | .error refusal =>
      let now ← clock
      let wait := Seconds.timeUntil refusal.resetAt now
      if wait ≤ Seconds.zero ∨ mostWait < wait then throw refusal.fault
      log .warning (waitingText bucket.resource wait)
      sleepWatching flag wait
      acquire bucket flag margin patience (mostWait - wait)

end RepoCensus.Work
