import RepoCensus.Budget.Basic
import RepoCensus.Settings.Options

/-!
# Retry policies

How often a request is tried, and how long to wait in between.
-/

namespace RepoCensus

open RepoCensus.Calendar

structure RetryPolicy (τ : Type) where
  /-- The attempts that are allowed, the first one included. -/
  maxAttempts : Amount
  /-- The wait before the second attempt, doubled from one attempt to the next. -/
  baseDelay : τ
  /-- The bound on such a wait, its random part apart. -/
  maxDelay : τ
  maxResetWait : τ

namespace RetryPolicy

variable {τ : Type} [Seconds τ]

def usual : RetryPolicy τ := ⟨5, Seconds.whole 1, Seconds.whole 60, Seconds.whole 900⟩

/-- The policy itself if it allows an attempt at all. -/
def checked (p : RetryPolicy τ) : Except (Fault τ) (RetryPolicy τ) := do
  let _ ← Amount.atLeast (τ := τ) "max_attempts" 1 (.ok p.maxAttempts)
  return p

/-- The attempts that are allowed beyond the first one. -/
def furtherAttempts (p : RetryPolicy τ) : Nat := (p.maxAttempts.ceiling - 1).toNat

/-- The wait before a retry, the first retry being number zero. -/
def backoff (p : RetryPolicy τ) (retry : Int) : Except Anomaly τ :=
  match Seconds.powerOfTwo? (τ := τ) retry with
  | some factor => .ok (Seconds.lesser (p.baseDelay * factor) p.maxDelay)
  | none => .error (.tooLarge .double)

/-- The wait after an answer that told a limit: what the service asks for, or else the first wait of
all. A wait that is too long is refused; the refusal tells when the limit ends. -/
def limitWait (p : RetryPolicy τ) (now : τ) (resetAt retryAfter : Option τ) :
    Except (Fault τ) τ :=
  let granted (wait : τ) : Except (Fault τ) τ :=
    if p.maxResetWait < wait then .error (.overBudget (resetAt.getD (now + wait)) 0 coreResource)
    else .ok wait
  match retryAfter, resetAt with
  | some wait, _ => granted wait
  | none, some reset => granted (Seconds.timeUntil reset now)
  | none, none => Fault.lift (p.backoff 0)

end RetryPolicy

end RepoCensus
