import RepoCensus.Retry.Policy
import RepoCensus.Settings.Named

/-!
# Retry policies by name

Policies that are given by the names of their parts.
-/

namespace RepoCensus.RetryPolicy

open RepoCensus.Calendar

variable {τ : Type}

/-- A policy that was not looked at yet. -/
structure Draft (τ : Type) where
  maxAttempts : Given Amount
  baseDelay : Given τ
  maxDelay : Given τ
  maxResetWait : Given τ

/-- Sets the part of a name, if there is one of that name; `seconds` reads numbers of seconds. -/
def Draft.set? (seconds : Json → Given τ) (d : Draft τ) (name : String) (v : Json) :
    Option (Draft τ) :=
  match name with
  | "max_attempts" => some { d with maxAttempts := Amount.given v }
  | "base_delay" => some { d with baseDelay := seconds v }
  | "max_delay" => some { d with maxDelay := seconds v }
  | "max_reset_wait" => some { d with maxResetWait := seconds v }
  | _ => none

variable [Seconds τ]

def Draft.usual : Draft τ :=
  let p : RetryPolicy τ := .usual
  ⟨.ok p.maxAttempts, .ok p.baseDelay, .ok p.maxDelay, .ok p.maxResetWait⟩

/-- The policy that is given by the names of its parts, as long as all names are known and it allows an
attempt at all; what is not given is as usual. -/
def ofNamed (seconds : Json → Given τ) (fields : List (String × Json)) :
    Except (Fault τ) (RetryPolicy τ) := do
  Fault.lift (checkReach seconds fields)
  match fields.foldlM (fun d (name, v) => Draft.set? seconds d name v) Draft.usual with
  | none => .error (.anomaly .badType)
  | some d => do
    checked ⟨← Fault.lift d.maxAttempts, ← Fault.lift d.baseDelay, ← Fault.lift d.maxDelay,
      ← Fault.lift d.maxResetWait⟩

end RepoCensus.RetryPolicy
