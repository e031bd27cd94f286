import RepoCensus.Budget.Basic
import RepoCensus.Fault.Basic
import RepoCensus.Json.Access
import RepoCensus.Json.Writer

/-!
# Faults that are described

A fault can be described by its kind and its parts, so that a script can raise it.
-/

namespace RepoCensus

/-- The reason of a name; what has no reason of its own is a matter of transport. -/
def Reason.named : String → Reason
  | "rate_limited" => .rateLimited
  | "decode" => .decode
  | "pagination" => .pagination
  | "cancelled" => .cancelled
  | _ => .transport

namespace Fault

def timeoutKinds : List String :=
  ["ReadTimeout", "ConnectTimeout", "WriteTimeout", "PoolTimeout", "TimeoutException"]

/-- The fault that is described; a last fault behind it is looked at down to a depth. -/
def describedTo : (depth : Nat) → Json → Fault Float
  | 0, _ => .general ""
  | depth + 1, v =>
    let text := ((v.get? "message").map Json.shown).getD "boom"
    let status := v.wholeAt? "status"
    match v.textAt "kind" "" with
    | "TransientError" => .transient text status
    | "RequestTimeout" => .timedOut text status
    | "PermanentError" => .permanent text status
    | "DecodeError" => .undecodable (.other text) status
    | "RateLimitExceeded" =>
      .rateLimited text status (v.doubleAt? "reset_at") (v.doubleAt? "retry_after")
    | "WouldExceedBudget" =>
      .overBudget (v.doubleAt "reset_at" 0) (v.wholeAt "remaining" 0)
        (v.textAt "resource" coreResource)
    | "RetriesExhausted" => .gaveUp (describedTo depth (v.part "last")) (v.wholeAt "attempts" 0)
    | "PaginationExhausted" =>
      let pages := v.wholeAt "pages" 0
      .endlessPages pages ((((v.get? "message").filter Json.isSomething).map Json.shown).getD (Fault.endlessText pages))
    | "Cancelled" => .cancelled text
    | "FetchFailure" =>
      let category := (Category.ofName? (v.textAt "category" "")).getD .stars
      let cause := match v.part "cause" with
        | .null => none
        | cause => some (describedTo depth cause)
      .failed category (Reason.named (v.textAt "reason" "")) cause (v.wholeAt "attempts" 0)
    | "StatsError" => .general text
    | "RuntimeError" => .unexpected text
    | "KeyboardInterrupt" => .interrupt text
    | "InvalidURL" => .anomaly (.badAddress (.other text))
    | kind => .connection (timeoutKinds.contains kind) text

def described (v : Json) : Fault Float := describedTo v.depth v

end Fault

end RepoCensus
