import RepoCensus.Budget.Basic
import RepoCensus.Calendar.MailDate
import RepoCensus.Http.Message
import RepoCensus.Settings.Conventions
import RepoCensus.Text.Blank

/-!
# Limits told by headers

What an answer tells about the requests that are left and about how long to wait.
-/

namespace RepoCensus

open RepoCensus.Calendar RepoCensus.Numeral RepoCensus.Text

namespace Response

def number? (r : Response) (name : String) : Option Int :=
  (r.header? name).bind fun s => whole? (strip s)

variable {τ : Type} [Seconds τ]

/-- A whole number of seconds, unless it is too large. -/
def wholeSeconds (n : Int) : Except Anomaly τ :=
  match Seconds.ofInt? n with
  | some s => .ok s
  | none => .error (.tooLarge .double)

/-- The budget that an answer tells, if it tells the requests left and the time of the next window. A
negative number of requests counts as none; without a limit the number told serves for it. -/
def budget (conventions : Conventions) (r : Response) : Except Anomaly (Option (Budget τ)) :=
  match r.number? conventions.remainingHeader, r.number? conventions.resetHeader with
  | some remaining, some reset => do
    let resetAt ← wholeSeconds reset
    let limit := (r.number? conventions.limitHeader).getD remaining
    let resource := ((r.header? conventions.resourceHeader).filter (· ≠ "")).getD coreResource
    return some ⟨max remaining 0, resetAt, limit, resource⟩
  | _, _ => .ok none

/-- The seconds from `now` to the date that a text tells, if it tells one. -/
def untilDate (now : τ) (s : String) : Except Anomaly (Option τ) :=
  match MailDate.seconds s with
  | .ok n => do
    let date ← wholeSeconds n
    return some (Seconds.timeUntil date now)
  | .error (.tooLarge bound) => .error (.tooLarge bound)
  | .error _ => .ok none

/-- How long an answer asks to wait: so many seconds, or until a date. -/
def retryAfter (conventions : Conventions) (now : τ) (r : Response) :
    Except Anomaly (Option τ) :=
  match (r.header? conventions.retryAfterHeader).filter (· ≠ "") with
  | none => .ok none
  | some s =>
    match whole? (strip s) with
    | some n => do return some (← wholeSeconds (max n 0))
    | none => untilDate now s

end Response

end RepoCensus
