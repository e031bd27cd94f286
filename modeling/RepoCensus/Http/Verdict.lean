import RepoCensus.Fault.Basic
import RepoCensus.Http.Limits
import RepoCensus.Json.Writer
import RepoCensus.Record.Reader

/-!
# Verdicts on answers

Which answers are of use, and what is wrong with the others.
-/

namespace RepoCensus

open RepoCensus.Calendar RepoCensus.Numeral

namespace Response

variable {τ : Type} [Seconds τ]

/-- Whether an answer has a status of success. An answer whose result is still being worked out does
not, an answer that nothing has changed does. -/
def isSuccess (r : Response) : Bool :=
  r.status = 304 || (200 ≤ r.status && r.status < 300 && r.status ≠ 202)

/-- The message of a document, if it has one. -/
def messageIn : Json → String
  | .obj fields =>
    match (Entries.get? "message" fields).filter Json.isSomething with
    | some v => " - " ++ v.shown
    | none => ""
  | _ => ""

/-- The message in the body of an answer. A body that is no document has none; nothing is known of one for
which there is no room. -/
def detail (room : Nat) (r : Response) : Except Anomaly String :=
  match documentOf room r.body with
  | .ok v => .ok (messageIn v)
  | .error (.undecodable _) => .ok ""
  | .error (.anomaly why) => .error why

/-- The fault of an answer that refuses access: the limit is the cause if the answer says so, asks to
wait, or tells that no request is left. -/
def refusal (conventions : Conventions) (now : τ) (url detail : String) (r : Response) :
    Except Anomaly (Fault τ) := do
  let retryAfter ← r.retryAfter conventions now
  let budget ← r.budget (τ := τ) conventions
  if r.status = 429 || retryAfter.isSome || budget.any (fun b => b.remaining = 0) then
    return .rateLimited ("Rate limit exceeded" ++ detail) (some r.status)
      (budget.map Budget.resetAt) retryAfter
  else
    return .permanent (s!"Access forbidden to {url}" ++ detail) (some r.status)

/-- The fault of an answer without success, whose message is known. -/
def troubleOf (conventions : Conventions) (now : τ) (url detail : String) (r : Response) :
    Except Anomaly (Fault τ) :=
  let status := r.status
  if status = 202 then
    .ok (.transient s!"Statistics for {url} are still being computed" (some status))
  else if status = 403 ∨ status = 429 then r.refusal conventions now url detail
  else if status = 408 ∨ 500 ≤ status then
    .ok (.transient (s!"Server error {status} on {url}" ++ detail) (some status))
  else if status = 401 then
    .ok (.permanent ("Authentication failed" ++ detail ++ ". Check your GitHub token.") (some status))
  else if status = 404 then .ok (.permanent (s!"Not found: {url}" ++ detail) (some status))
  else .ok (.permanent (s!"HTTP {status} from {url}" ++ detail) (some status))

/-- The verdict on an answer. The body of one without success is looked at before anything else. -/
def verdict (room : Nat) (conventions : Conventions) (now : τ) (url : String) (r : Response) :
    Except Anomaly (Option (Fault τ)) := do
  if r.isSuccess then return none
  return some (← r.troubleOf conventions now url (← r.detail room))

theorem verdict_of_isSuccess {room : Nat} {conventions : Conventions} {now : τ} {url : String} {r : Response}
    (h : r.isSuccess = true) : r.verdict room conventions now url = .ok none := by
  simp [verdict, h, pure, Except.pure]

end Response

end RepoCensus
