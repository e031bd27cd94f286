import RepoCensus.Calendar.Seconds
import RepoCensus.Category
import RepoCensus.Fault.Undecodable
import RepoCensus.Invalid

/-!
# Faults

All that can end a piece of work before its result: troubles of the service, which may pass, limits that
were reached, requests of the caller, and input that makes no sense.
-/

namespace RepoCensus

open RepoCensus.Calendar RepoCensus.Numeral

/-- Why a category could not be had. -/
inductive Reason where
  | rateLimited
  | transport
  | decode
  | pagination
  | cancelled
deriving Repr, DecidableEq

def Reason.name : Reason → String
  | .rateLimited => "rate_limited"
  | .transport => "transport"
  | .decode => "decode"
  | .pagination => "pagination"
  | .cancelled => "cancelled"

/-- The text of a failure of something called `name`, given the text of the fault behind it. -/
def Failure.textFor (name : String) (reason : Reason) (cause : Option String) : String :=
  s!"{name} failed (" ++ reason.name ++ ")" ++ ((cause.map (": " ++ ·)).getD "")

/-- Why a piece of work ended without a result. -/
inductive Fault (τ : Type) where
  /-- A trouble that may pass when the request is made again. -/
  | transient (text : String) (status : Option Int)
  /-- A request that took too long; it may be made again. -/
  | timedOut (text : String) (status : Option Int)
  /-- The service's limit is reached. It may say when the limit ends, and how long to wait. -/
  | rateLimited (text : String) (status : Option Int) (resetAt retryAfter : Option τ)
  /-- A trouble that a further request cannot mend. -/
  | permanent (text : String) (status : Option Int)
  /-- An answer whose body is unreadable; this, too, a further request cannot mend. -/
  | undecodable (why : Undecodable) (status : Option Int)
  /-- No request is left of the budget until a time. -/
  | overBudget (resetAt : τ) (remaining : Int) (resource : String)
  | gaveUp (last : Fault τ) (attempts : Int)
  | endlessPages (pages : Int) (text : String)
  | cancelled (text : String)
  /-- A category has failed for good, with all that its failure tells. -/
  | failed (category : Category) (reason : Reason) (cause : Option (Fault τ)) (attempts : Int)
  | general (text : String)
  | invalid (why : Invalid)
  | anomaly (why : Anomaly)
  | unexpected (text : String)
  | connection (tookTooLong : Bool) (text : String)
  | unchanged
  /-- Something of a kind that cannot be shown in a table. -/
  | unshowable (kind : String)
  | interrupt (text : String)
deriving Repr

namespace Fault

variable {τ : Type}

def label : Fault τ → String
  | transient .. => "TransientError"
  | timedOut .. => "RequestTimeout"
  | rateLimited .. => "RateLimitExceeded"
  | permanent .. => "PermanentError"
  | undecodable .. => "DecodeError"
  | overBudget .. => "WouldExceedBudget"
  | gaveUp .. => "RetriesExhausted"
  | endlessPages .. => "PaginationExhausted"
  | cancelled .. => "Cancelled"
  | failed .. => "FetchFailure"
  | general .. => "StatsError"
  | invalid .. => "ValueError"
  | anomaly why => why.label
  | unexpected .. => "RuntimeError"
  | connection .. => "ConnectionError"
  | unchanged => "NotModified"
  | unshowable _ => "NotRenderableError"
  | interrupt _ => "KeyboardInterrupt"

/-- The labels under which a fault can be caught, the narrowest first. -/
def labels : Fault τ → List String
  | f@(timedOut ..) | f@(rateLimited ..) => [f.label, "TransientError", "StatsError"]
  | f@(undecodable ..) => [f.label, "PermanentError", "StatsError"]
  | general .. => ["StatsError"]
  | f@(transient ..) | f@(permanent ..) | f@(overBudget ..) | f@(gaveUp ..)
  | f@(endlessPages ..) | f@(cancelled ..) | f@(failed ..) => [f.label, "StatsError"]
  | f => [f.label]

def isTransient : Fault τ → Bool
  | transient .. | timedOut .. | rateLimited .. => true
  | _ => false

def isRateLimit : Fault τ → Bool
  | rateLimited .. => true
  | _ => false

/-- Whether a fault is handled like others; an interruption is not. -/
def isOrdinary : Fault τ → Bool
  | interrupt _ => false
  | _ => true

def overBudgetText [Seconds τ] (resetAt : τ) (remaining : Int) (resource : String) : String :=
  s!"Rate budget for '{resource}' exhausted ({remaining} left) until " ++ Seconds.fixed 0 resetAt

def message [Seconds τ] : Fault τ → String
  | transient text _ | timedOut text _ | rateLimited text .. | permanent text _ => text
  | undecodable why _ => why.message
  | overBudget resetAt remaining resource => overBudgetText resetAt remaining resource
  | gaveUp last attempts => s!"Gave up after {attempts} attempts: " ++ last.message
  | failed category reason none _ => Failure.textFor category.name reason none
  | failed category reason (some cause) _ => Failure.textFor category.name reason (some cause.message)
  | endlessPages _ text | cancelled text | general text | unexpected text => text
  | invalid why => why.message
  | connection _ text | interrupt text => text
  | anomaly why => why.message
  | unchanged => ""
  | unshowable kind =>
    "unable to render " ++ kind ++ "; a string or other renderable object is required"

/-- Whether the text of a fault is left out when the fault is reported by its label. -/
def isNameless : Fault τ → Bool
  | anomaly _ | unshowable _ | interrupt _ => true
  | _ => false

/-- The text of a fault, without the reason why a body is no document. -/
def brief [Seconds τ] : Fault τ → String
  | undecodable why _ => why.brief
  | fault => fault.message

/-- The text of a fault as it is reported beside its label. -/
def reported [Seconds τ] (fault : Fault τ) : String :=
  if fault.isNameless then Anomaly.bare fault.label else fault.brief

def stopped : Fault τ := cancelled "Operation cancelled"

def endlessText (pages : Int) : String := s!"Pagination did not terminate after {pages} pages"

def tooManyPages (pages : Nat) : Fault τ := endlessPages pages (endlessText pages)

/-- A cursor that leads back to a page that was read already. -/
def repeatedCursor (cursor : String) (pages : Nat) : Fault τ :=
  endlessPages pages ("Cursor " ++ Text.quoted cursor ++ s!" repeated after {pages} pages")

def lift {α : Type} : Except Anomaly α → Except (Fault τ) α
  | .ok a => .ok a
  | .error why => .error (anomaly why)

def refuse {α : Type} : Except Invalid α → Except (Fault τ) α
  | .ok a => .ok a
  | .error why => .error (invalid why)

theorem isOrdinary_of_isTransient {f : Fault τ} (h : f.isTransient = true) : f.isOrdinary = true := by
  cases f <;> first | rfl | cases h

end Fault

end RepoCensus
