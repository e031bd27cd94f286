import RepoCensus.Http.Message
import RepoCensus.Json.Writer
import RepoCensus.Settings.Conventions
import RepoCensus.Work.Basic

/-!
# Sending requests

A request is handed over as it is, or a client makes it. What a client does to have an answer is its own affair: it
is a part of the surroundings, and so is whether there can be a client with some headers at all. Here stands only
what is asked of it, and what becomes of its faults.
-/

namespace RepoCensus

open RepoCensus.Text

inductive Transport where
  | direct
  | wire (client : Client)

namespace Transport

variable {τ : Type}

/-- The headers of every request over the wire. -/
def headers (conventions : Conventions) (token : Option String) : List (String × String) :=
  [("Accept", conventions.accept), ("User-Agent", conventions.userAgent),
   ("X-GitHub-Api-Version", conventions.apiVersion)] ++
    ((token.filter (· ≠ "")).map fun t => ("Authorization", "Bearer " ++ t)).toList

/-- The parameters of a request as the log shows them. -/
def shownParams (params : List (String × String)) : String :=
  if params.isEmpty then ""
  else Json.inlined (.obj (params.map fun p => (p.1, .str p.2)))

def requestText (r : Request) : String := r.method ++ " " ++ r.url ++ " " ++ shownParams r.params

/-- What becomes of a fault of a client: a connection that is broken is a passing trouble. -/
def faultOf (r : Request) : Fault τ → Fault τ
  | .connection true text => .timedOut ("Request to " ++ r.url ++ " timed out: " ++ text) none
  | .connection false text => .transient ("Network error: " ++ text) none
  | fault => fault

theorem isOrdinary_faultOf (r : Request) (fault : Fault τ) : (faultOf r fault).isOrdinary = fault.isOrdinary := by
  unfold faultOf
  split <;> rfl

open Work

def send : Transport → Request → Work τ Request Reply Response
  | direct, r => do return (← ask r).response
  | wire client, r => do
    log .debug (requestText r)
    match ← answer { r with client := some client } with
    | .ok reply => return reply.response
    | .error fault => throw (faultOf r fault)

/-- The entry of the log for a transport that is opened. -/
def openingNote (token : Option String) : Level × String :=
  if (token.filter (· ≠ "")).isSome then (.debug, "Using authenticated GitHub API")
  else (.warning, "No GitHub token found. Rate limits: 60 req/hour (vs 5000 with token)")

end Transport

end RepoCensus
