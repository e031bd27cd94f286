import RepoCensus.Budget.Acquire
import RepoCensus.Fetch.Endpoint
import RepoCensus.Fetch.Finding
import RepoCensus.Http.Link
import RepoCensus.Http.Transport
import RepoCensus.Http.Verdict
import RepoCensus.Numeral.Grouped
import RepoCensus.Pages.Walk
import RepoCensus.Retry.Basic
import RepoCensus.Settings.Options

/-!
# Fetching a category

Every request takes a permit, is retried as the options say, and passes on the budget that its answer
tells. Collections are walked page by page.
-/

namespace RepoCensus

open RepoCensus.Calendar RepoCensus.Numeral RepoCensus.Text

/-- What the fetches of one caller have in common. -/
structure Fetcher (τ : Type) where
  transport : Transport
  token : Option String
  baseUrl : String
  options : Options τ
  conventions : Conventions
  flag : Option Flag
  /-- How often a request waits for a permit at most. -/
  patience : Nat
  /-- How many arrays and objects inside of each other there is room for when a body is read. -/
  room : Nat

/-- A fetch, whose requests are requests to the service. -/
abbrev Fetch (τ : Type) := Work τ Request Reply

namespace Fetcher

variable {τ : Type} [Seconds τ]

open Work

/-! ## One request -/

def retry (f : Fetcher τ) : Retry τ where
  policy := ⟨f.options.maxRetries, f.options.baseDelay, f.options.maxDelay, f.options.maxResetWait⟩
  ownSleep := false

/-- The bucket from which the requests for a category are paid. -/
def bucket (f : Fetcher τ) (category : Category) : Bucket :=
  .of f.token category.endpoint.resource

/-- One attempt at a request: a permit, the answer, its budget, and the verdict on it. -/
def attemptOnce (f : Fetcher τ) (bucket : Bucket) (request : Request) : Fetch τ Response := do
  let _ ← acquire bucket f.flag (some f.options.safetyMargin.floor) f.patience f.options.maxResetWait
  let response ← f.transport.send request
  match ← ofExcept (Fault.lift (response.budget f.conventions)) with
  | some budget => do ofExcept (Fault.lift (← update bucket budget))
  | none => pure ()
  let now ← clock
  match ← ofExcept (Fault.lift (response.verdict f.room f.conventions now request.url)) with
  | some fault => throw fault
  | none => return response

/-- The task is told that an attempt is about to be repeated. -/
def onRetry : RetryListener τ Request Reply := fun _ delay fault => do
  match (← session).task with
  | none => pure ()
  | some t =>
    setStage .retrying
    if fault.isRateLimit then
      log .warning (t.category.name ++ ": rate limited, waiting " ++ Seconds.fixed 0 delay ++ "s")

/-- The task is told how many attempts a request took. -/
def settleTask : Fetch τ Unit := do
  let attempts ← attemptCount
  updateTask fun t =>
    { t with
      attempts := t.attempts + attempts
      stage := if t.stage = .retrying then .inProgress else t.stage }

def send (f : Fetcher τ) (bucket : Bucket) (request : Request) : Fetch τ Response := do
  let outcome ← result (f.retry.attempt f.flag onRetry (f.attemptOnce bucket request))
  settleTask
  ofExcept outcome

/-! ## Reading answers -/

/-- What was read, or the fault of an unreadable body. -/
def ofReading {α : Type} : Reading α → Except (Fault τ) α
  | .ok a => .ok a
  | .error (.undecodable why) => .error (.undecodable why none)
  | .error (.anomaly why) => .error (.anomaly why)

/-- An answer that nothing has changed ends the fetch, if that was asked for. -/
def refuseUnchanged (conditional : Bool) (response : Response) : Except (Fault τ) Unit :=
  if response.status = 304 then
    if conditional then .error .unchanged
    else .error (.permanent "Unexpected 304 Not Modified for an unconditional request" (some 304))
  else .ok ()

/-- The first request for a category. It asks for an answer only if something has changed since an
earlier finding. -/
def firstRequest (f : Fetcher τ) (r : Repository) (category : Category)
    (previous : Option (Finding τ)) : Request where
  url := category.endpoint.url (dropTrailing '/' f.baseUrl) r
  params := Entries.putAll
    (if category.endpoint.isPaged then [(f.conventions.perPageParam, f.options.perPage.text)]
      else [])
    (category.endpoint.params r)
  headers := ((previous.bind Finding.freshness).map Freshness.conditionalHeaders).getD []

def freshnessOf (f : Fetcher τ) (response : Response) : Option Freshness :=
  Freshness.ofHeaders? f.conventions response.headers

def fetchCount (f : Fetcher τ) (r : Repository) (category : Category)
    (previous : Option (Finding τ)) (read : List UInt8 → Reading Tally) :
    Fetch τ (Finding τ) := do
  let response ← f.send (f.bucket category) (f.firstRequest r category previous)
  ofExcept (refuseUnchanged previous.isSome response)
  let n ← ofExcept (ofReading (read response.body))
  return ⟨category, .count n, f.freshnessOf response, ← clock, 1, false⟩

/-- Fetches one page: the first one when there is no cursor. -/
def fetchPage (f : Fetcher τ) (r : Repository) (category : Category)
    (previous : Option (Finding τ)) (read : List UInt8 → Reading (List Record))
    (cursor : Option String) : Fetch τ (Page Record) := do
  let request := match cursor with
    | none => f.firstRequest r category previous
    | some url => { url := url }
  let response ← f.send (f.bucket category) request
  ofExcept (refuseUnchanged (cursor.isNone && previous.isSome) response)
  let items ← ofExcept (ofReading (read response.body))
  return {
    items := items
    next := Link.next? (response.header? f.conventions.linkHeader)
    freshness := if cursor.isNone then f.freshnessOf response else none }

def limits (f : Fetcher τ) : WalkLimits :=
  ⟨f.options.maxPages.map Amount.ceiling, f.options.pageCeiling.ceiling⟩

def fetchCollection (f : Fetcher τ) (r : Repository) (category : Category)
    (previous : Option (Finding τ)) (read : List UInt8 → Reading (List Record)) :
    Fetch τ (Finding τ) := do
  let (items, walk) ← Walk.collect f.limits f.flag (f.fetchPage r category previous read)
    (Walk.start none)
  let items ← ofExcept items
  let pages := walk.pages
  if walk.truncated then
    log .warning (category.name ++ " for " ++ r.fullName ++ s!" truncated after {pages} pages")
  return {
    category := category
    value := .records items
    freshness := walk.firstPage.bind Page.freshness
    fetchedAt := ← clock
    pages := pages
    truncated := walk.truncated }

/-! ## One category -/

/-- An earlier finding that can be compared with: one of the same category, with a mark. -/
def comparable (category : Category) (previous : Option (Finding τ)) : Option (Finding τ) :=
  previous.filter fun p => p.category = category && p.isMarked

/-- The work of a fetch, before its outcome is settled. -/
def fetchRaw (f : Fetcher τ) (r : Repository) (category : Category)
    (previous : Option (Finding τ)) : Fetch τ (Finding τ) := do
  check f.flag
  match category.endpoint.reader with
  | .count read => f.fetchCount r category previous (read f.room)
  | .page read => f.fetchCollection r category previous (read f.room)

def fail (category : Category) (reason : Reason) (cause : Fault τ) : Fetch τ (Failure τ) := do
  let failure : Failure τ := ⟨category, reason, some cause, (← attemptCount : Nat)⟩
  updateTask fun t => t.fail failure
  log .error ("Failed to fetch " ++ category.name ++ ": " ++ cause.message)
  return failure

def succeed (r : Repository) (finding : Finding τ) (category : Category) :
    Fetch τ (Finding τ) := do
  setStage .succeeded
  log .info ("Fetched " ++ category.name ++ " for " ++ r.fullName ++ ": " ++
    grouped finding.count.toInt)
  return finding

def unchangedText (r : Repository) (category : Category) : String :=
  category.name ++ " for " ++ r.fullName ++ " unchanged since last fetch"

/-- Fetches a category. A fault that is to be expected becomes a failure; any other one ends the
work. When nothing has changed the earlier finding is handed back; should the service itself say so of its
own accord, there may be none to hand back. -/
def fetch (f : Fetcher τ) (r : Repository) (category : Category)
    (earlier : Option (Finding τ)) : Fetch τ (Except (Failure τ) (Finding τ)) := do
  openBucket (f.bucket category)
  let previous := comparable category earlier
  setStage .inProgress
  log .info ("Fetching " ++ category.name ++ " for " ++ r.fullName)
  match ← result (f.fetchRaw r category previous) with
  | .ok finding => return .ok (← succeed r finding category)
  | .error fault =>
    match fault, previous with
    | .unchanged, some finding =>
      log .info (unchangedText r category)
      return .ok (← succeed r finding category)
    | .unchanged, none =>
      log .info (unchangedText r category)
      setStage .succeeded
      throw (.anomaly .noParts)
    | _, _ =>
      match Failure.reasonOf? fault with
      | some reason => return .error (← fail category reason fault)
      | none => throw fault

end Fetcher

end RepoCensus
