import RepoCensus.Client.Arrival
import RepoCensus.Client.Cookie
import RepoCensus.Client.Redirect
import RepoCensus.World.Rehearsal

/-!
# The client of rehearsals

How requests are made in a rehearsal: with the headers of the client, with the parameters written into the address,
and on to where an answer sends them. Cookies are kept; they do not show in requests, but once there are any, a request
must tell where they would go. No result is about this client, which only plays the part of whatever client there is.
-/

namespace RepoCensus.Client

open RepoCensus.Calendar

/-- The ways of a network: how a request that comes to it is served. -/
abbrev Network (τ : Type) := Request → Rehearsal τ Reply → Except (Fault τ) Reply × Rehearsal τ Reply

abbrev Exchange (τ : Type) := ExceptT (Fault τ) (StateM (Rehearsal τ Reply))

variable {τ : Type}

/-- Puts a request on the network. -/
def put (network : Network τ) (q : Request) : Exchange τ Reply := do
  modify fun r => { r with sent := q :: r.sent }
  let (answer, r) := network q (← get)
  set r
  ofExcept answer

/-- Looks at the site of a request, by which the cookies that go along would be chosen, if there are
cookies at all. -/
def checkSite (e : Errand) : Exchange τ Unit := do
  if !(← get).cookies.isEmpty then
    let _ ← ofExcept e.site

/-- Makes a request, with what it does to the cookies. -/
def arrival (network : Network τ) (e : Errand) : Exchange τ Reply := do
  let offered ← put network e.request
  let reply ← ofExcept offered.arrive
  let changes := Cookie.changes (← ofExcept e.site) offered.offeredCookies
  modify fun r => { r with cookies := r.cookies.changeAll changes }
  return reply

/-- Makes a request, going on to where it leads at most `left` times if it may go on. Where an answer
sends it is looked at in any case. -/
def exchange (network : Network τ) (follows : Bool) (left : Nat) (e : Errand) : Exchange τ Reply := do
  let reply ← arrival network e
  match ← ofExcept (e.next reply.response) with
  | none => return reply
  | some next =>
    checkSite next
    match follows, left with
    | false, _ => return reply
    | true, 0 => throw (.connection false Errand.endlessText)
    | true, left + 1 => exchange network follows left next

def make (network : Network τ) (client : Client) (q : Request) : Exchange τ Reply := do
  let headers ← ofExcept (Fault.lift (Headers.encode client.headers))
  let errand ← ofExcept (Errand.start headers q)
  checkSite errand
  ofExcept errand.checkHost
  exchange network client.follows Errand.mostRedirects errand

/-- A client that has headers of its own, which those of every request replace. -/
def withOwn (own : List (String × String)) (client : Client) : Except Anomaly Client := do
  let own ← Headers.encode own
  return { client with headers := own.replace (← Headers.encode client.headers) }

/-- The rehearsal with a new client, which keeps no cookies yet. -/
def connect (client : Client) (r : Rehearsal τ Reply) : Except Anomaly (Rehearsal τ Reply) := do
  let _ ← Headers.encode client.headers
  return { r with cookies := .empty }

end RepoCensus.Client
