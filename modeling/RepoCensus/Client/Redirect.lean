import RepoCensus.Client.CookieSite
import RepoCensus.Client.Headers
import RepoCensus.Fault.Basic
import RepoCensus.Http.Message
import RepoCensus.Text.Base64
import RepoCensus.Text.Upper

/-!
# Redirects

An answer over the wire may send a request on to another address. The credential goes along only to
where the request was made, or to the same host over a safe connection.
-/

namespace RepoCensus

open RepoCensus.Text

structure Errand where
  address : Address
  method : String
  headers : Headers
deriving Repr, DecidableEq

/-- Where an answer sends a request on to, if it does. -/
def Response.location? (r : Response) : Option String :=
  if [301, 302, 303, 307, 308].contains r.status then r.header? "location" else none

namespace Address

variable {τ : Type}

/-! ## Flaws as faults -/

def lift {α : Type} : Except AddressFlaw α → Except (Fault τ) α
  | .ok a => .ok a
  | .error why => .error (.anomaly (.badAddress why))

/-- The host that is meant, or the anomaly of its flaw. -/
def meantHost (a : Address) : Except (Fault τ) (List Char) :=
  match a.plainHost with
  | .ok host => .ok host
  | .error why => .error (.anomaly (.badHost why))

/-! ## Origins -/

/-- The scheme, the host and the number of an address. -/
structure Origin where
  scheme : String
  host : List Char
  number : Option Int
deriving Repr, DecidableEq

def origin (a : Address) : Except (Fault τ) Origin := do
  return ⟨String.ofList a.scheme, ← a.meantHost, a.fullNumber⟩

/-- Whether an origin is the same host over a safe connection, at the usual numbers. -/
def Origin.isSafer (here there : Origin) : Bool :=
  here = ⟨"http", there.host, some 80⟩ && there = ⟨"https", there.host, some 443⟩

/-- Whether the credential for an origin may be told at another one. -/
def Origin.trusts (here there : Origin) : Bool := here = there || here.isSafer there

/-! ## Where a location leads -/

/-- A location that an answer tells. A flaw in it counts as a broken connection. -/
def ofLocation (location : String) : Except (Fault τ) Address :=
  match ofText location.toList with
  | .ok a => .ok a
  | .error why =>
    .error (.connection false ("Invalid URL in location header: " ++ why.message ++ "."))

/-- An address with a scheme but without a host has the host of another one. -/
def hosted (base a : Address) : Except (Fault τ) Address := do
  if a.scheme.isEmpty then return a
  if (← a.meantHost).isEmpty then lift (a.withHost (← base.meantHost)) else return a

def resolve (base a : Address) : Except (Fault τ) Address := do
  if a.isAbsolute then return a
  lift (ofText (← Fault.lift (Reference.resolve base.toText a.toText)))

/-- An address that tells no place inside it has the place that was asked for. -/
def placed (base a : Address) : Except (Fault τ) Address :=
  let asked := Percent.unescape (base.fragment.getD [])
  if !asked.isEmpty && (a.fragment.getD []).isEmpty then lift (a.withFragment asked) else .ok a

/-- Where a location that was told at an address leads. -/
def follow (base : Address) (location : String) : Except (Fault τ) Address := do
  let a ← ofLocation location
  placed base (← resolve base (← hosted base a))

/-- The host and the number behind it as a header tells them. -/
def checkPlace (a : Address) : Except Anomaly Unit := do
  let _ ← Headers.asciiText (String.ofList a.place)

end Address

namespace Errand

variable {τ : Type}

/-! ## The start -/

def credentialHeader : String := "authorization"

/-- The credential that is made of a name and a password. -/
def basic (name password : List Char) : String :=
  let bytes := (String.ofList (name ++ ':' :: password)).toUTF8.toList
  "Basic " ++ String.ofList (Base64.encode bytes)

/-- Headers with the credential of the user that an address tells, if it tells one. -/
def withUser (a : Address) (headers : Headers) : Headers :=
  let (name, password) := a.userAndPassword
  if name.isEmpty && password.isEmpty then headers
  else headers.set credentialHeader (basic name password)

/-- Looks at the host of a request, unless its headers tell one. -/
def checkHost (e : Errand) : Except (Fault τ) Unit := do
  if Headers.has "host" e.headers then return
  if !(← e.address.meantHost).isEmpty then Fault.lift e.address.checkPlace

/-- A request at the start of its way, with the headers of every request. Its own headers and parameters
replace those of the same names and those in its address. -/
def start (standing : Headers) (r : Request) : Except (Fault τ) Errand := do
  let address ← Address.lift (Address.ofText r.url.toList)
  let address ← Address.lift address.atRoot
  let headers := standing.replace (← Fault.lift (Headers.encode r.headers))
  let address ←
    if r.params.isEmpty then pure address
    else Address.lift (address.withQuery (Percent.form r.params))
  return ⟨address, upper r.method, withUser address headers⟩

/-! ## The way on -/

def mostRedirects : Nat := 20

/-- The text of the fault of a request that is sent on too often. -/
def endlessText : String := "Exceeded maximum allowed redirects."

def methodAfter (method : String) (status : Int) : String :=
  if (status = 303 || status = 302) && method ≠ "HEAD" then "GET"
  else if status = 301 && method = "POST" then "GET"
  else method

/-- The headers of a request that goes on to another address. -/
def headersAt (e : Errand) (address : Address) : Except (Fault τ) Headers := do
  let there ← address.origin
  let here ← e.address.origin
  if here = there then return e.headers
  Fault.lift address.checkPlace
  return if here.trusts there then e.headers else e.headers.without credentialHeader

def onward (e : Errand) (status : Int) (location : String) : Except (Fault τ) Errand := do
  let address ← e.address.follow location
  return ⟨address, methodAfter e.method status, ← e.headersAt address⟩

/-- The request that follows an answer, if there is one. -/
def next (e : Errand) (r : Response) : Except (Fault τ) (Option Errand) :=
  match r.location? with
  | none => .ok none
  | some location => (e.onward r.status location).map some

/-- The site of a request. An address that has none is a dead end. -/
def site (e : Errand) : Except (Fault τ) CookieSite := Fault.lift (CookieSite.ofAddress e.address)

def request (e : Errand) : Request where
  url := e.address.readable
  headers := e.headers.joined
  method := e.method

end Errand

end RepoCensus
