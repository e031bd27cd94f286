import RepoCensus.Client.Compression.Container
import RepoCensus.Client.Headers
import RepoCensus.Fault.Basic
import RepoCensus.Http.Message
import RepoCensus.Text.Blank
import RepoCensus.Text.Fields
import RepoCensus.Text.Lower

/-!
# Replies on the wire

What the client of a rehearsal hands back of a reply: its headers must be ASCII, it tells how long its
body is, and its body is put back into the form it had before it was coded.
-/

namespace RepoCensus

open RepoCensus.Text RepoCensus.Compression

/-! ## Content codings

A header may tell in which ways a body was coded, one after another. Ways that are not known are passed over.
-/

inductive Coding where
  | identity
  | gzip
  | deflate
deriving Repr, DecidableEq

namespace Coding

def named? : String → Option Coding
  | "identity" => some identity
  | "gzip" => some gzip
  | "deflate" => some deflate
  | _ => none

/-- The known codings that a header tells, in the order in which they were applied. -/
def told (header : String) : List Coding :=
  (fields ',' header.toList).filterMap fun name => named? (lower (strip (String.ofList name)))

def undo : Coding → List UInt8 → Except Damage (List UInt8)
  | identity, body => .ok body
  | gzip, body => unpack .file body
  | deflate, body =>
    match unpack .stream body with
    | .ok plain => .ok plain
    | .error _ => unpack .bare body

/-- A body before it was coded in several ways, the last of which is undone first. -/
def undoAll (codings : List Coding) (body : List UInt8) : Except Damage (List UInt8) :=
  codings.reverse.foldlM (fun body coding => coding.undo body) body

end Coding

/-! ## Arrival -/

namespace Reply

/-- The headers of a body: one that is not empty has its length told. -/
def measured (body : List UInt8) (headers : Headers) : Headers :=
  if body.isEmpty || Headers.has "content-length" headers then headers
  else headers ++ [("content-length", toString body.length)]

/-- The body as it was before it was coded in the ways that the headers tell. A damaged body counts as a
broken connection. -/
def plainBody {τ : Type} (headers : List (String × String)) (body : List UInt8) :
    Except (Fault τ) (List UInt8) :=
  let codings := Coding.told ((Entries.get? "content-encoding" headers).getD "")
  match Coding.undoAll codings body with
  | .ok plain => .ok plain
  | .error why => .error (.connection false why.message)

/-- The headers with the cookies that a reply offers. -/
def offeredCookies (r : Reply) : List String :=
  (r.headers.filter fun h => h.1.map Char.toLower = "set-cookie").map Prod.snd

def arrive {τ : Type} (r : Reply) : Except (Fault τ) Reply := do
  let headers ← Fault.lift (Headers.encode r.headers)
  let headers := Headers.joined (measured r.body headers)
  return ⟨r.status, headers, ← plainBody headers r.body⟩

end Reply

end RepoCensus
