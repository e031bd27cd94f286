import RepoCensus.Text.Entries
import RepoCensus.Text.Lower

/-!
# Requests and answers

A request, the reply of the service to it, and the answer that is made of the reply. A request is handed over
as it is, or a client makes it; then the reply is what the client hands back.
-/

namespace RepoCensus

open RepoCensus.Text

/-- What a client is made with: the headers that go along with all of its requests, and whether a request goes on
to where its answer sends it. -/
structure Client where
  headers : List (String × String)
  follows : Bool
deriving Repr, DecidableEq

structure Request where
  url : String
  params : List (String × String) := []
  headers : List (String × String) := []
  method : String := "GET"
  /-- The client that makes the request, if it is not handed over as it is. -/
  client : Option Client := none
deriving Repr, DecidableEq

/-- What the service replies. The names of its headers are spelled in any way, and some may come
several times. -/
structure Reply where
  status : Int
  headers : List (String × String)
  body : List UInt8
deriving Repr, DecidableEq

/-- An answer of the service. The names of its headers are in lower case, and no two are the same. -/
structure Response where
  status : Int
  headers : List (String × String)
  body : List UInt8
deriving Repr, DecidableEq

namespace Response

def make (status : Int) (headers : List (String × String)) (body : List UInt8) : Response :=
  ⟨status, Entries.settle (headers.map fun h => (lower h.1, h.2)), body⟩

/-- The value of a header, whatever the spelling of its name. -/
def header? (r : Response) (name : String) : Option String := Entries.get? (lower name) r.headers

end Response

/-- A reply that is handed over as it is; of several headers of one name the last one counts. -/
def Reply.response (r : Reply) : Response := .make r.status r.headers r.body

end RepoCensus
