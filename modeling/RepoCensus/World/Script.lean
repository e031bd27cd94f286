import RepoCensus.Client.Exchange
import RepoCensus.Fault.Described
import RepoCensus.Json.Reader

/-!
# Scripts of rehearsals

A script tells the time at the start, the numbers for random parts, when the flag is raised, and the
answers of the service by the keys of the requests.
-/

namespace RepoCensus.Script

open RepoCensus.Calendar

/-! ## Answers -/

def hexBytes : List Char → List UInt8
  | a :: b :: rest =>
    UInt8.ofNat (16 * (Json.hexValue? a).getD 0 + (Json.hexValue? b).getD 0) :: hexBytes rest
  | _ => []

/-- The body of an answer: a text, or bytes as hexadecimal digits. -/
def bodyOf (v : Json) : List UInt8 :=
  match v.textAt? "body_hex" with
  | some digits => hexBytes digits.toList
  | none => (v.textAt "body" "").toUTF8.toList

def replyOf (v : Json) : Reply :=
  ⟨v.wholeAt "status" 200, (v.part "headers").textFields, bodyOf v⟩

/-! ## Scripts -/

variable {R : Type}

/-- A prepared answer: a fault to raise, or an answer. -/
def cueOf (answer : Json → R) (v : Json) : Cue Float R where
  answer := match v.part "raise" with
    | .null => .ok (answer v)
    | fault => .error (.described fault)
  elapsed := v.doubleAt "elapsed" 0
  cancels := v.flagAt "cancel" false

def cuesOf (answer : Json → R) : Json → List (Cue Float R)
  | .arr items => items.map (cueOf answer)
  | .null => []
  | v => [cueOf answer v]

/-- The answers of the service by the keys of the requests. -/
def routesOf (v : Json) : List (String × List (Cue Float Reply)) :=
  (v.fieldsAt "routes").map fun r => (r.1, cuesOf replyOf r.2)

/-- The rehearsal that follows a script, with prepared answers. -/
def rehearsalOf (v : Json) (cues : List (String × List (Cue Float R))) : Rehearsal Float R :=
  let jitters := match v.part "rng" with
    | .arr items => items.map fun u => u.double?.getD 0
    | _ => [0.5]
  { now := v.doubleAt "now" 1700000000
    jitters := jitters
    coming := jitters
    sleepScale := v.doubleAt "sleep_scale" 1
    cancelled := false
    cancelAtSleep := (v.wholeAt? "cancel_at_sleep").map Int.toNat
    cancelAtRequest := (v.wholeAt? "cancel_at_request").map Int.toNat
    sleeps := 0
    requests := 0
    cues := cues }

/-- How many arrays and objects inside of each other there is room for. -/
def mostRoom : Nat := 960

/-- The key of a request: its address, and what it searches for. -/
def requestKey (r : Request) : String :=
  match Entries.get? "q" r.params with
  | some q => r.url ++ "?q=" ++ q
  | none => r.url

/-- The reply to a request for which none is prepared. -/
def notFound : Reply := ⟨404, [], "\x7b\"message\": \"Not Found\"\x7d".toUTF8.toList⟩

/-- The service, to which requests are handed over or a client makes them. -/
def service : Surroundings (Rehearsal Float Reply) Float Request Reply :=
  let network : Client.Network Float := Rehearsal.serve requestKey fun _ _ => .ok notFound
  { Rehearsal.surroundings requestKey fun _ _ => .ok notFound with
    serve := fun q r =>
      match q.client with
      | none => network q r
      | some client => (Client.make network client q).run r
    connect := Client.connect }

end RepoCensus.Script
