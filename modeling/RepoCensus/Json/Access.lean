import RepoCensus.Json.Basic
import RepoCensus.Numeral.Double

/-!
# Looking into values

The parts of a value that is expected to have some; what is missing is null, and what is of another kind
is none.
-/

namespace RepoCensus.Json

open RepoCensus.Numeral

def part (v : Json) (name : String) : Json := (v.get? name).getD .null

def hasPart (v : Json) (name : String) : Bool := (v.get? name).isSome

def text? : Json → Option String
  | .str s => some s
  | _ => none

/-- A value that is a whole number; a double loses its decimals. -/
def whole? : Json → Option Int
  | .int n => some n
  | .bool b => some (if b then 1 else 0)
  | .float x => (Double.value x).truncate?
  | _ => none

/-- A value that is a number, as a double; a whole number that is too large counts as infinite. -/
def double? : Json → Option Float
  | .bool b => some (if b then 1 else 0)
  | .int n => some ((Double.ofInt? n).getD (if n < 0 then -1.0 / 0.0 else 1.0 / 0.0))
  | .float x => some x
  | _ => none

def items : Json → List Json
  | .arr items => items
  | _ => []

def fields : Json → List (String × Json)
  | .obj fields => fields
  | _ => []

def textFields (v : Json) : List (String × String) :=
  v.fields.map fun f => (f.1, (text? f.2).getD "")

def textAt? (v : Json) (name : String) : Option String := (v.part name).text?

def textAt (v : Json) (name other : String) : String := (v.textAt? name).getD other

def wholeAt? (v : Json) (name : String) : Option Int := (v.part name).whole?

def wholeAt (v : Json) (name : String) (other : Int) : Int := (v.wholeAt? name).getD other

def doubleAt? (v : Json) (name : String) : Option Float := (v.part name).double?

def doubleAt (v : Json) (name : String) (other : Float) : Float := (v.doubleAt? name).getD other

/-- The truth value in a field, or another one where there is none. -/
def flagAt (v : Json) (name : String) (other : Bool) : Bool :=
  match v.part name with
  | .null => other
  | flag => flag.isSomething

def itemsAt (v : Json) (name : String) : List Json := (v.part name).items

def fieldsAt (v : Json) (name : String) : List (String × Json) := (v.part name).fields

end RepoCensus.Json
