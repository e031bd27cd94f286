import RepoCensus.Text.Entries

/-!
# JSON values

The values of the data format, objects with their fields in order. Whole numbers have any size; all
other numbers are doubles.
-/

namespace RepoCensus

inductive Json where
  | null
  | bool (b : Bool)
  | int (n : Int)
  | float (x : Float)
  | str (s : String)
  | arr (items : List Json)
  | obj (fields : List (String × Json))

/-- What is inside of other values. -/
inductive Nest where
  | array
  | object
  /-- Any value of a document that is written. -/
  | written
deriving Repr, DecidableEq

instance : Inhabited Json := ⟨.null⟩

namespace Json

def get? (name : String) : Json → Option Json
  | .obj fields => Entries.get? name fields
  | _ => none

/-- Whether a value counts as something: not null, not false, not zero, not empty. -/
def isSomething : Json → Bool
  | .null => false
  | .bool b => b
  | .int n => n != 0
  | .float x => !(x == 0)
  | .str s => s != ""
  | .arr items => !items.isEmpty
  | .obj fields => !fields.isEmpty

mutual

/-- How deep a value is nested: a value without parts has one level. -/
def depth : Json → Nat
  | .arr items => depthOfItems items + 1
  | .obj fields => depthOfFields fields + 1
  | _ => 1

def depthOfItems : List Json → Nat
  | [] => 0
  | v :: rest => max v.depth (depthOfItems rest)

def depthOfFields : List (String × Json) → Nat
  | [] => 0
  | (_, v) :: rest => max v.depth (depthOfFields rest)

end

/-- The name of a value's kind as it stands in messages. -/
def kind : Json → String
  | .null => "NoneType"
  | .bool _ => "bool"
  | .int _ => "int"
  | .float _ => "float"
  | .str _ => "str"
  | .arr _ => "list"
  | .obj _ => "dict"

end Json

end RepoCensus
