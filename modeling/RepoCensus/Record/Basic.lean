import RepoCensus.Calendar.Moment
import RepoCensus.Json.Basic

/-!
# Records

The records that collections are made of. What is not looked at while reading keeps the value that the
service gave it.
-/

namespace RepoCensus

open RepoCensus.Calendar

/-- A count as the service gave it: a number, or a truth value standing for one. -/
inductive Tally where
  | number (n : Int)
  | flag (b : Bool)
deriving Repr, DecidableEq

namespace Tally

def toInt : Tally → Int
  | number n => n
  | flag b => if b then 1 else 0

def toJson : Tally → Json
  | number n => .int n
  | flag b => .bool b

def ofJson? : Json → Option Tally
  | .int n => some (number n)
  | .bool b => some (flag b)
  | _ => none

@[simp] theorem ofJson?_toJson (t : Tally) : ofJson? t.toJson = some t := by cases t <;> rfl

end Tally

inductive Record where
  | contributor (login : Json) (contributions : Int) (kind : Json)
  | commit (sha author : Json) (authoredAt : Option Moment) (message : String)
  | week (start : Moment) (total : Int) (days : List Int)
  | language (name : String) (bytes : Tally)

def Record.toJson : Record → Json
  | contributor login contributions kind =>
    .obj [("login", login), ("contributions", .int contributions), ("kind", kind)]
  | commit sha author authoredAt message =>
    .obj [("sha", sha), ("author", author),
      ("authored_at", (authoredAt.map fun m => Json.str m.text).getD .null),
      ("message", .str message)]
  | week start total days =>
    .obj [("week_start", .str start.text), ("total", .int total),
      ("days", .arr (days.map Json.int))]
  | language name bytes => .obj [("language", .str name), ("bytes", bytes.toJson)]

end RepoCensus
