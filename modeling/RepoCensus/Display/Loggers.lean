import RepoCensus.Anomaly
import RepoCensus.Json.Access
import RepoCensus.Text.Entries
import RepoCensus.Text.Upper
import RepoCensus.Work.Effect

/-!
# Loggers

Loggers have names with points in them. A logger without a level of its own has that of the logger above
it: the nearest of the loggers there are whose name its own name extends, or else the topmost logger.
-/

namespace RepoCensus

open RepoCensus.Text

/-- A logger below the topmost one. -/
structure Logger where
  /-- The level that was set for it, zero if none was. -/
  level : Nat
  above : String
deriving Repr, DecidableEq

/-- The loggers that were asked for. -/
structure Loggers where
  known : List (String × Logger)
  topLevel : Nat
  /-- Whether the terminal shows the entries of the library's loggers. -/
  shown : Bool
deriving Repr, DecidableEq

namespace Loggers

/-- The name that all of the library's loggers extend. -/
def rootName : String := "forgestats"

def topName : String := "root"

def start : Loggers := ⟨[], Level.number .warning, false⟩

def levelNames : List (String × Nat) :=
  [("CRITICAL", 50), ("FATAL", 50), ("ERROR", 40), ("WARN", 30), ("WARNING", 30), ("INFO", 20),
   ("DEBUG", 10), ("NOTSET", 0)]

/-- The number of a level, whatever the case of its name. -/
def levelNumber? (name : String) : Option Nat := Entries.get? (upper name) levelNames

/-! ## Names -/

/-- The names that a name extends, the longest first, for a name that is read backwards. The second of
two points that follow one another is passed over. -/
def extendedBy : List Char → List String
  | '.' :: c :: rest => String.ofList (c :: rest).reverse :: extendedBy rest
  | _ :: rest => extendedBy rest
  | [] => []

/-- The names that a name extends, the longest first. -/
def namesAbove (name : String) : List String := extendedBy name.toList.reverse

/-! ## Asking for a logger -/

def above (l : Loggers) (name : String) : String :=
  ((namesAbove name).find? fun n => (Entries.get? n l.known).isSome).getD topName

/-- A logger after one of the given name came up: it may be the nearest above it. -/
def reparented (name own : String) (l : Logger) : Logger :=
  if (namesAbove own).contains name && !name.toList.isPrefixOf l.above.toList then
    { l with above := name }
  else l

def ask (l : Loggers) (name : String) : Loggers :=
  if name = "" || name = topName || (Entries.get? name l.known).isSome then l
  else
    let known := l.known.map fun (own, logger) => (own, reparented name own logger)
    { l with known := known ++ [(name, ⟨0, l.above name⟩)] }

/-- The name of the logger that a name asks for; the empty name asks for the topmost one. -/
def named (name : String) : String := if name = "" then topName else name

/-- The level that was set for a logger, zero if none was. -/
def levelOf (l : Loggers) (name : String) : Nat :=
  if name = topName then l.topLevel else ((Entries.get? name l.known).map Logger.level).getD 0

def setLevel (l : Loggers) (name : String) (level : Nat) : Loggers :=
  if name = topName then { l with topLevel := level }
  else
    match Entries.get? name l.known with
    | some logger => { l with known := Entries.put name { logger with level := level } l.known }
    | none => l

/-- Sets up the library's loggers and one of them, the first one if none is named. -/
def setup (l : Loggers) (name level : Json) : Except Anomaly String × Loggers :=
  let l := l.ask rootName
  match level with
  | .str level =>
    match levelNumber? level with
    | none => (.error .badValue, l)
    | some n =>
      let l := { l.setLevel rootName n with shown := true }
      match name with
      | .str name =>
        let name := if name = "" then rootName else name
        (.ok name, (l.ask name).setLevel name n)
      | name => if name.isSomething then (.error .badType, l) else (.ok rootName, l)
  | _ => (.error .noParts, l)

/-! ## Levels -/

/-- The level from which on a logger shows entries; at most `steps` loggers above it are looked at. -/
def effectiveLevel (l : Loggers) : (steps : Nat) → (name : String) → Nat
  | 0, _ => l.topLevel
  | steps + 1, name =>
    match Entries.get? name l.known with
    | none => l.topLevel
    | some logger => if logger.level = 0 then l.effectiveLevel steps logger.above else logger.level

def enabled (l : Loggers) (name : String) : List Level :=
  Level.all.filter fun level => l.effectiveLevel l.known.length name ≤ level.number

end Loggers

end RepoCensus
