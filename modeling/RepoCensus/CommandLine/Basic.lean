import RepoCensus.Census.Order
import RepoCensus.Display.Basic
import RepoCensus.Display.Loggers
import RepoCensus.Json.Writer
import RepoCensus.Snapshot.Document

/-!
# The command

What a command shows, what it puts out and with which code it ends, given the service. A command begins where its
options have been read. Whoever runs it may interrupt it, while the workers are at work or at another time.
-/

namespace RepoCensus.CommandLine

open RepoCensus.Calendar

inductive Output where
  | rich
  | json
deriving Repr, DecidableEq

structure Command where
  repo : String
  /-- Names of categories, whatever their case. -/
  categories : List String
  concurrency : Int
  maxRetries : Int
  pageCeiling : Int
  maxPages : Option Int
  limit : Int
  output : Output
  token : Option String
  verbose : Bool
deriving Repr, DecidableEq

/-- When a command is interrupted, if it is not while the workers are at work. -/
inductive Halt where
  /-- Before anything is asked for. -/
  | atStart
  /-- When the snapshot is taken and nothing of it has been put out. -/
  | beforeOutput
  /-- When all has been put out. -/
  | afterOutput
deriving Repr, DecidableEq

structure Result (τ : Type) where
  shown : List Shown
  /-- The document that was put out, if the command got to run. It stands in the same place as what is shown and not
  an error, and as the entries of the log, which have no part in the document. -/
  document : Option String
  exitCode : Nat
  connection : Option (Connection τ)

/-! ## Codes and lines -/

def interruptedCode : Nat := 130

def infoLine (text : String) : Shown := .line ("[cyan]ℹ[/cyan] " ++ text)

def successLine (text : String) : Shown := .line ("[green]✓[/green] " ++ text)

def warningLine (text : String) : Shown := .line ("[yellow]⚠[/yellow] " ++ text)

def errorLine (text : String) : Shown := .errorLine ("[red]✗[/red] " ++ text)

variable {σ τ : Type} [Seconds τ]

def faultLine (fault : Fault τ) : Shown × Nat :=
  if fault.isOrdinary then (errorLine (fault.label ++ ": " ++ fault.message), 1)
  else (errorLine "Interrupted", interruptedCode)

/-- The level from which on a command shows the entries of the log. -/
def logLevel (c : Command) : Level := if c.verbose then .debug else .warning

/-! ## Running a command -/

/-- The categories of a command: all of them when none is named. -/
def requested (c : Command) : Except Invalid (List Category) :=
  if c.categories.isEmpty then .ok Category.all else Category.parseAll c.categories

/-- The repository and the categories of a command. -/
def target (c : Command) : Except Invalid (Repository × List Category) := do
  return (← Repository.parse c.repo, ← requested c)

def orderOf (env : Environment) (patience room : Nat) (c : Command) (r : Repository) (categories : List Category) :
    Order τ where
  owner := r.owner
  name := r.name
  categories := categories.map Category.name
  changes := {
    concurrency := some (.ok (.number c.concurrency))
    maxRetries := some (.ok (.number c.maxRetries))
    pageCeiling := some (.ok (.number c.pageCeiling))
    maxPages := c.maxPages.map fun n => .ok (.number n) }
  previous := none
  token := c.token
  direct := false
  flag := .own
  config := Config.ofEnvironment env c.token Options.usual
  patience := patience
  room := room

def fetchingLine (r : Repository) (categories : List Category) : Shown :=
  let count := categories.length
  infoLine (s!"Fetching {count} categories for " ++ r.fullName)

/-- The document of a snapshot, with room for so many values inside of each other. -/
def documentText (room : Nat) (s : Snapshot τ) : Except (Fault τ) String := do
  let v ← Fault.lift s.toJson
  if room < v.depth then throw (.anomaly (.tooDeep .written))
  return v.pretty ++ "\n"

def closingLine (count : Nat) (s : Snapshot τ) : Shown :=
  if s.isComplete then successLine "Fetch completed!"
  else
    let failed := s.failedCategories.length
    warningLine s!"{failed} of {count} categories failed"

/-- The lines about a snapshot of which nothing could be fetched. -/
def nothingFetched (count : Nat) (s : Snapshot τ) : List Shown :=
  if !s.isComplete && s.failedCategories.length = count then [errorLine "No category could be fetched"]
  else []

def snapshotCode (s : Snapshot τ) : Nat := if s.isComplete then 0 else 1

/-- Shows a snapshot of so many categories, and tells the document that is put out, or the fault that kept the rest
from being shown. -/
def present (room : Nat) (c : Command) (count : Nat) (s : Snapshot τ) : List Shown × Except (Fault τ) String :=
  match c.output with
  | .json =>
    match documentText room s with
    | .error fault => ([], .error fault)
    | .ok text => (nothingFetched count s, .ok text)
  | .rich =>
    let showing := Display.snapshot s c.limit
    match showing.fault with
    | some fault => (showing.shown, .error fault)
    | none => (showing.shown ++ [closingLine count s] ++ nothingFetched count s, .ok "")

def progress (c : Command) (r : Repository) (categories : List Category) : List Shown :=
  match c.output with
  | .rich => [fetchingLine r categories, .line ""]
  | .json => []

/-- What a command leaves behind that ends with a fault. -/
def Result.failed (shown : List Shown) (document : String) (fault : Fault τ) (connection : Option (Connection τ)) :
    Result τ :=
  let (line, code) := faultLine fault
  ⟨shown ++ [line], some document, code, connection⟩

/-- What a command leaves behind when a snapshot has been taken. -/
def conclude (halt : Option Halt) (room : Nat) (c : Command) (count : Nat) (shown : List Shown)
    (connection : Option (Connection τ)) (s : Snapshot τ) : Result τ :=
  if halt = some .beforeOutput then .failed shown "" (.interrupt "") connection
  else
    match present room c count s with
    | (more, .error fault) => .failed (shown ++ more) "" fault connection
    | (more, .ok document) =>
      if halt = some .afterOutput then .failed (shown ++ more) document (.interrupt "") connection
      else ⟨shown ++ more, some document, snapshotCode s, connection⟩

def run (sur : Service σ τ) (moves : List Move) (halt : Option Halt) (env : Environment) (patience room : Nat)
    (c : Command) (w : ServiceWorld σ τ) : Result τ × ServiceWorld σ τ :=
  if halt = some .atStart then (.failed [] "" (.interrupt "") none, w)
  else
    match target c with
    | .error why => (.failed [] "" (.invalid why) none, w)
    | .ok (r, categories) =>
      let (answer, w) := Census.fetchSnapshot sur moves (orderOf env patience room c r categories) w
      let shown := progress c r categories
      let result := match answer.report.outcome with
        | .error fault => .failed shown "" fault answer.connection
        | .ok s => conclude halt room c categories.length shown answer.connection s
      (result, w)

end RepoCensus.CommandLine
