import RepoCensus.Numeral.Double
import RepoCensus.Numeral.Grouped
import RepoCensus.Snapshot.Basic

/-!
# Showing a snapshot

A snapshot as headings, tables and lines with markup for a terminal.
-/

namespace RepoCensus

open RepoCensus.Calendar RepoCensus.Numeral

/-- Something that is shown to the user. -/
inductive Shown where
  | line (markup : String)
  | panel (markup title : String)
  | table (columns : List String) (rows : List (List String))
  | errorLine (markup : String)
deriving Repr, DecidableEq

/-- What is shown, and the fault that kept the rest from being shown. -/
structure Showing (τ : Type) where
  shown : List Shown
  fault : Option (Fault τ)

namespace Showing

variable {τ : Type}

def all (shown : List Shown) : Showing τ := ⟨shown, none⟩

/-- Shows one thing after another, up to the first fault. -/
def andThen (s : Showing τ) (t : Showing τ) : Showing τ :=
  match s.fault with
  | some _ => s
  | none => ⟨s.shown ++ t.shown, t.fault⟩

/-- Shows some things and then what could be worked out. -/
def after (shown : List Shown) : Except (Fault τ) (List Shown) → Showing τ
  | .ok more => ⟨shown ++ more, none⟩
  | .error fault => ⟨shown, some fault⟩

end Showing

namespace Display

variable {τ : Type} [Seconds τ]

/-! ## Shares -/

def barWidth : Nat := 25

/-- The number of whole numbers that count places in a text, on either side of zero. -/
def indexReach : Int := 0x8000000000000000

/-- The most copies of a text that the memory holds. -/
def mostCopies : Int := 0x40000000

/-- Copies of a text, none for a negative number of them. -/
def copies (n : Int) (s : String) : Except (Fault τ) String :=
  if n < -indexReach ∨ indexReach ≤ n then .error (.anomaly (.tooLarge .index))
  else if mostCopies < n then .error (.anomaly .noMemory)
  else .ok (String.join (List.replicate n.toNat s))

def sum (ns : List Int) : Int := ns.foldl (· + ·) 0

def share (part total : Int) : Except (Fault τ) Float :=
  match Double.quotient? part total with
  | some x => .ok x
  | none => .error (.anomaly (.tooLarge .quotient))

/-- A part of a whole in hundredths; nothing when there is no whole. -/
def percentage (part total : Int) : Except (Fault τ) Float := do
  if 0 < total then return (← share part total) * 100 else return 0

def percentText (x : Float) : String := fixed 1 (Double.value x) ++ "%"

def barLength (x : Float) : Except (Fault τ) Int :=
  match (Double.value x).truncate? with
  | some n => .ok n
  | none =>
    .error (.anomaly (if Double.value x = .undefined then .undefined else .tooLarge .whole))

/-! ## Counts -/

def countLabel? : Category → Option String
  | .stars => some "⭐ Stars"
  | .forks => some "🍴 Forks"
  | .watchers => some "👀 Watchers"
  | .openIssues => some "🐛 Open Issues"
  | .closedIssues => some "✅ Closed Issues"
  | .openPulls => some "🔀 Open PRs"
  | .mergedPulls => some "🔀 Merged PRs"
  | .contributors => some "👥 Contributors"
  | .commits => some "📝 Commits"
  | .commitActivity => none
  | .languages => none

def countRow? (s : Snapshot τ) (c : Category) : Option (List String) := do
  let finding ← s.results c
  let label ← countLabel? c
  return [label, grouped finding.count.toInt ++ (if finding.truncated then "+" else ""),
    toString finding.pages]

def metrics (s : Snapshot τ) : Showing τ :=
  let rows := Category.all.filterMap (countRow? s)
  if rows.isEmpty then .all []
  else .all [.line "\n[bold yellow]📊 Metrics:[/bold yellow]",
    .table ["Metric", "Value", "Pages"] rows]

def recordsOf? (s : Snapshot τ) (c : Category) : Option (List Record) :=
  (s.results c).bind fun f => if f.records.isEmpty then none else some f.records

/-! ## Contributors -/

/-- The first records of a list; a negative number leaves out so many at the end. -/
def firstRows {α : Type} (limit : Int) (rs : List α) : List α :=
  if 0 ≤ limit then rs.take limit.toNat else rs.take (rs.length - limit.natAbs)

/-- The text of a login; what is no text cannot be shown. -/
def loginText : Json → Except (Fault τ) String
  | .str s => .ok s
  | .null => .ok ""
  | v => .error (.unshowable v.kind)

def contributionsOf : Record → Int
  | .contributor _ n _ => n
  | _ => 0

def contributorRow (total : Int) (place : Nat) (login : Json) (n : Int) :
    Except (Fault τ) (List String) := do
  let share ← percentage n total
  return [toString place, ← loginText login, grouped n, percentText share]

/-- The rows of contributors, counted from `place` on. -/
def contributorRows (total : Int) : Nat → List Record → Except (Fault τ) (List (List String))
  | _, [] => .ok []
  | place, .contributor login n _ :: rest => do
    let row ← contributorRow total place login n
    return row :: (← contributorRows total (place + 1) rest)
  | place, _ :: rest => contributorRows total place rest

def contributors (s : Snapshot τ) (limit : Int) : Showing τ :=
  match recordsOf? s .contributors with
  | none => .all []
  | some rs =>
    let total := sum (rs.map contributionsOf)
    .after [.line ("\n[bold yellow]👥 Top Contributors for " ++ s.repository.fullName ++
        ":[/bold yellow]")] do
      let rows ← contributorRows total 1 (firstRows limit rs)
      return [.table ["#", "Username", "Contributions", "% of total"] rows]

/-! ## Languages -/

def bytesOf : Record → Int
  | .language _ bytes => bytes.toInt
  | _ => 0

def languageRow (total : Int) : Record → Except (Fault τ) (List String)
  | .language name bytes => do
    let share ← percentage bytes.toInt total
    let n ← barLength (share / 100 * 25)
    let done ← copies n "█"
    let left ← copies (barWidth - n) "░"
    return [name, grouped bytes.toInt, percentText share, done ++ left]
  | _ => .ok []

def languages (s : Snapshot τ) : Showing τ :=
  match recordsOf? s .languages with
  | none => .all []
  | some rs =>
    let total := sum (rs.map bytesOf)
    .after [.line ("\n[bold yellow]💻 Languages in " ++ s.repository.fullName ++
        ":[/bold yellow]")] do
      let rows ← rs.mapM (languageRow total)
      return [.table ["Language", "Bytes", "Percentage", "Visual"] rows]

/-! ## Activity -/

def shownWeeks : Nat := 12

def totalOf : Record → Int
  | .week _ total _ => total
  | _ => 0

/-- The day on which a week starts; its year has as many digits as it needs. -/
def dayText (m : Moment) : String :=
  toString m.date.year ++ "-" ++ padded 2 m.date.month ++ "-" ++ padded 2 m.date.day

def weekRow (peak : Int) : Record → Except (Fault τ) (List String)
  | .week start total _ => do
    let n ← if peak = 0 then pure 0 else barLength ((← share total peak) * 25)
    return [dayText start, toString total, ← copies n "█"]
  | _ => .ok []

/-- The most digits that a number may have to be written. -/
def mostDigits : Nat := 4300

def totalText (n : Int) : Except (Fault τ) String :=
  if n.natAbs < Nat.pow 10 mostDigits then .ok (grouped n)
  else .error (.anomaly (.tooManyDigits mostDigits))

def activity (s : Snapshot τ) : Showing τ :=
  match recordsOf? s .commitActivity with
  | none => .all []
  | some rs =>
    let recent := rs.drop (rs.length - shownWeeks)
    let peak := ((recent.map totalOf).max?).getD 0
    let count := recent.length
    let weeks := rs.length
    let table : Showing τ :=
      .after [.line s!"\n[bold yellow]📈 Commit activity (last {count} weeks):[/bold yellow]"] do
        return [.table ["Week", "Commits", "Visual"] (← recent.mapM (weekRow peak))]
    table.andThen (.after [] do
      let total ← totalText (sum (rs.map totalOf))
      return [.line (s!"  Total over {weeks} weeks: [bold]" ++ total ++ "[/bold]")])

/-! ## Failures -/

def failureRow (f : Failure τ) (c : Category) : List String :=
  [c.name, f.reason.name, toString f.attempts, (f.cause.map Fault.message).getD ""]

def failures (s : Snapshot τ) : Showing τ :=
  let rows := s.failedCategories.filterMap fun c => (s.failures c).map fun f => failureRow f c
  if rows.isEmpty then .all []
  else .all [.line "\n[bold red]❌ Failed categories:[/bold red]",
    .table ["Category", "Reason", "Attempts", "Details"] rows]

/-! ## All together -/

def heading (s : Snapshot τ) : Shown :=
  .panel ("[bold cyan]" ++ s.repository.fullName ++ "[/bold cyan]\nStatus: " ++
    (if s.isComplete then "[green]complete[/green]" else "[red]partial failure[/red]"))
    "Repository Stats"

/-- A snapshot as it is shown, with so many contributors. -/
def snapshot (s : Snapshot τ) (limit : Int) : Showing τ :=
  ((((((Showing.all [heading s]).andThen (metrics s)).andThen (contributors s limit)).andThen
    (languages s)).andThen (activity s)).andThen (failures s)).andThen (.all [.line ""])

end Display

/-! ## Plain text

What is shown, as lines for a terminal that knows no markup. The columns of a table are as wide as their widest cell.
-/

namespace Display

def filledUp (width : Nat) (cell : String) : String :=
  cell ++ String.ofList (List.replicate (width - cell.length) ' ')

def widths (rows : List (List String)) : List Nat :=
  rows.foldl (fun ws row =>
    (List.range (max ws.length row.length)).map fun n =>
      max (ws.getD n 0) ((row[n]?.map String.length).getD 0)) []

def rowText (ws : List Nat) (row : List String) : String :=
  "  ".intercalate (List.zipWith filledUp ws row)

def tableText (columns : List String) (rows : List (List String)) : String :=
  let all := columns :: rows
  "\n".intercalate (all.map (rowText (widths all)))

def plainText : Shown → String
  | .line markup => markup
  | .panel markup title => title ++ "\n" ++ markup
  | .table columns rows => tableText columns rows
  | .errorLine markup => markup

def isError : Shown → Bool
  | .errorLine _ => true
  | _ => false

end Display

end RepoCensus
