import RepoCensus.Json.Basic
import RepoCensus.Snapshot.Basic

/-!
# Snapshots as documents
-/

namespace RepoCensus

open RepoCensus.Calendar

def Json.ofText (s : Option String) : Json := (s.map Json.str).getD .null

/-- The parts of a finding in a document. Marks are told only if there are some. -/
def Finding.toJson {τ : Type} (f : Finding τ) : Json :=
  let records := match f.value with
    | .count _ => []
    | .records rs => [("records", Json.arr (rs.map Record.toJson))]
  let marks := match f.freshness.filter Freshness.isMarked with
    | some m => [("etag", Json.ofText m.etag), ("last_modified", Json.ofText m.lastModified)]
    | none => []
  .obj ([("count", f.count.toJson), ("pages", .int f.pages), ("truncated", .bool f.truncated)] ++
    records ++ marks)

namespace Failure

variable {τ : Type} [Seconds τ]

/-- The parts of a failure of something called `name` in a document. -/
def document (name : String) (reason : Reason) (cause : Option (Fault τ)) (attempts : Int) : Json :=
  .obj [("category", .str name), ("reason", .str reason.name),
    ("message", Json.ofText (cause.map Fault.message)), ("attempts", .int attempts)]

def toJson (f : Failure τ) : Json := document f.category.name f.reason f.cause f.attempts

end Failure

namespace Snapshot

variable {τ : Type} [Seconds τ]

def status (s : Snapshot τ) : String := if s.isComplete then "complete" else "partial_failure"

/-- The results in a document, in the order of their names. -/
def resultFields (s : Snapshot τ) : List (String × Json) :=
  Category.alphabetical.filterMap fun c => (s.results c).map fun f => (c.name, f.toJson)

/-- The failures in a document, in the order of their names. -/
def failureFields (s : Snapshot τ) : List (String × Json) :=
  Category.alphabetical.filterMap fun c => (s.failures c).map fun f => (c.name, f.toJson)

/-- A snapshot as a document. The time it was taken must be one that the calendar knows. -/
def toJson (s : Snapshot τ) : Except Anomaly Json := do
  let fetchedAt ← Moment.ofTime s.fetchedAt
  return .obj [
    ("repository", .str s.repository.fullName),
    ("status", .str s.status),
    ("fetched_at", .str fetchedAt.text),
    ("results", .obj s.resultFields),
    ("failures", .obj s.failureFields)]

end Snapshot

end RepoCensus
