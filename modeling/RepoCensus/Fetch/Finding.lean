import RepoCensus.Calendar.Seconds
import RepoCensus.Category
import RepoCensus.Http.Freshness
import RepoCensus.Record.Basic

/-!
# Findings

What was found out about one category.
-/

namespace RepoCensus

/-- The value of a category: a count, or records in order. -/
inductive Value where
  | count (n : Tally)
  | records (rs : List Record)

namespace Value

def size : Value → Tally
  | count n => n
  | records rs => .number rs.length

/-- The records; a count has none. -/
def recordList : Value → List Record
  | count _ => []
  | records rs => rs

end Value

/-- What was found out about a category. -/
structure Finding (τ : Type) where
  category : Category
  value : Value
  /-- The marks by which a later fetch can ask whether anything has changed. -/
  freshness : Option Freshness
  fetchedAt : τ
  pages : Int
  truncated : Bool

namespace Finding

variable {τ : Type}

def count (f : Finding τ) : Tally := f.value.size

/-- The records; a count has none. -/
def records (f : Finding τ) : List Record := f.value.recordList

/-- Whether a later fetch can ask if anything has changed. -/
def isMarked (f : Finding τ) : Bool := f.freshness.any Freshness.isMarked

end Finding

end RepoCensus
