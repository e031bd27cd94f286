import RepoCensus.Settings.Conventions
import RepoCensus.Text.Entries

/-!
# Freshness

The marks by which a service tells whether something has changed.
-/

namespace RepoCensus

structure Freshness where
  etag : Option String
  lastModified : Option String
deriving Repr, DecidableEq

namespace Freshness

def isMark (s : Option String) : Bool := s.any (· ≠ "")

def isMarked (f : Freshness) : Bool := isMark f.etag || isMark f.lastModified

def conditional (name : String) (mark : Option String) : List (String × String) :=
  ((mark.filter (· ≠ "")).map fun m => (name, m)).toList

/-- The headers by which a request asks for an answer only if something has changed. -/
def conditionalHeaders (f : Freshness) : List (String × String) :=
  conditional "If-None-Match" f.etag ++ conditional "If-Modified-Since" f.lastModified

/-- The marks among headers, if there are some. The names are looked up as the conventions spell
them. -/
def ofHeaders? (conventions : Conventions) (headers : List (String × String)) : Option Freshness :=
  let f : Freshness :=
    ⟨Entries.get? conventions.etagHeader headers, Entries.get? conventions.lastModifiedHeader headers⟩
  if f.isMarked then some f else none

end Freshness

end RepoCensus
