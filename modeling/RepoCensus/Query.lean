import RepoCensus.Text.Quoted

/-!
# Search queries

A query is a list of terms: words and qualifiers such as `is:open`.
-/

namespace RepoCensus

open RepoCensus.Text

/-- A search query; its terms in order. -/
structure Query where
  terms : List String
deriving Repr, DecidableEq

namespace Query

def empty : Query := ⟨[]⟩

def keyword (q : Query) (word : String) : Query := ⟨q.terms ++ [word]⟩

def qualifier (q : Query) (key value : String) : Query := q.keyword (key ++ ":" ++ value)

def repo (q : Query) (owner name : String) : Query := q.qualifier "repo" (owner ++ "/" ++ name)

def is (q : Query) (value : String) : Query := q.qualifier "is" value

def ofType (q : Query) (value : String) : Query := q.qualifier "type" value

def state (q : Query) (value : String) : Query := q.qualifier "state" value

/-- Asks for a label, between quotation marks if there is a space in it. -/
def label (q : Query) (value : String) : Query :=
  q.qualifier "label" (if value.toList.contains ' ' then "\"" ++ value ++ "\"" else value)

/-- The text of a query: its terms with spaces between them. -/
def text (q : Query) : String := " ".intercalate q.terms

/-- A query as it is shown to a reader of programs. -/
def display (q : Query) : String := "Query(" ++ quoted q.text ++ ")"

end Query

end RepoCensus
