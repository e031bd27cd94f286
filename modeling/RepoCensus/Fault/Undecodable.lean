/-!
# Unreadable bodies

Why the body of an answer does not tell what was asked for.
-/

namespace RepoCensus

inductive Flaw where
  /-- A field that every such record has is missing. -/
  | missingField
  | wrongKind
  | badValue
  /-- A value that has no parts where parts are looked for. -/
  | noParts
deriving Repr, DecidableEq

def Flaw.label : Flaw → String
  | .missingField => "KeyError"
  | .wrongKind => "TypeError"
  | .badValue => "ValueError"
  | .noParts => "AttributeError"

/-- The sorts of records whose parts are looked at. -/
inductive RecordSort where
  | contributor
  | commit
  | activity
deriving Repr, DecidableEq

def RecordSort.name : RecordSort → String
  | .contributor => "contributor"
  | .commit => "commit"
  | .activity => "activity"

inductive Undecodable where
  | notADocument
  | otherKind (expected got : String)
  /-- A field of a repository is missing or not a whole number. -/
  | noWholeField (name : String)
  | noTotal
  | incompleteSearch
  | malformed (sort : RecordSort) (flaw : Flaw)
  /-- The size of a language is not a whole number. -/
  | unsized (language : String)
  | other (text : String)
deriving Repr, DecidableEq

namespace Undecodable

def message : Undecodable → String
  | notADocument => "Invalid JSON body"
  | otherKind expected got => s!"Expected {expected}, got {got}"
  | noWholeField name => s!"Repository field '{name}' missing or not an integer"
  | noTotal => "Search result has no total_count"
  | incompleteSearch => "Search results incomplete"
  | malformed sort flaw => "Malformed " ++ sort.name ++ " record: " ++ flaw.label
  | unsized language => s!"Byte count for {language} is not an integer"
  | other text => text

/-! ## Shorter texts -/

/-- The announcement of why a body is no document, without the reason. -/
def announcement? (cs : List Char) : Option (List Char) :=
  let announced := (message notADocument).toList
  if (announced ++ [':', ' ']).isPrefixOf cs then some announced else none

/-- The announcement of what is wrong with a record, without the flaw. -/
def flawed? (cs : List Char) : Option (List Char) :=
  let opening := "Malformed ".toList
  if opening.isPrefixOf cs then
    let sort := (cs.drop opening.length).takeWhile (· ≠ ' ')
    let announced := opening ++ sort ++ " record".toList
    if !sort.isEmpty && (announced ++ [':', ' ']).isPrefixOf cs then some announced else none
  else none

/-- A text that ends with the first announcement in it. -/
def endingAt (announced? : List Char → Option (List Char)) : List Char → List Char
  | [] => []
  | c :: cs =>
    match announced? (c :: cs) with
    | some announced => announced
    | none => c :: endingAt announced? cs

/-- The text of a reason, without why a body is no document. -/
def brief (why : Undecodable) : String :=
  ((announcement? why.message.toList).map String.ofList).getD why.message

/-- A text of the log without the reason why a body is no document and without the flaw of a record. -/
def shortened (text : String) : String :=
  String.ofList (endingAt flawed? (endingAt announcement? text.toList))

end Undecodable

end RepoCensus
