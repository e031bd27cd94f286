import RepoCensus.Json.Basic
import RepoCensus.Numeral.Shortest
import RepoCensus.Text.Quoted

/-!
# Writing JSON

Documents in ASCII, on one line or with one indented line for each part; and the text that a value
has inside a message.
-/

namespace RepoCensus.Json

open RepoCensus.Text RepoCensus.Numeral

def unitEscape (n : Nat) : List Char := '\\' :: 'u' :: hexDigits 4 n

/-- A character inside a written string: the marks and the controls are escaped, and all that is not
ASCII. -/
def escapedChar (c : Char) : List Char :=
  if c = '"' ∨ c = '\\' then ['\\', c]
  else if c = '\n' then ['\\', 'n']
  else if c = '\r' then ['\\', 'r']
  else if c = '\t' then ['\\', 't']
  else if c.toNat = 8 then ['\\', 'b']
  else if c.toNat = 12 then ['\\', 'f']
  else if 32 ≤ c.toNat ∧ c.toNat < 127 then [c]
  else if c.toNat < 0x10000 then unitEscape c.toNat
  else unitEscape (0xd800 + (c.toNat - 0x10000) / 0x400) ++
    unitEscape (0xdc00 + (c.toNat - 0x10000) % 0x400)

def writtenString (s : String) : String :=
  String.ofList ('"' :: s.toList.flatMap escapedChar ++ ['"'])

/-- How the parts of a value are set apart. -/
inductive Setting where
  | line
  /-- On lines of their own, `depth` levels of two blanks in. -/
  | lines (depth : Nat)

namespace Setting

def inner : Setting → Setting
  | .line => .line
  | .lines depth => .lines (depth + 1)

/-- What stands before the first part and after the last one. -/
def edge : Setting → String
  | .line => ""
  | .lines depth => "\n" ++ String.ofList (List.replicate (2 * depth) ' ')

def between : Setting → String
  | .line => ", "
  | .lines depth => ",\n" ++ String.ofList (List.replicate (2 * depth) ' ')

def bracketed (s : Setting) (opening closing : String) (parts : List String) : String :=
  if parts.isEmpty then opening ++ closing
  else opening ++ s.inner.edge ++ s.inner.between.intercalate parts ++ s.edge ++ closing

end Setting

mutual

def write (s : Setting) : Json → String
  | .null => "null"
  | .bool b => if b then "true" else "false"
  | .int n => toString n
  | .float x => Shortest.document.text x
  | .str t => writtenString t
  | .arr items => s.bracketed "[" "]" (writeItems s.inner items)
  | .obj fields => s.bracketed "\x7b" "\x7d" (writeFields s.inner fields)

def writeItems (s : Setting) : List Json → List String
  | [] => []
  | v :: rest => write s v :: writeItems s rest

def writeFields (s : Setting) : List (String × Json) → List String
  | [] => []
  | (name, v) :: rest => (writtenString name ++ ": " ++ write s v) :: writeFields s rest

end

def compact (v : Json) : String := write .line v

def pretty (v : Json) : String := write (.lines 0) v

mutual

def inlined : Json → String
  | .null => "None"
  | .bool b => if b then "True" else "False"
  | .int n => toString n
  | .float x => Shortest.message.text x
  | .str t => quoted t
  | .arr items => "[" ++ ", ".intercalate (inlinedItems items) ++ "]"
  | .obj fields => "\x7b" ++ ", ".intercalate (inlinedFields fields) ++ "\x7d"

def inlinedItems : List Json → List String
  | [] => []
  | v :: rest => inlined v :: inlinedItems rest

def inlinedFields : List (String × Json) → List String
  | [] => []
  | (name, v) :: rest => (quoted name ++ ": " ++ inlined v) :: inlinedFields rest

end

/-- A value as part of a message: a string stands as it is. -/
def shown : Json → String
  | .str t => t
  | v => inlined v

end RepoCensus.Json
