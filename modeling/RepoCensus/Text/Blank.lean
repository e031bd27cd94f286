import RepoCensus.Text.Ranges

/-!
# Blanks and lines

The characters that count as white space, trimming them from the ends of a text, and cutting a text
into the words between them; and where a line of text ends.
-/

namespace RepoCensus.Text

/-- The code points of white space: tabs and line ends, the separators of files to units, the space,
next line, no-break space and the spaces and line ends of the general punctuation. -/
def blankRanges : List (Nat × Nat) :=
  [(9, 13), (28, 32), (133, 133), (160, 160), (5760, 5760), (8192, 8202), (8232, 8233),
   (8239, 8239), (8287, 8287), (12288, 12288)]

def isBlank (c : Char) : Bool := inRanges c.toNat blankRanges

/-- What is left of a text when the blanks at its start are gone. -/
def trimStart (cs : List Char) : List Char := cs.dropWhile isBlank

/-- What is left of a text when the blanks at its end are gone. -/
def trimEnd (cs : List Char) : List Char := (cs.reverse.dropWhile isBlank).reverse

def trimmed (cs : List Char) : List Char := trimEnd (trimStart cs)

/-- `trimmed` on strings. -/
def strip (s : String) : String := String.ofList (trimmed s.toList)

/-- The parts of a text between its blanks; `word` holds the letters of the part being read, last one
first. -/
def wordsFrom (word : List Char) : List Char → List (List Char)
  | [] => if word.isEmpty then [] else [word.reverse]
  | c :: cs =>
    if isBlank c then
      if word.isEmpty then wordsFrom [] cs else word.reverse :: wordsFrom [] cs
    else wordsFrom (c :: word) cs

/-- The longest parts of a text without blanks, in order. -/
def words (cs : List Char) : List (List Char) := wordsFrom [] cs

def dropTrailing (c : Char) (s : String) : String :=
  String.ofList (s.toList.reverse.dropWhile (· == c)).reverse

/-! ## Lines -/

/-- The characters that end a line: line feed, vertical tab, form feed, carriage return, the
separators of files, groups and records, next line, line separator and paragraph separator. -/
def isLineEnd (c : Char) : Bool :=
  [10, 11, 12, 13, 28, 29, 30, 133, 8232, 8233].contains c.toNat

def firstLine (s : String) : String := String.ofList (s.toList.takeWhile fun c => !isLineEnd c)

end RepoCensus.Text
