import RepoCensus.Client.HostName.DirectionTable
import RepoCensus.Client.HostName.Flaw
import RepoCensus.Client.HostName.PermittedTable
import RepoCensus.Text.Composed

/-!
# Labels

Which texts can be one label of a host name: the part between two dots. Most characters are permitted
everywhere or nowhere, a few only beside certain others; and a label that is written from right to left
must be so throughout.
-/

namespace RepoCensus.HostName

open RepoCensus.Text

/-! ## Classes of characters -/

/-- Whether a code point belongs to one of the runs, which are ascending. -/
def inRuns (n : Nat) : List CodeRun → Bool
  | [] => false
  | run :: rest =>
    if n < run.first then false
    else if n ≤ run.last then (n - run.first) % run.step = 0
    else inRuns n rest

def isUndirected (c : Char) : Bool := inRanges c.toNat undirectedRanges

/-- A character that is permitted wherever it stands. -/
def isPermitted (c : Char) : Bool := inRuns c.toNat permittedRuns || isUndirected c

/-- A mark that is written on or around its letter. -/
def isNonspacing (c : Char) : Bool := inRanges c.toNat nonspacingRanges

def isMark (c : Char) : Bool := isNonspacing c || inRanges c.toNat spacingRanges

/-- A mark that takes the vowel from the consonant before it. -/
def isVowelKiller (c : Char) : Bool := combiningClass c.toNat = 9

/-- A character that is passed over when looking for the letters that join. One mark is not. -/
def isTransparent (c : Char) : Bool :=
  inRanges c.toNat passedOverRanges || (isNonspacing c && c.toNat ≠ 0x1171e)

def joinsNext (c : Char) : Bool :=
  inRanges c.toNat joiningBothRanges || inRanges c.toNat joiningLeftRanges

def joinsPrevious (c : Char) : Bool :=
  inRanges c.toNat joiningBothRanges || inRanges c.toNat joiningRightRanges

def isArabicDigit (c : Char) : Bool := 0x660 ≤ c.toNat && c.toNat ≤ 0x669

def isEasternDigit (c : Char) : Bool := 0x6f0 ≤ c.toNat && c.toNat ≤ 0x6f9

/-! ## Characters beside others -/

/-- Whether a mark that keeps two letters apart may stand here: where they would join, or after a
killed vowel. The characters before it come last one first. -/
def partsLetters (before after : List Char) : Bool :=
  before.head?.any isVowelKiller ||
    ((before.dropWhile isTransparent).head?.any joinsNext &&
      (after.dropWhile isTransparent).head?.any joinsPrevious)

/-- Whether a character that is not permitted everywhere may stand between others, none if it is
permitted nowhere. The characters before it come last one first. -/
def fits? (before : List Char) (c : Char) (after : List Char) : Option Bool :=
  let n := c.toNat
  let others := before ++ after
  if n = 0x200c then some (partsLetters before after)
  else if n = 0x200d then some (before.head?.any isVowelKiller)
  else if n = 0xb7 then some (before.head? = some 'l' && after.head? = some 'l')
  else if n = 0x375 then some (after.head?.any fun d => inRanges d.toNat greekRanges)
  else if n = 0x5f3 ∨ n = 0x5f4 then some (before.head?.any fun d => inRanges d.toNat hebrewRanges)
  else if n = 0x30fb then some (others.any fun d => inRanges d.toNat japaneseRanges)
  else if isArabicDigit c then some (!others.any isEasternDigit)
  else if isEasternDigit c then some (!others.any isArabicDigit)
  else none

/-- A character without a name: an undirected one, or an ideograph of the Tangut script. -/
def isNameless (c : Char) : Bool :=
  isUndirected c || (0x17000 ≤ c.toNat && c.toNat ≤ 0x187f7) ||
    (0x18d00 ≤ c.toNat && c.toNat ≤ 0x18d08)

/-- Whether a character joins its neighbours, or keeps them from joining. -/
def isJoiner (c : Char) : Bool := c.toNat = 0x200c || c.toNat = 0x200d

/-- Looks at the characters of a label in order. Those before the next one come last one first. What has
no name takes no joiner behind it. -/
def checkCharacters (before : List Char) : List Char → Except Flaw Unit
  | [] => .ok ()
  | c :: after =>
    if isPermitted c then checkCharacters (c :: before) after
    else if isJoiner c && before.head?.any isNameless then .error .shape
    else
      match fits? before c after with
      | some true => checkCharacters (c :: before) after
      | some false => .error .context
      | none => .error .character

/-! ## Direction -/

def isLeftward (c : Char) : Bool := inRanges c.toNat leftwardRanges

/-- A digit that stands among letters that are written from right to left. -/
def isLeftwardDigit (c : Char) : Bool :=
  isArabicDigit c || (0x10d30 ≤ c.toNat && c.toNat ≤ 0x10d39)

/-- A digit that stands among letters of either direction. -/
def isCommonDigit (c : Char) : Bool := ('0' ≤ c && c ≤ '9') || isEasternDigit c

/-- The nonspacing marks that count as letters that are written from left to right. -/
def rightwardMarks : List Nat := [0xcbf, 0xcc6, 0x11a07, 0x11a08, 0x11c3f]

def takesDirection (c : Char) : Bool := isNonspacing c && !rightwardMarks.contains c.toNat

/-- A character that may stand in a label that is written from right to left. -/
def goesLeftward (c : Char) : Bool :=
  isLeftward c || isLeftwardDigit c || isCommonDigit c || inRanges c.toNat neutralRanges ||
    takesDirection c

/-- Whether a label is written from right to left throughout: it starts with a letter, ends with a
letter or digit and its marks, and has digits of one sort. -/
def isAllLeftward (label : List Char) : Bool :=
  label.head?.any isLeftward && label.all goesLeftward &&
    ((label.reverse.dropWhile takesDirection).head?.any fun c =>
      isLeftward c || isLeftwardDigit c || isCommonDigit c) &&
    !(label.any isCommonDigit && label.any isLeftwardDigit)

/-- Whether anything in a label is written from right to left. -/
def hasLeftward (label : List Char) : Bool := label.any fun c => isLeftward c || isLeftwardDigit c

/-! ## Whole labels -/

/-- The most characters of a label before it is encoded. -/
def mostCharacters : Nat := 254

/-- Whether a label has hyphens neither at its ends nor together at the third and fourth place. -/
def hyphensFit (label : List Char) : Bool :=
  (label.drop 2).take 2 ≠ ['-', '-'] && label.head? ≠ some '-' && label.getLast? ≠ some '-'

def isWellFormed (label : List Char) : Bool :=
  !label.isEmpty && label.length ≤ mostCharacters && isComposed label && hyphensFit label &&
    !label.head?.any isMark

def checkLabel (label : List Char) : Except Flaw Unit := do
  if !isWellFormed label then .error .shape
  checkCharacters [] label
  if label.any isUndirected || (hasLeftward label && !isAllLeftward label) then .error .direction

end RepoCensus.HostName
