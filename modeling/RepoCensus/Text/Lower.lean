import RepoCensus.Text.Ranges
import RepoCensus.Text.CaseTable

/-!
# Lower case

The lower-case form of a text: character by character from the table, with the two exceptions that
one capital becomes two characters and that a capital sigma at the end of a word becomes a final
sigma.
-/

namespace RepoCensus.Text

/-- The capital that is lowered to two characters, an `i` and a dot above. -/
def dottedCapitalI : Char := Char.ofNat 304

/-- The form of a code point in the other case, from the first run that reaches it. -/
def recasedCode (n : Nat) : List CaseRun → Nat
  | [] => n
  | run :: rest =>
    if n < run.first then n
    else if n ≤ run.last then
      if (n - run.first) % run.step = 0 then (n + run.shift).toNat else recasedCode n rest
    else recasedCode n rest

def lowerChar (c : Char) : List Char :=
  if c = dottedCapitalI then ['i', Char.ofNat 775]
  else [Char.ofNat (recasedCode c.toNat caseRuns)]

/-- A character that is passed over when looking for the neighbours of a sigma. -/
def isCaseIgnorable (c : Char) : Bool := inRanges c.toNat caseIgnorableRanges

def isCased (c : Char) : Bool := inRanges c.toNat casedRanges

/-- Whether the next character that counts is cased. -/
def casedNext (cs : List Char) : Bool :=
  match cs.dropWhile isCaseIgnorable with
  | [] => false
  | c :: _ => isCased c

def capitalSigma : Char := Char.ofNat 931

/-- Lowers a text; `before` holds what was already read, last character first. -/
def lowerFrom (before : List Char) : List Char → List Char
  | [] => []
  | c :: cs =>
    let lowered :=
      if c = capitalSigma then
        [if casedNext before && !casedNext cs then Char.ofNat 962 else Char.ofNat 963]
      else lowerChar c
    lowered ++ lowerFrom (c :: before) cs

def lower (s : String) : String := String.ofList (lowerFrom [] s.toList)

end RepoCensus.Text
