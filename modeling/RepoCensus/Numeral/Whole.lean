import RepoCensus.Text.Blank
import RepoCensus.Text.Digit

/-!
# Whole numbers in text

Reading a whole number: blanks around it, one sign, decimal digits of any script, and single
underscores between digits.
-/

namespace RepoCensus.Numeral

open RepoCensus.Text

/-- The most digits a whole number may be written with. -/
def digitLimit : Nat := 4300

/-- A blank that may surround a number: white space other than the separators of files to units. -/
def isPadding (c : Char) : Bool := isBlank c && !(28 ≤ c.toNat && c.toNat ≤ 31)

/-- The digits of a number from its first digit on; an underscore must stand between two digits. -/
def digitsFrom? : List Char → Option (List Nat)
  | [] => some []
  | ['_'] => none
  | '_' :: c :: cs => do
    let d ← digit? c
    let ds ← digitsFrom? cs
    return d :: ds
  | c :: cs => do
    let d ← digit? c
    let ds ← digitsFrom? cs
    return d :: ds

/-- The digits of a number, of which there is at least one. -/
def digits? : List Char → Option (List Nat)
  | [] => none
  | c :: cs => do
    let d ← digit? c
    let ds ← digitsFrom? cs
    return d :: ds

/-- The value of a list of digits, first digit first. -/
def ofDigits (ds : List Nat) : Nat := ds.foldl (fun n d => 10 * n + d) 0

/-- The value of unsigned digits, unless they are too many. -/
def natural? (cs : List Char) : Option Nat := do
  let ds ← digits? cs
  if ds.length ≤ digitLimit then some (ofDigits ds) else none

/-- The number that the characters between the blanks spell. -/
def signed? : List Char → Option Int
  | '-' :: cs => (natural? cs).map fun n => -(n : Int)
  | '+' :: cs => (natural? cs).map Int.ofNat
  | cs => (natural? cs).map Int.ofNat

def whole? (s : String) : Option Int :=
  signed? ((s.toList.dropWhile isPadding).reverse.dropWhile isPadding).reverse

end RepoCensus.Numeral
