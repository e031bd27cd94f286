import RepoCensus.Text.CompositionTable
import RepoCensus.Text.Ranges

/-!
# Composed text

Of several spellings of an accented letter, a composed text has the shortest one, with the marks that
are left in a fixed order.
-/

namespace RepoCensus.Text

/-- The class of a code point among marks; marks of a lower class come first, and what is no mark is of
class zero. -/
def combiningClass (n : Nat) : Nat :=
  ((combiningClasses.find? fun r => r.1.1 ≤ n && n ≤ r.1.2).map Prod.snd).getD 0

/-- The parts of a code point, taken apart at most `depth` times. -/
def takenApart : (depth : Nat) → Nat → List Nat
  | 0, n => [n]
  | depth + 1, n =>
    match composites.find? fun c => c.code = n with
    | some c => takenApart depth c.base ++ [c.mark]
    | none => [n]

/-- How often a composed character can be taken apart. -/
def layers : Nat := 4

/-- Puts a code point behind others, the last of which comes first here; a mark passes those of a higher
class. -/
def placed (n : Nat) : List Nat → List Nat
  | [] => [n]
  | m :: before =>
    if combiningClass n ≠ 0 ∧ combiningClass n < combiningClass m then m :: placed n before
    else n :: m :: before

def inOrder (codes : List Nat) : List Nat := (codes.foldl (fun done n => placed n done) []).reverse

/-- The Korean syllable of two letters, or of a syllable and a closing letter. -/
def syllable? (a b : Nat) : Option Nat :=
  if 0x1100 ≤ a ∧ a < 0x1113 ∧ 0x1161 ≤ b ∧ b < 0x1176 then
    some (0xac00 + ((a - 0x1100) * 21 + (b - 0x1161)) * 28)
  else if 0xac00 ≤ a ∧ a < 0xd7a4 ∧ (a - 0xac00) % 28 = 0 ∧ 0x11a8 ≤ b ∧ b < 0x11c3 then
    some (a + (b - 0x11a7))
  else none

/-- The code point that two others are composed to. -/
def composite? (a b : Nat) : Option Nat :=
  ((composites.find? fun c => c.base = a && c.mark = b).map Composite.code).or (syllable? a b)

/-- Composes code points behind a letter. `marks` holds the marks that were not composed with it, the
last one first. -/
def composedFrom (letter : Nat) (marks : List Nat) : List Nat → List Nat
  | [] => letter :: marks.reverse
  | n :: rest =>
    let isFree := match marks with
      | [] => true
      | m :: _ => combiningClass m < combiningClass n
    match if isFree then composite? letter n else none with
    | some c => composedFrom c marks rest
    | none =>
      if combiningClass n = 0 then letter :: marks.reverse ++ composedFrom n [] rest
      else composedFrom letter (n :: marks) rest

/-- Composes code points; marks without a letter before them stay. -/
def composed : List Nat → List Nat
  | [] => []
  | n :: rest =>
    if combiningClass n = 0 then composedFrom n [] rest else n :: composed rest

def isComposed (cs : List Char) : Bool :=
  let codes := cs.map Char.toNat
  codes.all (fun n => !inRanges n respelledRanges) &&
    composed (inOrder (codes.flatMap (takenApart layers))) == codes

end RepoCensus.Text
