/-!
# Measured values

What a measured quantity may be: an exact size with a sign, an infinity, or no number at all; and its
text with a fixed number of decimals, a half going to the even neighbour.
-/

namespace RepoCensus.Numeral

/-! ## Rounding quotients -/

/-- The whole number nearest to `n / d`; a half goes to the even neighbour. -/
def halfEven (n d : Nat) : Nat :=
  let q := n / d
  let r := n % d
  if 2 * r < d then q
  else if d < 2 * r then q + 1
  else if q % 2 = 0 then q else q + 1

/-- A quotient without a remainder is itself. -/
@[simp] theorem halfEven_mul_right (n : Nat) {d : Nat} (h : 0 < d) : halfEven (n * d) d = n := by
  simp [halfEven, Nat.mul_div_cancel _ h, h]

/-! ## Values -/

/-- The exact value behind a measured quantity. Zero keeps its sign. -/
inductive Extended where
  | finite (negative : Bool) (size : Rat)
  | infinite (negative : Bool)
  | undefined
deriving Repr, DecidableEq

namespace Extended

def ofRat (q : Rat) : Extended := .finite (q < 0) (if q < 0 then -q else q)

def toRat? : Extended → Option Rat
  | .finite negative size => some (if negative then -size else size)
  | _ => none

def truncate? : Extended → Option Int
  | .finite negative size =>
    let n : Int := size.floor
    some (if negative then -n else n)
  | _ => none

end Extended

/-- Writes the digits of `n` with at least `width` of them. -/
def padded (width n : Nat) : String :=
  let digits := (toString n).toList
  String.ofList (List.replicate (width - digits.length) '0' ++ digits)

/-- A size with the given number of decimals, rounded half to even. -/
def fixedSize (places : Nat) (size : Rat) : String :=
  let scaled := halfEven (size.num.natAbs * Nat.pow 10 places) size.den
  let whole := toString (scaled / Nat.pow 10 places)
  if places = 0 then whole else whole ++ "." ++ padded places (scaled % Nat.pow 10 places)

/-- A value with the given number of decimals; the sign stays even when all digits are zero. -/
def fixed (places : Nat) : Extended → String
  | .finite negative size => (if negative then "-" else "") ++ fixedSize places size
  | .infinite negative => if negative then "-inf" else "inf"
  | .undefined => "nan"

@[simp] theorem Extended.toRat?_ofRat (q : Rat) : (Extended.ofRat q).toRat? = some q := by
  unfold Extended.ofRat Extended.toRat?
  by_cases h : q < 0 <;> simp [h]

end RepoCensus.Numeral
