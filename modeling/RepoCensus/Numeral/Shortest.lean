import RepoCensus.Numeral.Double

/-!
# The shortest text of a double

The fewest digits that read back as the same double, and how they are laid out.
-/

namespace RepoCensus.Numeral.Shortest

/-- A positive decimal number `0.d₁d₂…dₖ · 10 ^ point`: `digits` has `count` digits. -/
structure Decimal where
  digits : Nat
  count : Nat
  point : Int
deriving Repr, DecidableEq

/-- `10 ^ e`, also for negative `e`. -/
def powerOfTen (e : Int) : Rat :=
  if 0 ≤ e then (Nat.pow 10 e.toNat : Rat) else mkRat 1 (Nat.pow 10 (-e).toNat)

def digitCount (n : Nat) : Nat := (toString n).length

def pointOf (size : Rat) : Int :=
  let guess : Int := (digitCount size.num.natAbs : Int) - digitCount size.den
  -- the quotient of an `a`-digit and a `b`-digit number lies between `10 ^ (a-b-1)` and `10 ^ (a-b+1)`
  if size < powerOfTen guess then guess else guess + 1

/-- The sizes that read as the double with significand `m` and unit `2 ^ e`: from `low` to `high`,
with the ends when `m` is even. -/
def readsBack (m : Nat) (e : Int) (q : Rat) : Bool :=
  let half := Double.powerOfTwo (e - 1)
  let size := (m : Rat) * Double.powerOfTwo e
  let below :=
    if m = Nat.pow 2 Double.fractionBits ∧ Double.leastExponent < e then half / 2 else half
  if m % 2 = 0 then decide (size - below ≤ q ∧ q ≤ size + half)
  else decide (size - below < q ∧ q < size + half)

/-- The decimal of `count` digits that reads back, if there is one: of the two neighbours of the size
the nearer, and of two equally near ones the even. -/
def candidate? (m : Nat) (e : Int) (point : Int) (count : Nat) : Option Nat :=
  let size := (m : Rat) * Double.powerOfTwo e
  let unit := powerOfTen (point - count)
  let low : Nat := (size / unit).floor.toNat
  let fits (n : Nat) : Bool := readsBack m e (n * unit)
  let fromLow := size - low * unit
  let fromHigh := (low + 1 : Nat) * unit - size
  match fits low, fits (low + 1) with
  | true, true =>
    if fromLow < fromHigh then some low
    else if fromHigh < fromLow then some (low + 1)
    else if low % 2 = 0 then some low else some (low + 1)
  | true, false => some low
  | false, true => some (low + 1)
  | false, false => none

/-- The first count of digits, from `count` on, for which a decimal reads back. -/
def search (m : Nat) (e : Int) (point : Int) (count : Nat) : Nat → Decimal
  | 0 => ⟨0, count, point⟩
  | fuel + 1 =>
    match candidate? m e point count with
    | some n => if digitCount n = count then ⟨n, count, point⟩ else ⟨1, 1, point + 1⟩
    | none => search m e point (count + 1) fuel

/-- The shortest decimal that reads back as the positive double with significand `m` and unit
`2 ^ e`. Seventeen digits always suffice. -/
def shortest (m : Nat) (e : Int) : Decimal :=
  search m e (pointOf ((m : Rat) * Double.powerOfTwo e)) 1 18

/-- How a shortest decimal is laid out. -/
structure Layout where
  /-- The decimal point stands among the digits when it is at least this far right … -/
  leastPoint : Int
  mostPoint : Int
  wholeEnd : String
  exponentDigits : Nat
  infinity : String
  undefined : String

/-- The digits of a decimal around its point, or with an exponent. -/
def Layout.decimal (layout : Layout) (d : Decimal) : String :=
  let digits := (toString d.digits).toList
  if layout.leastPoint ≤ d.point ∧ d.point ≤ layout.mostPoint then
    if d.point ≤ 0 then
      "0." ++ String.ofList (List.replicate (-d.point).toNat '0' ++ digits)
    else if d.count ≤ d.point.toNat then
      String.ofList (digits ++ List.replicate (d.point.toNat - d.count) '0') ++ layout.wholeEnd
    else
      String.ofList (digits.take d.point.toNat) ++ "." ++ String.ofList (digits.drop d.point.toNat)
  else
    let exponent := d.point - 1
    String.ofList (digits.take 1) ++ (if d.count = 1 then "" else ".") ++
      String.ofList (digits.drop 1) ++ "e" ++ (if exponent < 0 then "-" else "+") ++
      padded layout.exponentDigits exponent.natAbs

def Layout.text (layout : Layout) (x : Float) : String :=
  match Double.value x with
  | .finite negative size =>
    (if negative then "-" else "") ++
      if size = 0 then "0" ++ layout.wholeEnd
      else layout.decimal (shortest (Double.significand x) (Double.unitExponent x))
  | .infinite negative => (if negative then "-" else "") ++ layout.infinity
  | .undefined => layout.undefined

/-- Doubles as they stand in messages: positional from a ten-thousandth to ten quadrillion, whole
numbers with one decimal. -/
def message : Layout := ⟨-3, 16, ".0", 2, "inf", "nan"⟩

/-- Doubles as they stand in documents: as in messages, but the infinities and the undefined value
have the names that readers of documents know. -/
def document : Layout := { message with infinity := "Infinity", undefined := "NaN" }

end RepoCensus.Numeral.Shortest
