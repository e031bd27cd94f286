import RepoCensus.Numeral.Extended

/-!
# Doubles

The exact value of a double and the double nearest to an exact value, a half going to the even
neighbour and sizes beyond the largest double going to infinity.
-/

namespace RepoCensus.Numeral.Double

/-- The number of stored digits of a double's significand. -/
def fractionBits : Nat := 52

def leastExponent : Int := -1074

/-- `2 ^ e`, also for negative `e`. -/
def powerOfTwo (e : Int) : Rat :=
  if 0 ≤ e then (Nat.pow 2 e.toNat : Rat) else mkRat 1 (Nat.pow 2 (-e).toNat)

def isNegative (x : Float) : Bool := x.toBits >>> 63 = 1

def storedExponent (x : Float) : Nat := ((x.toBits >>> 52) &&& 0x7ff).toNat

def storedFraction (x : Float) : Nat := (x.toBits &&& 0xfffffffffffff).toNat

/-- The significand of a finite double as a whole number. -/
def significand (x : Float) : Nat :=
  if storedExponent x = 0 then storedFraction x else Nat.pow 2 fractionBits + storedFraction x

/-- The exponent of the unit of a finite double's significand. -/
def unitExponent (x : Float) : Int :=
  if storedExponent x = 0 then leastExponent else leastExponent + (storedExponent x : Int) - 1

def value (x : Float) : Extended :=
  if storedExponent x = 0x7ff then
    if storedFraction x = 0 then .infinite (isNegative x) else .undefined
  else .finite (isNegative x) (significand x * powerOfTwo (unitExponent x))

/-- The unit in which a size is rounded: so that the significand has its full length, but not below
the smallest unit. -/
def unitFor (n d : Nat) : Int :=
  let guess : Int := (n.log2 : Int) - d.log2 - fractionBits
  -- the quotient's size is between `2 ^ (log2 n - log2 d - 1)` and `2 ^ (log2 n - log2 d + 1)`
  let reaches : Bool :=
    if 0 ≤ guess + fractionBits then d * Nat.pow 2 (guess + fractionBits).toNat ≤ n
    else d ≤ n * Nat.pow 2 (-(guess + fractionBits)).toNat
  let unit := if reaches then guess else guess - 1
  if unit < leastExponent then leastExponent else unit

/-- The bits of the double nearest to `n / d`, the sign apart. -/
def nearestBits (n d : Nat) : Nat :=
  if n = 0 then 0
  else
    let unit := unitFor n d
    let m := if 0 ≤ unit then halfEven n (d * Nat.pow 2 unit.toNat)
      else halfEven (n * Nat.pow 2 (-unit).toNat) d
    if m < Nat.pow 2 fractionBits then m
    else ((unit - leastExponent).toNat + 1) * Nat.pow 2 fractionBits + (m - Nat.pow 2 fractionBits)

def infinityBits : Nat := 0x7ff * Nat.pow 2 fractionBits

def nearest (negative : Bool) (n d : Nat) : Float :=
  let bits := min (nearestBits n d) infinityBits
  Float.ofBits (UInt64.ofNat (if negative then Nat.pow 2 63 + bits else bits))

/-- The nearest double, unless the size is beyond the largest one. -/
def nearest? (negative : Bool) (n d : Nat) : Option Float :=
  if nearestBits n d < infinityBits then some (nearest negative n d) else none

/-- A whole number as a double, unless it is too large for one. -/
def ofInt? (n : Int) : Option Float := nearest? (n < 0) n.natAbs 1

/-- The quotient of two whole numbers as a double, unless it is too large for one. -/
def quotient? (a b : Int) : Option Float :=
  nearest? (decide (a < 0) != decide (b < 0)) a.natAbs b.natAbs

/-- `2 ^ e` as a double, unless it is too large for one, or `e` is. -/
def powerOfTwo? (e : Int) : Option Float :=
  if 1024 ≤ e then none
  else if e < leastExponent then (ofInt? e).map fun _ => 0
  else nearest? false (Nat.pow 2 e.toNat) (Nat.pow 2 (-e).toNat)

/-- The double nearest to `digits · 10 ^ exponent`. Exponents far outside the range of doubles are
decided by the number of digits alone. -/
def ofDecimal (negative : Bool) (digits : Nat) (exponent : Int) : Float :=
  let length : Int := (toString digits).length
  if digits = 0 then nearest negative 0 1
  else if 400 < length + exponent then Float.ofBits (UInt64.ofNat
    (if negative then Nat.pow 2 63 + infinityBits else infinityBits))
  else if length + exponent < -400 then nearest negative 0 1
  else if 0 ≤ exponent then nearest negative (digits * Nat.pow 10 exponent.toNat) 1
  else nearest negative digits (Nat.pow 10 (-exponent).toNat)

end RepoCensus.Numeral.Double
