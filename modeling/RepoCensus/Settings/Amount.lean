import RepoCensus.Json.Basic
import RepoCensus.Numeral.Shortest

/-!
# Amounts

A number that an option is set to: a whole number, a truth value that stands for one, or a number with
decimals.
-/

namespace RepoCensus

open RepoCensus.Numeral

/-- A number that an option is set to. -/
inductive Amount where
  | number (n : Int)
  | flag (b : Bool)
  | decimal (x : Float)
deriving Repr

namespace Amount

instance (n : Nat) : OfNat Amount n := ⟨number n⟩

instance : Coe Int Amount := ⟨number⟩

def value : Amount → Extended
  | number n => .ofRat n
  | flag b => .ofRat (if b then 1 else 0)
  | decimal x => Double.value x

def isBelow (n : Int) (a : Amount) : Bool :=
  match a.value with
  | .undefined => false
  | .infinite negative => negative
  | v => v.toRat?.any (· < (n : Rat))

def isAtLeast (n : Int) (a : Amount) : Bool := a.value ≠ .undefined && !a.isBelow n

def isAtMost (n : Int) (a : Amount) : Bool :=
  match a.value with
  | .undefined => false
  | .infinite negative => negative
  | v => v.toRat?.any (· ≤ (n : Rat))

/-- The value as a fraction. An infinity counts as more than any double. -/
def size (a : Amount) : Rat :=
  match a.value with
  | .undefined => 0
  | .infinite negative => if negative then -(Nat.pow 2 1024 : Nat) else (Nat.pow 2 1024 : Nat)
  | v => v.toRat?.getD 0

def ceiling (a : Amount) : Int := a.size.ceil

def floor (a : Amount) : Int := a.size.floor

def text : Amount → String
  | number n => toString n
  | flag b => if b then "True" else "False"
  | decimal x => Shortest.message.text x

def toJson : Amount → Json
  | number n => .int n
  | flag b => .bool b
  | decimal x => .float x

def ofJson? : Json → Option Amount
  | .int n => some (number n)
  | .bool b => some (flag b)
  | .float x => some (decimal x)
  | _ => none

@[simp] theorem size_number (n : Int) : (number n).size = n := by
  have h : (Extended.ofRat (n : Rat)).toRat? = some (n : Rat) := Extended.toRat?_ofRat _
  simp only [size, value]
  generalize Extended.ofRat (n : Rat) = v at h
  cases v with
  | finite negative size => simp only [h, Option.getD_some]
  | infinite negative => simp [Extended.toRat?] at h
  | undefined => simp [Extended.toRat?] at h

@[simp] theorem ceiling_number (n : Int) : (number n).ceiling = n := by
  rw [ceiling, size_number, Rat.ceil_intCast]

theorem isBelow_number (m n : Int) : (number n).isBelow m = decide (n < m) := by
  have h : (Extended.ofRat (n : Rat)).toRat? = some (n : Rat) := Extended.toRat?_ofRat _
  simp only [isBelow, value]
  generalize Extended.ofRat (n : Rat) = v at h
  cases v with
  | finite negative size =>
    simp only [h, Option.any_some, Rat.intCast_lt_intCast]
  | infinite negative => simp [Extended.toRat?] at h
  | undefined => simp [Extended.toRat?] at h

end Amount

end RepoCensus
