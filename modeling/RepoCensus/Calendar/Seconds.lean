import RepoCensus.Calendar.Moment
import RepoCensus.Numeral.Shortest

/-!
# Seconds

Clocks, delays and waits are numbers of seconds. The rules of this library need only the operations of
the class `Seconds`; with doubles they are carried out as a clock gives them, with rational numbers
they are exact.
-/

namespace RepoCensus.Calendar

open RepoCensus.Numeral

/-- A type of numbers that count seconds. -/
class Seconds (τ : Type) extends Add τ, Sub τ, Mul τ, LT τ, LE τ where
  decLt : (a b : τ) → Decidable (a < b)
  decLe : (a b : τ) → Decidable (a ≤ b)
  zero : τ
  /-- A whole number of seconds, unless it is too large. -/
  ofInt? : Int → Option τ
  powerOfTwo? : Int → Option τ
  exact : τ → Extended
  text : τ → String
  /-- The nearest whole number of millionths, a half going to the even neighbour. -/
  micros : τ → Except Anomaly Int

namespace Seconds

variable {τ : Type} [Seconds τ]

instance (a b : τ) : Decidable (a < b) := decLt a b

instance (a b : τ) : Decidable (a ≤ b) := decLe a b

/-- The lesser of two; the first one unless the second is less. -/
def lesser (a b : τ) : τ := if b < a then b else a

/-- The greater of two; the first one unless the second is greater. -/
def greater (a b : τ) : τ := if a < b then b else a

/-- The time from `now` to `later`, none if that is past. -/
def timeUntil (later now : τ) : τ := greater (later - now) zero

def whole (n : Nat) : τ := (ofInt? (n : Int)).getD zero

def fixed (places : Nat) (x : τ) : String := Numeral.fixed places (exact x)

end Seconds

def Moment.ofTime {τ : Type} [Seconds τ] (x : τ) : Except Anomaly Moment := do
  Moment.ofMicros (← Seconds.micros x)

/-! ## Exact seconds -/

def nearestInt (q : Rat) : Int :=
  let size : Int := halfEven q.num.natAbs q.den
  if q.num < 0 then -size else size

instance rationalSeconds : Seconds Rat where
  add := fun a b => a + b
  sub := fun a b => a - b
  mul := fun a b => a * b
  lt := fun a b => a < b
  le := fun a b => a ≤ b
  decLt := fun a b => inferInstanceAs (Decidable (a < b))
  decLe := fun a b => inferInstanceAs (Decidable (a ≤ b))
  zero := 0
  ofInt? := fun n => some n
  powerOfTwo? := fun e => some (Double.powerOfTwo e)
  exact := Extended.ofRat
  text := fun q => Numeral.fixed 6 (Extended.ofRat q)
  micros := fun q => .ok (nearestInt (q * 1000000))

/-! ## Seconds as doubles -/

/-- The millionths of a double: the whole seconds exactly, and what is left of them as a product of
doubles. The reach of a signed word is itself a double, so it passes for a time that the word can count;
the calendar has no such year. -/
def doubleMicros (x : Float) : Except Anomaly Int :=
  match (Double.value x).truncate? with
  | some seconds =>
    match Double.ofInt? seconds with
    | some whole =>
      if seconds < -Moment.wordReach ∨ Moment.wordReach < seconds then .error (.tooLarge .clock)
      else if seconds = Moment.wordReach then .error .beyondCalendar
      else
        match (Double.value ((x - whole) * 1000000)).toRat? with
        | some rest => .ok (seconds * 1000000 + nearestInt rest)
        | none => .error (.tooLarge .clock)
    | none => .error (.tooLarge .double)
  | none => .error (if Double.value x = .undefined then .noTime else .tooLarge .clock)

instance doubleSeconds : Seconds Float where
  add := fun a b => a + b
  sub := fun a b => a - b
  mul := fun a b => a * b
  lt := fun a b => a < b
  le := fun a b => a ≤ b
  decLt := fun a b => inferInstanceAs (Decidable (a < b))
  decLe := fun a b => inferInstanceAs (Decidable (a ≤ b))
  zero := 0
  ofInt? := Double.ofInt?
  powerOfTwo? := Double.powerOfTwo?
  exact := Double.value
  text := Shortest.message.text
  micros := doubleMicros

end RepoCensus.Calendar
