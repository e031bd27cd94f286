/-!
# Dates

The Gregorian calendar, extended to all years from 1 on: the number of a day and the date of a number.
Day zero is the first of January of the year 1.
-/

namespace RepoCensus.Calendar

def isLeap (year : Nat) : Bool := year % 4 = 0 && (year % 100 ≠ 0 || year % 400 = 0)

/-- The length of a month; months beyond the twelfth have none. -/
def daysInMonth (year month : Nat) : Nat :=
  match month with
  | 1 | 3 | 5 | 7 | 8 | 10 | 12 => 31
  | 4 | 6 | 9 | 11 => 30
  | 2 => if isLeap year then 29 else 28
  | _ => 0

/-- The days before the first of January of a year. -/
def daysBeforeYear (year : Nat) : Nat :=
  let y := year - 1
  y * 365 + y / 4 - y / 100 + y / 400

/-- The days of a year before the first of a month. -/
def daysBeforeMonth (year : Nat) : Nat → Nat
  | 0 => 0
  | 1 => 0
  | month + 1 => daysBeforeMonth year month + daysInMonth year month

def leastYear : Nat := 1

def greatestYear : Nat := 9999

structure Date where
  year : Nat
  month : Nat
  day : Nat
deriving Repr, DecidableEq

namespace Date

def isValid (d : Date) : Bool :=
  leastYear ≤ d.year && d.year ≤ greatestYear && 1 ≤ d.month && d.month ≤ 12 &&
    1 ≤ d.day && d.day ≤ daysInMonth d.year d.month

def number (d : Date) : Nat :=
  daysBeforeYear d.year + daysBeforeMonth d.year d.month + (d.day - 1)

/-- The days of four hundred years, after which the calendar repeats. -/
def daysOfCycle : Nat := 146097

/-- The year of a day, from a year that is not later on, at most `fuel` years later. -/
def yearFrom (n : Nat) (year : Nat) : Nat → Nat
  | 0 => year
  | fuel + 1 => if n < daysBeforeYear (year + 1) then year else yearFrom n (year + 1) fuel

/-- The month and day of a day of a year, from a month on; `n` days after that month's first. -/
def monthFrom (year n month : Nat) : Nat → Nat × Nat
  | 0 => (month, n + 1)
  | fuel + 1 =>
    if n < daysInMonth year month then (month, n + 1)
    else monthFrom year (n - daysInMonth year month) (month + 1) fuel

/-- The date of a day's number: the same date in the first four hundred years, so many cycles later.
No year is longer than 366 days, so the search starts at a year that is not too late; over four hundred
years it is not too early by more than one. -/
def ofNumber (n : Nat) : Date :=
  let rest := n % daysOfCycle
  let year := yearFrom rest (rest / 366 + 1) 2
  let (month, day) := monthFrom year (rest - daysBeforeYear year) 1 11
  ⟨400 * (n / daysOfCycle) + year, month, day⟩

/-- The day of the week, zero for Monday. The first day of the calendar is a Monday. -/
def weekday (d : Date) : Nat := d.number % 7

end Date

/-- The number of the day from which times are counted, the first of January 1970. -/
def epochDay : Nat := 719162

end RepoCensus.Calendar
