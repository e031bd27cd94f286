import RepoCensus.Anomaly
import RepoCensus.Calendar.Date
import RepoCensus.Numeral.Extended

/-!
# Moments

A date with a time of day, with or without an offset from universal time, and its text
`2024-03-01T12:00:00.250000+01:00`.
-/

namespace RepoCensus.Calendar

open RepoCensus.Numeral

/-- A moment. The offset is in millionths of a second, positive to the east. -/
structure Moment where
  date : Date
  hour : Nat
  minute : Nat
  second : Nat
  micro : Nat
  offset : Option Int
deriving Repr, DecidableEq

def microsOfDay : Int := 86400 * 1000000

namespace Moment

/-- Whether the clock and the calendar can show the moment. -/
def isValid (m : Moment) : Bool :=
  m.date.isValid && m.hour < 24 && m.minute < 60 && m.second < 60 && m.micro < 1000000 &&
    match m.offset with
    | none => true
    | some o => -microsOfDay < o && o < microsOfDay

/-- The decimals of a second, if they are not all zero. -/
def microText (micro : Nat) : String := if micro = 0 then "" else "." ++ padded 6 micro

/-- Hours and minutes of an offset, with seconds and decimals only where there are some. -/
def offsetText (offset : Int) : String :=
  let size := offset.natAbs
  let seconds := size / 1000000
  (if offset < 0 then "-" else "+") ++ padded 2 (seconds / 3600) ++ ":" ++
    padded 2 (seconds / 60 % 60) ++
    if size % 60000000 = 0 then ""
    else ":" ++ padded 2 (seconds % 60) ++ microText (size % 1000000)

def dateText (d : Date) : String := padded 4 d.year ++ "-" ++ padded 2 d.month ++ "-" ++ padded 2 d.day

def clockText (m : Moment) : String :=
  padded 2 m.hour ++ ":" ++ padded 2 m.minute ++ ":" ++ padded 2 m.second

def text (m : Moment) : String :=
  dateText m.date ++ "T" ++ m.clockText ++ microText m.micro ++
    match m.offset with
    | none => ""
    | some o => offsetText o

/-- The millionths of a second from the epoch to the moment's own clock reading. -/
def localMicros (m : Moment) : Int :=
  ((m.date.number : Int) - epochDay) * microsOfDay +
    (((m.hour * 60 + m.minute) * 60 + m.second) * 1000000 + m.micro : Nat)

/-- The millionths of a second from the epoch; without an offset the clock shows universal time. -/
def micros (m : Moment) : Int := m.localMicros - m.offset.getD 0

/-- The latest second, after the epoch, whose year the system's calendar can count. -/
def latestSecond : Int := 67768036191676799

/-- The earliest second whose year the system's calendar can count. -/
def earliestSecond : Int := -67768040609740800

/-- The number of whole numbers that a signed word of sixty-four bits has on either side of zero. -/
def wordReach : Int := 0x8000000000000000

/-- The year of a day that is counted from before the first year on, by way of the same day some
cycles of four hundred years later. -/
def yearBefore (day : Int) : Int :=
  let cycles := (-day).toNat / Date.daysOfCycle + 1
  ((Date.ofNumber (day + Date.daysOfCycle * cycles).toNat).year : Int) - 400 * cycles

/-- The moment so many millionths of a second after the epoch, in universal time. A time counted in
seconds must fit a signed word of sixty-four bits, its year must be one that the system can count, and
then one of the calendar. -/
def ofMicros (n : Int) : Except Anomaly Moment :=
  let second := n.fdiv 1000000
  if second < -wordReach ∨ wordReach ≤ second then .error (.tooLarge .clock)
  else if second < earliestSecond ∨ latestSecond < second then .error .beyondCalendar
  else
    let day := second.fdiv 86400 + epochDay
    if day < 0 then .error (.badYear (yearBefore day))
    else
      let date := Date.ofNumber day.toNat
      if greatestYear < date.year then .error (.badYear date.year)
      else
        let clock := (second.fmod 86400).toNat
        .ok ⟨date, clock / 3600, clock / 60 % 60, clock % 60, (n.fmod 1000000).toNat, some 0⟩

def ofSeconds (n : Int) : Except Anomaly Moment := ofMicros (n * 1000000)

end Moment

end RepoCensus.Calendar
