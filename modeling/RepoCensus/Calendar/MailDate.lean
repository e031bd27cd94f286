import RepoCensus.Calendar.Moment
import RepoCensus.Numeral.Whole
import RepoCensus.Text.Fields
import RepoCensus.Text.Lower

/-!
# Dates of mail and of the web

Dates such as `Sun, 06 Nov 1994 08:49:37 GMT`, read with much tolerance: the day of the week may be
missing, day and month may change places, and so may year, time and zone.
-/

namespace RepoCensus.Calendar

open RepoCensus.Numeral RepoCensus.Text

namespace MailDate

/-! ## Words -/

/-- The days of the week, as they may stand at the start without a comma. -/
def dayNames : List String := ["mon", "tue", "wed", "thu", "fri", "sat", "sun"]

def shortMonths : List String :=
  ["jan", "feb", "mar", "apr", "may", "jun", "jul", "aug", "sep", "oct", "nov", "dec"]

def longMonths : List String :=
  ["january", "february", "march", "april", "may", "june", "july", "august", "september",
   "october", "november", "december"]

/-- The zones that have names, with their offsets in hours and minutes, `-400` for four hours west. -/
def namedZones : List (String × Int) :=
  [("UT", 0), ("UTC", 0), ("GMT", 0), ("Z", 0), ("AST", -400), ("ADT", -300), ("EST", -500),
   ("EDT", -400), ("CST", -600), ("CDT", -500), ("MST", -700), ("MDT", -600), ("PST", -800),
   ("PDT", -700)]

/-- The place of a word in a list, counted from one. -/
def placeOf? (word : String) (words : List String) : Option Nat :=
  (words.findIdx? fun w => w = word).map (· + 1)

/-- The number of a month that a lower-case word names. -/
def month? (word : List Char) : Option Nat :=
  let word := String.ofList word
  (placeOf? word shortMonths).or (placeOf? word longMonths)

/-- The capitals of a character, as far as the names of zones need them. -/
def capitals (c : Char) : List Char :=
  if c.toNat = 0x17f then ['S']
  else if c.toNat = 0xfb05 ∨ c.toNat = 0xfb06 then ['S', 'T']
  else [c.toUpper]

/-- Digits that are not decimal digits, such as superscripts and numbers in circles. -/
def specialDigits : List (Nat × Nat) :=
  [(178, 179), (185, 185), (4969, 4977), (6618, 6618), (8304, 8304), (8308, 8313), (8320, 8329),
   (9312, 9320), (9332, 9340), (9352, 9360), (9450, 9450), (9461, 9469), (9471, 9471),
   (10102, 10110), (10112, 10120), (10122, 10130), (68160, 68163), (69216, 69224), (69714, 69722),
   (127232, 127242)]

def isDigitSort (c : Char) : Bool := (digit? c).isSome || inRanges c.toNat specialDigits

/-! ## The parts of a date -/

def dropComma (cs : List Char) : List Char :=
  if cs.getLast? = some ',' then cs.dropLast else cs

/-- What follows the last copy of `c`, or the whole text when there is none. -/
def afterLast (c : Char) (cs : List Char) : List Char := (cs.reverse.takeWhile (· ≠ c)).reverse

/-- The words of a date without the day of the week. -/
def dropDayName : List (List Char) → List (List Char)
  | [] => []
  | w :: rest =>
    if w.getLast? = some ',' ∨ lower (String.ofList w) ∈ dayNames then rest
    else afterLast ',' w :: rest

/-- Cuts the form `06-Nov-94` into its three parts. -/
def cutHyphens (ws : List (List Char)) : List (List Char) :=
  match ws with
  | [date, time, zone] =>
    match fields '-' date with
    | [a, b, c] => [a, b, c, time, zone]
    | _ => ws
  | _ => ws

/-- Sets the zone apart from the time, at the first sign; without one the zone is empty. -/
def cutZone (ws : List (List Char)) : List (List Char) :=
  match ws with
  | [a, b, c, time] =>
    let sign := if time.contains '+' then '+' else '-'
    let before := time.takeWhile (· ≠ sign)
    if before.isEmpty ∨ before.length = time.length then [a, b, c, time, []]
    else [a, b, c, before, time.drop before.length]
  | _ => ws

/-- The parts of a date before they are read. -/
structure Parts where
  day : List Char
  month : Nat
  year : List Char
  time : List Char
  zone : List Char

def dayMonth? (first second : List Char) : Option (List Char × Nat) :=
  let first' := (lower (String.ofList first)).toList
  let second' := (lower (String.ofList second)).toList
  match month? second' with
  | some m => some (first, m)
  | none => (month? first').map fun m => (second', m)

/-- Year, time and zone in their places: a word with a colon inside is the time, and a word that
starts with no digit is not the year. -/
def yearTimeZone? (year time zone : List Char) : Option (List Char × List Char × List Char) :=
  let colon := (year.takeWhile (· ≠ ':')).length
  let (year, time) := if 0 < colon ∧ colon < year.length then (time, year) else (year, time)
  match dropComma year with
  | [] => none
  | c :: rest =>
    let year := c :: rest
    if isDigitSort c then some (year, dropComma time, zone) else some (zone, dropComma time, year)

def parts? (s : String) : Option Parts :=
  match cutZone (cutHyphens (dropDayName (words s.toList))) with
  | day :: month :: year :: time :: zone :: _ =>
    if day.isEmpty ∨ month.isEmpty ∨ year.isEmpty then none
    else do
      let (day, month) ← dayMonth? day month
      let (year, time, zone) ← yearTimeZone? year time zone
      return ⟨dropComma day, month, year, time, zone⟩
  | _ => none

/-! ## Their values -/

/-- Hours, minutes and seconds of a time, whose parts are set apart by colons, or by points if there
is no colon. -/
def clockParts? (time : List Char) : Option (List Char × List Char × List Char) :=
  let parts := match fields ':' time with
    | [whole] => if whole.contains '.' then fields '.' whole else []
    | parts => parts
  match parts with
  | [h, m] => some (h, m, ['0'])
  | [h, m, s] => some (h, m, s)
  | _ => none

def number? (cs : List Char) : Option Int := whole? (String.ofList cs)

/-- A year of two digits lies between 1969 and 2068. -/
def fullYear (year : Int) : Int :=
  if year < 100 then if 68 < year then year + 1900 else year + 2000 else year

/-- The seconds of an offset given as hours and minutes. -/
def offsetSeconds (n : Int) : Int :=
  let size := n.natAbs
  let seconds : Int := ((size / 100 * 3600 + size % 100 * 60 : Nat) : Int)
  if n < 0 then -seconds else seconds

/-- The offset of a zone in seconds, if it tells one: `-0000` does not. -/
def zoneSeconds? (zone : List Char) : Option Int :=
  let zone := zone.flatMap capitals
  match namedZones.find? fun z => z.1 = String.ofList zone with
  | some z => some (offsetSeconds z.2)
  | none =>
    match number? zone with
    | none => none
    | some n => if n = 0 ∧ zone.head? = some '-' then none else some (offsetSeconds n)

/-- Whether a number fits a signed word of thirty-two bits. -/
def fitsWord (n : Int) : Bool := -0x80000000 ≤ n && n < 0x80000000

/-- The most days an offset may take up before its size is even looked at. -/
def mostOffsetDays : Int := 999999999

/-- Whether an offset has too many days to be held. -/
def isHugeOffset (seconds : Int) : Bool :=
  seconds.fdiv 86400 < -mostOffsetDays || mostOffsetDays < seconds.fdiv 86400

def secondsOf (date : Date) (hour minute second : Nat) (offset : Option Int) : Int :=
  ((date.number : Int) - epochDay) * 86400 + ((hour * 60 + minute) * 60 + second : Nat) -
    offset.getD 0

/-- The seconds from the epoch to the date of six numbers. Without an offset the clock shows universal
time, and then the first day of the calendar is out of reach. -/
def assemble (year : Int) (month : Nat) (day hour minute second : Int) (offset : Option Int) :
    Except Anomaly Int :=
  if offset.any isHugeOffset then .error (.tooLarge .datePart)
  else if offset.any (fun o => 86400 ≤ o.natAbs) then .error .badValue
  else if [year, day, hour, minute, second].any (fun n => !fitsWord n) then .error (.tooLarge .datePart)
  else if [year, day, hour, minute, second].any (fun n => n < 0) then .error .badValue
  else
    let date : Date := ⟨year.toNat, month, day.toNat⟩
    if date.isValid ∧ hour < 24 ∧ minute < 60 ∧ second < 60 then
      if offset.isNone ∧ date.number = 0 then .error .badValue
      else .ok (secondsOf date hour.toNat minute.toNat second.toNat offset)
    else .error .badValue

/-- The seconds from the epoch to the moment that a text tells. -/
def seconds (s : String) : Except Anomaly Int :=
  let numbers : Option (Parts × Int × Int × Int × Int × Int) := do
    let p ← parts? s
    let (hour, minute, second) ← clockParts? p.time
    let year ← number? p.year
    let day ← number? p.day
    let hour ← number? hour
    let minute ← number? minute
    let second ← number? second
    return (p, year, day, hour, minute, second)
  match numbers with
  | none => .error .badValue
  | some (p, year, day, hour, minute, second) =>
    assemble (fullYear year) p.month day hour minute second (zoneSeconds? p.zone)

end MailDate

end RepoCensus.Calendar
