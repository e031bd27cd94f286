import RepoCensus.Calendar.MailDate

/-!
# Dates written loosely

Dates such as `Wed, 09 Feb 1994 22:23:32 GMT`, `08-Feb-94 14:15:29` or `9 Feb 1994`, by which cookies
end. The day of the week, the time and the zone may be missing; what is written must be in this order
and nothing may be left over.
-/

namespace RepoCensus.Calendar

open RepoCensus.Numeral RepoCensus.Text

namespace LooseDate

/-! ## Characters -/

def isSpace (c : Char) : Bool := c = ' ' || (9 ≤ c.toNat && c.toNat ≤ 13)

def isWordChar (c : Char) : Bool := c.isAlphanum || c = '_'

def skipped (cs : List Char) : List Char := cs.dropWhile isSpace

/-- The digits at the start of a text, up to so many of them, and what follows. -/
def digitsUpTo (most : Nat) (cs : List Char) : List Char × List Char :=
  let ds := (cs.take most).takeWhile Char.isDigit
  (ds, cs.drop ds.length)

/-- What follows the blanks, the hyphen or the slash between two parts of a date. -/
def afterGap? : List Char → Option (List Char)
  | [] => none
  | c :: cs =>
    if isSpace c then some (skipped cs) else if c = '-' || c = '/' then some cs else none

/-- A part of a date that is not empty, and what follows it. -/
def part? (isOf : Char → Bool) (cs : List Char) : Option (List Char × List Char) :=
  let part := cs.takeWhile isOf
  if part.isEmpty then none else some (part, cs.drop part.length)

def pair? : List Char → Option (List Char × List Char)
  | a :: b :: cs => if a.isDigit && b.isDigit then some ([a, b], cs) else none
  | _ => none

/-! ## Parts -/

/-- The parts of a date before they are read; a clock that is missing shows nothing. -/
structure Parts where
  day : List Char
  month : List Char
  year : List Char
  hour : List Char
  minute : List Char
  second : List Char
  zone : Option (List Char)
deriving Repr, DecidableEq

def dayNames : List (List Char) := MailDate.dayNames.map String.toList

/-- A text without the day of the week, its comma and the blanks behind it. -/
def withoutWeekday (cs : List Char) : List Char :=
  if dayNames.contains ((cs.take 3).map Char.toLower) then
    let rest := (cs.drop 3).dropWhile Char.isAlpha
    skipped (if rest.head? = some ',' then rest.drop 1 else rest)
  else cs

/-- Hours and minutes, and seconds if there are any, and what follows them. -/
def clock? (cs : List Char) : Option ((List Char × List Char × List Char) × List Char) := do
  let cs ← match cs with
    | ':' :: cs => some cs
    | c :: cs => if isSpace c then some (skipped cs) else none
    | [] => none
  let (hour, cs) := digitsUpTo 2 cs
  match hour, cs with
  | _ :: _, ':' :: cs =>
    let (minute, cs) ← pair? cs
    match cs with
    | ':' :: later =>
      match pair? later with
      | some (second, rest) => return ((hour, minute, second), rest)
      | none => return ((hour, minute, []), cs)
    | _ => return ((hour, minute, []), cs)
  | _, _ => none

/-- The zone at the start of a text, if there is one, and what follows it: a number of two to four digits
with or without a sign, or a word that does not tell the half of the day. -/
def cutZone (cs : List Char) : Option (List Char) × List Char :=
  let sign := cs.take 1 |>.takeWhile fun c => c = '+' || c = '-'
  let (ds, rest) := digitsUpTo 4 (cs.drop sign.length)
  if 2 ≤ ds.length then (some (sign ++ ds), rest)
  else
    let word := cs.takeWhile Char.isAlpha
    if word.isEmpty || [['a', 'm'], ['p', 'm']].contains (word.map Char.toLower) then (none, cs)
    else (some word, cs.drop word.length)

/-- What follows a remark in parentheses, or the text if there is none. -/
def afterRemark (cs : List Char) : List Char :=
  match cs with
  | '(' :: inner =>
    let word := inner.takeWhile isWordChar
    match inner.drop word.length with
    | ')' :: rest => if word.isEmpty then cs else skipped rest
    | _ => cs
  | _ => cs

def parts? (cs : List Char) : Option Parts := do
  let (day, cs) := digitsUpTo 2 (withoutWeekday (trimStart cs))
  if day.isEmpty then none
  let (month, cs) ← part? isWordChar (← afterGap? cs)
  let (year, cs) ← part? Char.isDigit (← afterGap? cs)
  let ((hour, minute, second), cs) := (clock? cs).getD (([], [], []), cs)
  let (zone, cs) := cutZone (skipped cs)
  if (afterRemark (skipped cs)).isEmpty then
    some ⟨day, month, year, hour, minute, second, zone⟩
  else none

/-! ## Values -/

/-- A number from its digits; nothing counts as zero. -/
def valueOf (cs : List Char) : Nat := ((natural? cs).getD 0)

/-- The number of a month that is named, or told by a number. -/
def month? (cs : List Char) : Option Nat :=
  match MailDate.placeOf? (String.ofList (cs.map Char.toLower)) MailDate.shortMonths with
  | some m => some m
  | none =>
    match MailDate.number? cs with
    | some n => if 1 ≤ n && n ≤ 12 then some n.toNat else none
    | none => none

/-- A year of less than four digits lies within fifty years of the current one. -/
def fullYear (current year : Nat) : Nat :=
  if year < 1000 then
    let place := current % 100
    let full := year + (current - place)
    if place + 50 < year then full - 100 else if year + 50 < place then full + 100 else full
  else year

/-- The offset of a zone in seconds: a name of universal time, or hours with or without minutes. -/
def zoneSeconds? (zone : List Char) : Option Int :=
  let zone := zone.map Char.toUpper
  if ["GMT", "UTC", "UT", "Z"].contains (String.ofList zone) then some 0
  else
    let digits := zone.filter Char.isDigit
    if digits.isEmpty then none
    else
      let hours := digits.length - (if digits.length = 2 then 0 else 2)
      let size : Int := 3600 * valueOf (digits.take hours) + 60 * valueOf (digits.drop hours)
      some (if zone.head? = some '-' then -size else size)

/-- The seconds from the epoch to a date and time. The years before the epoch do not count, a month may
have thirty-one days, and a minute a second more than any. -/
def secondsOf? (year month day hour minute second : Nat) : Option Int :=
  if 1970 ≤ year && year ≤ greatestYear && 1 ≤ day && day ≤ 31 && hour ≤ 24 && minute < 60 &&
      second ≤ 61 then
    some (MailDate.secondsOf ⟨year, month, day⟩ hour minute second none)
  else none

/-! ## The exact form -/

def monthLetters : List Char := ['J', 'F', 'M', 'A', 'S', 'O', 'N', 'D']

/-- The form in which every character has its place, `Wed, 09 Feb 1994 22:23:32 GMT`: day, month, year,
hours, minutes and seconds. -/
def exactParts? (cs : List Char) : Option Parts :=
  match cs with
  | [w, x, y, ',', ' ', d, d', ' ', m, n, o, ' ', a, b, c, c', ' ', h, h', ':', i, i', ':', s, s',
      ' ', 'G', 'M', 'T'] =>
    if ['S', 'M', 'T', 'W', 'F'].contains w && [x, y, n, o].all Char.isLower &&
        monthLetters.contains m && [d, d', a, b, c, c', h, h', i, i', s, s'].all Char.isDigit then
      some ⟨[d, d'], [m, n, o], [a, b, c, c'], [h, h'], [i, i'], [s, s'], none⟩
    else none
  | _ => none

/-- Whether a date has the exact form but names no month. -/
def isGarbled (cs : List Char) : Bool :=
  (exactParts? cs).any fun p => (month? p.month).isNone

/-- The seconds from the epoch to the date that a text tells, if it tells one. -/
def seconds? (current : Nat) (cs : List Char) : Option Int :=
  match exactParts? cs with
  | some p => do
    let month ← month? p.month
    secondsOf? (valueOf p.year) month (valueOf p.day) (valueOf p.hour) (valueOf p.minute)
      (valueOf p.second)
  | none => do
    let p ← parts? cs
    let month ← month? p.month
    let year ← natural? p.year
    let seconds ← secondsOf? (fullYear current year) month (valueOf p.day) (valueOf p.hour)
      (valueOf p.minute) (valueOf p.second)
    return seconds - (← zoneSeconds? (p.zone.getD ['Z']))

end LooseDate

end RepoCensus.Calendar
