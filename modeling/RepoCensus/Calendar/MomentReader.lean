import RepoCensus.Calendar.Moment

/-!
# Reading moments

Dates as `YYYY-MM-DD`, `YYYYMMDD` or by week, then any one character, then a time of day of two to six
digits or more, with or without colons, and an offset. The reader is lenient where a zone follows: what
is left over between the time and its zone does not count.
-/

namespace RepoCensus.Calendar

open RepoCensus.Numeral

/-- The number that the first `width` characters spell as decimal digits, and what follows. -/
def takeDigits? : Nat → List Char → Option (Nat × List Char)
  | width, cs =>
    let ds := cs.take width
    if ds.length = width ∧ ds.all Char.isDigit then
      some (ds.foldl (fun n c => 10 * n + (c.toNat - 48)) 0, cs.drop width)
    else none

/-! ## Dates -/

/-- The place of a date's separator: how many characters belong to the date. -/
def dateLength (cs : List Char) : Nat :=
  let n := cs.length
  let at? (i : Nat) (p : Char → Bool) : Bool := (cs[i]?.map p).getD false
  if n = 7 then 7
  else if at? 4 (· = '-') then
    if at? 5 (· = 'W') then
      if at? 8 (· = '-') then
        -- a digit at place ten means that the hyphen at place eight is the separator
        if at? 10 Char.isDigit then 8 else 10
      else 8
    else 10
  else if at? 4 (· = 'W') then
    let digits := 7 + ((cs.drop 7).takeWhile Char.isDigit).length
    if digits < 9 then digits else if digits % 2 = 0 then 7 else 8
  else 8

/-- The number of the Monday of a year's first week, which is the week of the fourth of January. -/
def firstMonday (year : Nat) : Int :=
  let first : Int := (⟨year, 1, 1⟩ : Date).number
  let weekday := first % 7
  if 3 < weekday then first - weekday + 7 else first - weekday

def hasLongYear (year : Nat) : Bool :=
  let weekday := (⟨year, 1, 1⟩ : Date).weekday
  weekday = 3 || (weekday = 2 && isLeap year)

def ofWeek? (year week day : Nat) : Option Date :=
  if year < leastYear ∨ greatestYear < year then none
  else if week = 0 ∨ 53 < week ∨ (week = 53 ∧ hasLongYear year = false) then none
  else if day = 0 ∨ 7 < day then none
  else
    let n := firstMonday year + ((week - 1) * 7 + (day - 1) : Nat)
    if n < 0 then none else some (Date.ofNumber n.toNat)

/-- The rest of a text after one expected character. -/
def afterChar? (c : Char) : List Char → Option (List Char)
  | [] => none
  | d :: rest => if d = c then some rest else none

/-- A date given by year and week, with or without its day of the week. -/
def readWeek? (year : Nat) (hyphens : Bool) (cs : List Char) : Option Date := do
  let (week, rest) ← takeDigits? 2 cs
  if rest.isEmpty then ofWeek? year week 1
  else
    let rest ← if hyphens then afterChar? '-' rest else some rest
    let (day, _) ← takeDigits? 1 rest
    ofWeek? year week day

def readMonth? (year : Nat) (hyphens : Bool) (cs : List Char) : Option Date := do
  let (month, rest) ← takeDigits? 2 cs
  let rest ← if hyphens then afterChar? '-' rest else some rest
  let (day, _) ← takeDigits? 2 rest
  return ⟨year, month, day⟩

/-- The date that the characters before the separator spell. -/
def readDate? (cs : List Char) : Option Date := do
  let (year, rest) ← takeDigits? 4 cs
  let hyphens := rest.head? = some '-'
  let rest := if hyphens then rest.drop 1 else rest
  match rest with
  | 'W' :: rest => readWeek? year hyphens rest
  | rest => readMonth? year hyphens rest

/-! ## Times of day -/

/-- What was read of a time of day. -/
structure Clock where
  hour : Nat
  minute : Nat
  second : Nat
  micro : Nat
  complete : Bool

def millionths (ds : List Char) : Nat :=
  (ds ++ List.replicate (6 - ds.length) '0').foldl (fun n c => 10 * n + (c.toNat - 48)) 0

/-- Decimals of a second: up to six count, further ones are dropped. -/
def readDecimals? (cs : List Char) : Option (Nat × Bool) :=
  let ds := cs.take 6
  if ds.all Char.isDigit then
    let rest := (cs.drop 6).dropWhile Char.isDigit
    some (millionths ds, rest.isEmpty || rest.head? = some (Char.ofNat 0))
  else none

/-- Whether a character that is left over ends the text all the same. -/
def endsText (c : Char) : Bool := c = Char.ofNat 0

/-- The parts of a time of day that were read, the first part first, then its decimals. -/
def Clock.ofParts (parts : List Nat) (micro : Nat) (complete : Bool) : Clock :=
  ⟨parts.getD 0 0, parts.getD 1 0, parts.getD 2 0, micro, complete⟩

/-- Reads the remaining `left` parts of a time of day; `parts` were read already. With `colons` the
parts are set apart by colons, which the first part decides. -/
def readClockFrom? (colons : Bool) (parts : List Nat) : Nat → List Char → Option Clock
  | 0, cs => do
    let (micro, complete) ← readDecimals? cs
    return .ofParts parts micro complete
  | left + 1, cs => do
    let (part, rest) ← takeDigits? 2 cs
    let parts' := parts ++ [part]
    match rest with
    | [] => return .ofParts parts' 0 true
    | [c] => if c.toNat < 128 then return .ofParts parts' 0 (endsText c) else none
    | c :: rest =>
      let colons := if parts.isEmpty then c = ':' else colons
      if colons && c = ':' then readClockFrom? colons parts' left rest
      else if c = '.' ∨ c = ',' then do
        let (micro, complete) ← readDecimals? rest
        return .ofParts parts' micro complete
      else if colons then none
      else readClockFrom? colons parts' left (c :: rest)

/-- Reads a time of day: up to three parts of two digits and decimals. -/
def readClock? (cs : List Char) : Option Clock := readClockFrom? true [] 3 cs

def isZoneSign (c : Char) : Bool := c = '+' || c = '-'

/-- The offset of a zone, its sign already read. Whole seconds of zero make it zero. -/
def readOffset? (west : Bool) (cs : List Char) : Option Int := do
  let clock ← readClock? cs
  if clock.complete then
    let seconds : Nat := clock.hour * 3600 + clock.minute * 60 + clock.second
    let size : Int := if seconds = 0 then 0 else ((seconds * 1000000 + clock.micro : Nat) : Int)
    return if west then -size else size
  else none

def readTime? (cs : List Char) : Option (Clock × Option Int) := do
  let clock ← readClock? (cs.takeWhile fun c => !isZoneSign c)
  match cs.dropWhile fun c => !isZoneSign c with
  | [] => if clock.complete then return (clock, none) else none
  | sign :: zone =>
    let offset ← readOffset? (sign = '-') zone
    return (clock, some offset)

/-! ## Moments -/

/-- A moment with a time of day, if there is such a moment. -/
def Moment.make? (date : Date) (clock : Clock) (offset : Option Int) : Option Moment :=
  let m : Moment := ⟨date, clock.hour, clock.minute, clock.second, clock.micro, offset⟩
  if m.isValid then some m else none

/-- The moment that a text spells; without a time of day it is midnight. -/
def Moment.read? (cs : List Char) : Option Moment := do
  if cs.length < 7 then none
  else
    let length := dateLength cs
    let date ← readDate? (cs.take length)
    match cs.drop length with
    | [] => Moment.make? date ⟨0, 0, 0, 0, true⟩ none
    | _ :: time =>
      let (clock, offset) ← readTime? time
      Moment.make? date clock offset

/-- A text in which `Z` is written as the offset that it stands for. -/
def zuluWritten (cs : List Char) : List Char :=
  cs.flatMap fun c => if c = 'Z' then ['+', '0', '0', ':', '0', '0'] else [c]

def Moment.ofStamp? (s : String) : Option Moment := Moment.read? (zuluWritten s.toList)

end RepoCensus.Calendar
