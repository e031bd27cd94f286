import RepoCensus.Client.AddressFlaw
import RepoCensus.Client.HostName.Flaw
import RepoCensus.Json.Basic

/-!
# Values out of reach

What can go wrong with a single value before any rule of this library looks at it.
-/

namespace RepoCensus

open RepoCensus.Text

/-- What a number can be too large for. -/
inductive Bound where
  | double
  | quotient
  /-- A whole number: an infinity is too large for any. -/
  | whole
  | clock
  | datePart
  | index
deriving Repr, DecidableEq

inductive Anomaly where
  /-- A number is too large for what is to hold it. -/
  | tooLarge (bound : Bound)
  /-- A text or number has no meaning where it stands. -/
  | badValue
  | undefined
  | badYear (year : Int)
  /-- A number has more digits than may be written. -/
  | tooManyDigits (most : Nat)
  /-- A value is of a kind that cannot be used there. -/
  | badType
  /-- A value has no parts where parts are looked for. -/
  | noParts
  /-- A time is beyond what the system's calendar can express. -/
  | beyondCalendar
  | noTime
  | noMemory
  /-- Values are inside of each other deeper than they can be followed. -/
  | tooDeep (nest : Nest)
  | badAddress (why : AddressFlaw)
  | noScheme (address : String)
  /-- Brackets do not stand around the whole host of an address. -/
  | badBrackets
  /-- What stands between brackets is no address of a machine. -/
  | noMachine (text : String)
  | badHost (why : HostName.Flaw)
  /-- A text that is to go over the wire is not ASCII. -/
  | notAscii (text : String)
deriving Repr, DecidableEq

/-! ## Texts that are not ASCII -/

def isAscii (c : Char) : Bool := c.toNat < 128

def asciiEscape (c : Char) : List Char :=
  let n := c.toNat
  if n < 0x100 then '\\' :: 'x' :: hexDigits 2 n
  else if n < 0x10000 then '\\' :: 'u' :: hexDigits 4 n
  else '\\' :: 'U' :: hexDigits 8 n

/-- The characters of a text that are in the way of ASCII: the first one, or the first few side by
side. -/
def notAsciiText (text : String) : String :=
  let cs := text.toList
  let start := (cs.takeWhile isAscii).length
  let run := (cs.drop start).takeWhile (! isAscii ·)
  let last := start + run.length - 1
  let what := match run with
    | [c] => " '" ++ String.ofList (asciiEscape c) ++ s!"' in position {start}"
    | _ => s!"s in position {start}-{last}"
  "'ascii' codec can't encode character" ++ what ++ ": ordinal not in range(128)"

/-! ## Labels and texts -/

namespace Anomaly

def label : Anomaly → String
  | tooLarge _ => "OverflowError"
  | badValue | undefined | badYear _ | tooManyDigits _ | noTime | noScheme _ | badBrackets
  | noMachine _ => "ValueError"
  | badType => "TypeError"
  | noParts => "AttributeError"
  | beyondCalendar => "OSError"
  | noMemory => "MemoryError"
  | tooDeep _ => "RecursionError"
  | badAddress _ => "InvalidURL"
  | badHost why => why.label
  | notAscii _ => "UnicodeEncodeError"

def boundText : Bound → String
  | .double => "int too large to convert to float"
  | .quotient => "integer division result too large for a float"
  | .whole => "cannot convert float infinity to integer"
  | .clock => "timestamp out of range for platform time_t"
  | .datePart => "signed integer is greater than maximum"
  | .index => "cannot fit 'int' into an index-sized integer"

def nestText : Nest → String
  | .array => " while decoding a JSON array from a unicode string"
  | .object => " while decoding a JSON object from a unicode string"
  | .written => ""

def text? : Anomaly → Option String
  | tooLarge bound => some (boundText bound)
  | undefined => some "cannot convert float NaN to integer"
  | badYear year => some s!"year {year} is out of range"
  | tooManyDigits most =>
    some (s!"Exceeds the limit ({most} digits) for integer string conversion; " ++
      "use sys.set_int_max_str_digits() to increase the limit")
  | beyondCalendar => some "[Errno 75] Value too large for defined data type"
  | noTime => some "Invalid value NaN (not a number)"
  | noMemory => some ""
  | tooDeep nest => some ("maximum recursion depth exceeded" ++ nestText nest)
  | badAddress why => some why.message
  | noScheme address => some ("unknown url type: " ++ quoted address)
  | badBrackets => some "Invalid IPv6 URL"
  | noMachine text => some (quoted text ++ " does not appear to be an IPv4 or IPv6 address")
  | notAscii text => some (notAsciiText text)
  | badValue | badType | noParts | badHost _ => none

def bare (label : String) : String := "<" ++ label ++ ">"

def message (a : Anomaly) : String := a.text?.getD (bare a.label)

end Anomaly

end RepoCensus
