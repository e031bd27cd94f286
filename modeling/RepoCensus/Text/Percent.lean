import RepoCensus.Json.Reader
import RepoCensus.Text.Fields
import RepoCensus.Text.Utf8

/-!
# Percent escapes

A text in which some characters stand for themselves and the bytes of all others are written as `%C3`,
and the text that such a text stands for.
-/

namespace RepoCensus.Text.Percent

/-- The upper-case hexadecimal digit of a value below sixteen. -/
def digit (n : Nat) : Char := Char.ofNat (if n < 10 then 48 + n else 55 + n)

def escapedByte (b : UInt8) : List Char := ['%', digit (b.toNat / 16), digit (b.toNat % 16)]

def escapedChar (c : Char) : List Char :=
  (String.singleton c).toUTF8.toList.flatMap escapedByte

/-- A text with all characters escaped that do not stand for themselves. -/
def escape (standsForItself : Char → Bool) (cs : List Char) : List Char :=
  cs.flatMap fun c => if standsForItself c then [c] else escapedChar c

/-- The bytes that a text stands for. A percent sign that starts no escape stands for itself. -/
def bytesOf : List Char → List UInt8
  | '%' :: a :: b :: rest =>
    match Json.hexValue? a, Json.hexValue? b with
    | some h, some l => UInt8.ofNat (16 * h + l) :: bytesOf rest
    | _, _ => 37 :: bytesOf (a :: b :: rest)
  | c :: rest => (String.singleton c).toUTF8.toList ++ bytesOf rest
  | [] => []

def unescape (cs : List Char) : List Char := Utf8.decodeReplacing (bytesOf cs)

/-- The text that a text stands for in which a plus sign is a blank. -/
def unescapeForm (cs : List Char) : List Char :=
  unescape (cs.map fun c => if c = '+' then ' ' else c)

/-! ## Forms -/

/-- A letter, digit or mark that never needs an escape. -/
def isUnreserved (c : Char) : Bool := c.isAlphanum || ['-', '.', '_', '~'].contains c

/-- A text of a form: blanks become plus signs, and all but unreserved characters are escaped. -/
def escapeForm (cs : List Char) : List Char :=
  cs.flatMap fun c => if c = ' ' then ['+'] else if isUnreserved c then [c] else escapedChar c

/-- The fields of a form as they stand behind the question mark of an address. -/
def form (fields : List (String × String)) : List Char :=
  joined '&' (fields.map fun f => escapeForm f.1.toList ++ '=' :: escapeForm f.2.toList)

end RepoCensus.Text.Percent
