import RepoCensus.Text.Utf8

/-!
# The encoding of a document

Which Unicode encoding a sequence of bytes is in, from its byte order mark or from the places of its
zero bytes, and its text.
-/

namespace RepoCensus.Json

open RepoCensus.Text

/-- The encodings of documents; the wide ones with the high byte first or last. -/
inductive Encoding where
  | narrow
  | sixteen (highFirst : Bool)
  | thirtyTwo (highFirst : Bool)
deriving Repr, DecidableEq

/-- The encoding of a document and the bytes after its byte order mark. -/
def detect : List UInt8 → Encoding × List UInt8
  | 0x00 :: 0x00 :: 0xfe :: 0xff :: rest => (.thirtyTwo true, rest)
  | 0xff :: 0xfe :: 0x00 :: 0x00 :: rest => (.thirtyTwo false, rest)
  | 0xfe :: 0xff :: rest => (.sixteen true, rest)
  | 0xff :: 0xfe :: rest => (.sixteen false, rest)
  | 0xef :: 0xbb :: 0xbf :: rest => (.narrow, rest)
  | a :: b :: c :: d :: rest =>
    let all := a :: b :: c :: d :: rest
    if a = 0 then (if b = 0 then .thirtyTwo true else .sixteen true, all)
    else if b = 0 then (if c = 0 ∧ d = 0 then .thirtyTwo false else .sixteen false, all)
    else (.narrow, all)
  | [a, b] =>
    if a = 0 then (.sixteen true, [a, b])
    else if b = 0 then (.sixteen false, [a, b])
    else (.narrow, [a, b])
  | bs => (.narrow, bs)

def unit16 (highFirst : Bool) (a b : UInt8) : Nat :=
  if highFirst then a.toNat * 256 + b.toNat else b.toNat * 256 + a.toNat

/-- The units of sixteen bits of a sequence of bytes. -/
def units16? (highFirst : Bool) : List UInt8 → Option (List Nat)
  | [] => some []
  | [_] => none
  | a :: b :: rest => (units16? highFirst rest).map (unit16 highFirst a b :: ·)

def isHighHalf (n : Nat) : Bool := 0xd800 ≤ n && n < 0xdc00

def isLowHalf (n : Nat) : Bool := 0xdc00 ≤ n && n < 0xe000

def joinHalves (high low : Nat) : Char :=
  Char.ofNat (0x10000 + (high - 0xd800) * 0x400 + (low - 0xdc00))

/-- The character of a code. There is no character for a half without its partner, which becomes the
replacement character; texts that differ only in such halves are read alike. -/
def charOfUnit (n : Nat) : Char :=
  if isHighHalf n || isLowHalf n then Char.ofNat 0xfffd else Char.ofNat n

def ofUnits16 : List Nat → List Char
  | [] => []
  | [n] => [charOfUnit n]
  | n :: m :: rest =>
    if isHighHalf n && isLowHalf m then joinHalves n m :: ofUnits16 rest
    else charOfUnit n :: ofUnits16 (m :: rest)

def ofUnits32? (highFirst : Bool) : List UInt8 → Option (List Char)
  | [] => some []
  | a :: b :: c :: d :: rest =>
    let n := if highFirst then unit16 true a b * 65536 + unit16 true c d
      else unit16 false c d * 65536 + unit16 false a b
    if n < 0x110000 then (ofUnits32? highFirst rest).map (charOfUnit n :: ·) else none
  | _ => none

def textOf? (bytes : List UInt8) : Option (List Char) :=
  match detect bytes with
  | (.narrow, rest) => Utf8.decode? rest
  | (.sixteen highFirst, rest) => (units16? highFirst rest).map ofUnits16
  | (.thirtyTwo highFirst, rest) => ofUnits32? highFirst rest

end RepoCensus.Json
