import RepoCensus.Client.Compression.Inflate

/-!
# Compressed data with a header

Compressed blocks between a header and a checksum, in one of two forms, or without either. Data that end
too early are put out as far as they go; what follows the end is left alone.
-/

namespace RepoCensus.Compression

/-! ## Checksums

Numbers that tell, most of the time, whether data have changed: the remainder of the data as a polynomial, and
two sums of its bytes.
-/

/-- The divisor, the coefficient of the highest power last and that of the power after it left out. -/
def divisor : UInt32 := 0xedb88320

def remainderBit (r : UInt32) : UInt32 := if r &&& 1 = 1 then (r >>> 1) ^^^ divisor else r >>> 1

def remainderByte (r : UInt32) (b : UInt8) : UInt32 :=
  (List.range 8).foldl (fun r _ => remainderBit r) (r ^^^ b.toUInt32)

def remainderSum (bytes : List UInt8) : Nat :=
  ((bytes.foldl remainderByte 0xffffffff) ^^^ 0xffffffff).toNat

def sumModulus : Nat := 65521

/-- The checksum by two sums: that of the bytes, and that of all sums of bytes on the way. -/
def doubleSum (bytes : List UInt8) : Nat :=
  let (low, high) := bytes.foldl (fun (low, high) b =>
    let low := (low + b.toNat) % sumModulus
    (low, (high + low) % sumModulus)) (1, 0)
  high * 0x10000 + low

/-! ## Forms -/

inductive Form where
  /-- A long header, and at the end a checksum by remainder and the length. -/
  | file
  /-- A short header, and at the end a checksum by sums. -/
  | stream
  | bare
deriving Repr, DecidableEq

/-! ## Bytes -/

/-- The number that bytes make, the lowest one first. -/
def littleEndian (bytes : List UInt8) : Nat := bytes.foldr (fun b n => b.toNat + 256 * n) 0

/-- The next bytes of a header, and what follows them; no bytes, no header. -/
def headerBytes (count : Nat) (bytes : List UInt8) : Except Stop (List UInt8 × List UInt8) :=
  if bytes.length < count then .error (.unfinished #[])
  else .ok (bytes.take count, bytes.drop count)

/-- What follows a text in a header that ends with a zero. -/
def afterText (bytes : List UInt8) : Except Stop (List UInt8) := do
  let text := bytes.takeWhile (· ≠ 0)
  return (← headerBytes (text.length + 1) bytes).2

/-! ## Headers -/

def ifFlag (flags bit : Nat) (skip : List UInt8 → Except Stop (List UInt8)) (bytes : List UInt8) :
    Except Stop (List UInt8) :=
  if flags / bit % 2 = 1 then skip bytes else .ok bytes

/-- What follows a field of a header that starts with its length. -/
def afterField (bytes : List UInt8) : Except Stop (List UInt8) := do
  let (length, bytes) ← headerBytes 2 bytes
  return (← headerBytes (littleEndian length) bytes).2

def afterHeaderChecksum (all bytes : List UInt8) : Except Stop (List UInt8) := do
  let (told, rest) ← headerBytes 2 bytes
  let header := all.take (all.length - bytes.length)
  if littleEndian told ≠ remainderSum header % 0x10000 then .error (.damaged .headerChecksum)
  return rest

def afterFileHeader (all : List UInt8) : Except Stop (List UInt8) := do
  let (mark, bytes) ← headerBytes 2 all
  if mark ≠ [0x1f, 0x8b] then .error (.damaged .header)
  let (kind, bytes) ← headerBytes 2 bytes
  let flags := littleEndian (kind.drop 1)
  if kind.head? ≠ some 8 then .error (.damaged .method)
  if 32 ≤ flags then .error (.damaged .headerFlags)
  let (_, bytes) ← headerBytes 6 bytes
  let bytes ← ifFlag flags 4 afterField bytes
  let bytes ← ifFlag flags 8 afterText bytes
  let bytes ← ifFlag flags 16 afterText bytes
  ifFlag flags 2 (afterHeaderChecksum all) bytes

def afterStreamHeader (bytes : List UInt8) : Except Stop (List UInt8) := do
  let (header, rest) ← headerBytes 2 bytes
  let low := littleEndian (header.take 1)
  let high := littleEndian (header.drop 1)
  if (256 * low + high) % 31 ≠ 0 then .error (.damaged .header)
  if low % 16 ≠ 8 then .error (.damaged .method)
  if 7 < low / 16 then .error (.damaged .window)
  if high / 32 % 2 = 1 then
    let _ ← headerBytes 4 rest
    .error (.damaged .dictionary)
  return rest

def Form.afterHeader : Form → List UInt8 → Except Stop (List UInt8)
  | .file => afterFileHeader
  | .stream => afterStreamHeader
  | .bare => .ok

/-! ## Ends -/

/-- A number at the end of the data, which must be what it should be. -/
def checkEnd (why : Damage) (expected : Nat) (out : Output) (bits : List Bool) :
    Except Stop (List Bool) := do
  let (told, bits) ← next out 32 bits
  if told ≠ expected then .error (.damaged why)
  return bits

/-- The bytes of a number of thirty-two bits in the other order. -/
def swapped (n : Nat) : Nat :=
  ((n % 0x100 * 0x100 + n / 0x100 % 0x100) * 0x100 + n / 0x10000 % 0x100) * 0x100 + n / 0x1000000

def Form.checkEnd (form : Form) (out : Output) (bits : List Bool) : Except Stop Unit :=
  match form with
  | .file => do
    let bits ← Compression.checkEnd .checksum (remainderSum out.toList) out bits
    let _ ← Compression.checkEnd .length (out.size % 0x100000000) out bits
  | .stream => do
    let _ ← Compression.checkEnd .checksum (swapped (doubleSum out.toList)) out bits
  | .bare => .ok ()

/-! ## All together -/

def unpackWhole (form : Form) (bytes : List UInt8) : Except Stop Output := do
  let rest ← form.afterHeader bytes
  let (out, bits) ← inflate (bitsOfBytes rest)
  form.checkEnd out bits
  return out

def unpack (form : Form) (bytes : List UInt8) : Except Damage (List UInt8) :=
  match unpackWhole form bytes with
  | .ok out => .ok out.toList
  | .error (.unfinished out) => .ok out.toList
  | .error (.damaged why) => .error why

end RepoCensus.Compression
