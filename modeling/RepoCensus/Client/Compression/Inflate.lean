import RepoCensus.Client.Compression.Code
import RepoCensus.Client.Compression.Damage

/-!
# Compressed blocks

Data in blocks, each of them plain or made of code words. A word stands for a letter, or tells to copy
what stands some distance back.
-/

namespace RepoCensus.Compression

/-! ## Bits

A sequence of bytes as a sequence of bits, the lowest bit of each byte first, and numbers read from it.
-/

/-- The lowest `count` bits of a number, the lowest one first. -/
def bitsOf : (count n : Nat) → List Bool
  | 0, _ => []
  | count + 1, n => (n % 2 = 1) :: bitsOf count (n / 2)

def bitsOfBytes (bytes : List UInt8) : List Bool := bytes.flatMap fun b => bitsOf 8 b.toNat

/-- The number that is made of some bits, the lowest one first. -/
def numberOf : List Bool → Nat
  | [] => 0
  | b :: rest => b.toNat + 2 * numberOf rest

/-- The number that the next `count` bits make, and what follows them; none if there are not so
many. -/
def number? (count : Nat) (bits : List Bool) : Option (Nat × List Bool) :=
  let taken := bits.take count
  if taken.length < count then none else some (numberOf taken, bits.drop count)

/-- What is left of a sequence of bits from the next whole byte on. -/
def nextByte (bits : List Bool) : List Bool := bits.drop (bits.length % 8)

/-! ## Output -/

abbrev Output := Array UInt8

inductive Stop where
  | unfinished (out : Output)
  | damaged (why : Damage)

/-- The output so far and the bits to come, unless there is no more. -/
abbrev Progress := Except Stop (Output × List Bool)

def orUnfinished {α : Type} (out : Output) : Option α → Except Stop α
  | some a => .ok a
  | none => .error (.unfinished out)

def next (out : Output) (count : Nat) (bits : List Bool) : Except Stop (Nat × List Bool) :=
  orUnfinished out (number? count bits)

/-! ## Plain blocks -/

def plainBytes : (count : Nat) → Output → List Bool → Progress
  | 0, out, bits => .ok (out, bits)
  | count + 1, out, bits => do
    let (byte, bits) ← next out 8 bits
    plainBytes count (out.push (UInt8.ofNat byte)) bits

/-- A plain block, which starts at a whole byte with its length. -/
def plainBlock (out : Output) (bits : List Bool) : Progress := do
  let (lengths, bits) ← next out 32 (nextByte bits)
  let length := lengths % 0x10000
  if length + lengths / 0x10000 ≠ 0xffff then .error (.damaged .plainLength)
  plainBytes length out bits

/-! ## Code words -/

/-- Base values, each with the number of bits that tell what is to be added. -/
abbrev Steps := List (Nat × Nat)

def lengthSteps : Steps :=
  [(3, 0), (4, 0), (5, 0), (6, 0), (7, 0), (8, 0), (9, 0), (10, 0), (11, 1), (13, 1), (15, 1),
   (17, 1), (19, 2), (23, 2), (27, 2), (31, 2), (35, 3), (43, 3), (51, 3), (59, 3), (67, 4), (83, 4),
   (99, 4), (115, 4), (131, 5), (163, 5), (195, 5), (227, 5), (258, 0)]

def distanceSteps : Steps :=
  [(1, 0), (2, 0), (3, 0), (4, 0), (5, 1), (7, 1), (9, 2), (13, 2), (17, 3), (25, 3), (33, 4),
   (49, 4), (65, 5), (97, 5), (129, 6), (193, 6), (257, 7), (385, 7), (513, 8), (769, 8), (1025, 9),
   (1537, 9), (2049, 10), (3073, 10), (4097, 11), (6145, 11), (8193, 12), (12289, 12), (16385, 13),
   (24577, 13)]

def stepValue (why : Damage) (steps : Steps) (n : Nat) (out : Output) (bits : List Bool) :
    Except Stop (Nat × List Bool) :=
  match steps[n]? with
  | none => .error (.damaged why)
  | some (base, extra) => do
    let (more, bits) ← next out extra bits
    return (base + more, bits)

def symbol (why : Damage) (code : Code) (out : Output) (bits : List Bool) :
    Except Stop (Nat × List Bool) :=
  match code.word bits with
  | .symbol s rest => .ok (s, rest)
  | .unknown _ => .error (.damaged why)
  | .unfinished => .error (.unfinished out)

/-- Puts out once more what stands some distance back, byte by byte. -/
def copyBack (distance : Nat) : (length : Nat) → Output → Output
  | 0, out => out
  | length + 1, out =>
    copyBack distance length (out.push (out[out.size - distance]?.getD 0))

/-- The symbol of the end of a block; letters come before it and lengths after it. -/
def endSymbol : Nat := 256

/-- The part of a block from a word for a length on. -/
def copyWord (distances : Code) (s : Nat) (out : Output) (bits : List Bool) : Progress := do
  let (length, bits) ← stepValue .letter lengthSteps (s - endSymbol - 1) out bits
  let (d, bits) ← symbol .distance distances out bits
  let (distance, bits) ← stepValue .distance distanceSteps d out bits
  if out.size < distance then .error (.damaged .tooFarBack)
  return (copyBack distance length out, bits)

/-- The words of a block up to its end, of which there are at most `fuel`. -/
def words (letters distances : Code) : (fuel : Nat) → Output → List Bool → Progress
  | 0, out, _ => .error (.unfinished out)
  | fuel + 1, out, bits => do
    let (s, bits) ← symbol .letter letters out bits
    if s < endSymbol then words letters distances fuel (out.push (UInt8.ofNat s)) bits
    else if s = endSymbol then return (out, bits)
    else
      let (out, bits) ← copyWord distances s out bits
      words letters distances fuel out bits

/-- The words of a block; every word takes at least one bit. -/
def wordBlock (letters distances : Code) (out : Output) (bits : List Bool) : Progress :=
  words letters distances (bits.length + 1) out bits

/-! ## Codes of a block -/

/-- The code for letters and lengths of a block that tells none. -/
def usualLetters : Code :=
  .ofLengths (List.replicate 144 8 ++ List.replicate 112 9 ++ List.replicate 24 7 ++
    List.replicate 8 8)

/-- The code for distances of a block that tells none. -/
def usualDistances : Code := .ofLengths (List.replicate 32 5)

/-- The order in which the lengths of the words for lengths are told. -/
def lengthOrder : List Nat :=
  [16, 17, 18, 0, 8, 7, 9, 6, 10, 5, 11, 4, 12, 3, 13, 2, 14, 1, 15]

def smallNumbers : (count : Nat) → Output → List Bool → Except Stop (List Nat × List Bool)
  | 0, _, bits => .ok ([], bits)
  | count + 1, out, bits => do
    let (n, bits) ← next out 3 bits
    let (rest, bits) ← smallNumbers count out bits
    return (n :: rest, bits)

/-- A repetition of lengths: the length to repeat and how often. `done` holds the lengths so far, the
last one first. -/
def repetition (s : Nat) (done : List Nat) (out : Output) (bits : List Bool) :
    Except Stop (Nat × Nat × List Bool) := do
  if s = 16 then
    let (n, bits) ← next out 2 bits
    match done with
    | [] => .error (.damaged .repetition)
    | length :: _ => return (length, n + 3, bits)
  else if s = 17 then
    let (n, bits) ← next out 3 bits
    return (0, n + 3, bits)
  else
    let (n, bits) ← next out 7 bits
    return (0, n + 11, bits)

/-- The next lengths of words: one, or several that are the same. A code without words tells zeros. -/
def someLengths (code : Code) (done : List Nat) (out : Output) (bits : List Bool) :
    Except Stop (List Nat × List Bool) :=
  match code.word bits with
  | .unfinished => .error (.unfinished out)
  | .unknown rest => .ok (0 :: done, rest)
  | .symbol s rest =>
    if s < 16 then .ok (s :: done, rest)
    else do
      let (length, count, rest) ← repetition s done out rest
      return (List.replicate count length ++ done, rest)

def wordLengths (code : Code) (count : Nat) (out : Output) :
    (fuel : Nat) → (done : List Nat) → List Bool → Except Stop (List Nat × List Bool)
  | 0, _, _ => .error (.unfinished out)
  | fuel + 1, done, bits =>
    if done.length = count then .ok (done.reverse, bits)
    else do
      let (done, bits) ← someLengths code done out bits
      if count < done.length then .error (.damaged .repetition)
      wordLengths code count out fuel done bits

/-- Whether lengths make a code: one in which nothing is left, or one of a single word of one bit, or
one without words. -/
def makesCode (code : Code) : Bool := code.isComplete || code.isSingle || code.isEmpty

def toldCodes (out : Output) (bits : List Bool) : Except Stop (Code × Code × List Bool) := do
  let (letterCount, bits) ← next out 5 bits
  let (distanceCount, bits) ← next out 5 bits
  let (lengthCount, bits) ← next out 4 bits
  let letterCount := letterCount + 257
  let distanceCount := distanceCount + 1
  if 286 < letterCount ∨ 30 < distanceCount then .error (.damaged .symbolCount)
  let (told, bits) ← smallNumbers (lengthCount + 4) out bits
  let lengthCode := Code.ofLengths ((List.range 19).map fun n =>
    (told[lengthOrder.idxOf n]?).getD 0)
  if !(lengthCode.isComplete || lengthCode.isEmpty) then .error (.damaged .lengthCode)
  let count := letterCount + distanceCount
  let (lengths, bits) ← wordLengths lengthCode count out (count + 1) [] bits
  if (lengths[endSymbol]?).getD 0 = 0 then .error (.damaged .noEnd)
  let letters := Code.ofLengths (lengths.take letterCount)
  if !makesCode letters then .error (.damaged .letterCode)
  let distances := Code.ofLengths (lengths.drop letterCount)
  if !makesCode distances then .error (.damaged .distanceCode)
  return (letters, distances, bits)

/-! ## All blocks -/

/-- One block: whether it is the last one, and what comes of it. -/
def block (out : Output) (bits : List Bool) : Except Stop (Bool × Output × List Bool) := do
  let (last, bits) ← next out 1 bits
  let (kind, bits) ← next out 2 bits
  let (out, bits) ←
    match kind with
    | 0 => plainBlock out bits
    | 1 => wordBlock usualLetters usualDistances out bits
    | 2 => do
      let (letters, distances, bits) ← toldCodes out bits
      wordBlock letters distances out bits
    | _ => .error (.damaged .blockKind)
  return (last = 1, out, bits)

/-- The blocks up to the last one, of which there are at most `fuel`. -/
def blocks : (fuel : Nat) → Output → List Bool → Progress
  | 0, out, _ => .error (.unfinished out)
  | fuel + 1, out, bits => do
    let (isLast, out, bits) ← block out bits
    if isLast then return (out, nextByte bits) else blocks fuel out bits

/-- The data of some blocks, and the bits from the next whole byte on. Every block takes at least one
bit. -/
def inflate (bits : List Bool) : Progress := blocks (bits.length + 1) #[] bits

end RepoCensus.Compression
