import RepoCensus.Text.Quoted

/-!
# A digest of bytes

The secure hash with 256 bits: blocks of sixteen words of thirty-two bits are mixed one after another
into a state of eight words.
-/

namespace RepoCensus.Digest

open RepoCensus.Text

/-- A word that is added in each round: the first bits of the fractions of the cube roots of the first
sixty-four primes. -/
def roundWords : List UInt32 :=
  [0x428a2f98, 0x71374491, 0xb5c0fbcf, 0xe9b5dba5, 0x3956c25b, 0x59f111f1,
   0x923f82a4, 0xab1c5ed5, 0xd807aa98, 0x12835b01, 0x243185be, 0x550c7dc3,
   0x72be5d74, 0x80deb1fe, 0x9bdc06a7, 0xc19bf174, 0xe49b69c1, 0xefbe4786,
   0x0fc19dc6, 0x240ca1cc, 0x2de92c6f, 0x4a7484aa, 0x5cb0a9dc, 0x76f988da,
   0x983e5152, 0xa831c66d, 0xb00327c8, 0xbf597fc7, 0xc6e00bf3, 0xd5a79147,
   0x06ca6351, 0x14292967, 0x27b70a85, 0x2e1b2138, 0x4d2c6dfc, 0x53380d13,
   0x650a7354, 0x766a0abb, 0x81c2c92e, 0x92722c85, 0xa2bfe8a1, 0xa81a664b,
   0xc24b8b70, 0xc76c51a3, 0xd192e819, 0xd6990624, 0xf40e3585, 0x106aa070,
   0x19a4c116, 0x1e376c08, 0x2748774c, 0x34b0bcb5, 0x391c0cb3, 0x4ed8aa4a,
   0x5b9cca4f, 0x682e6ff3, 0x748f82ee, 0x78a5636f, 0x84c87814, 0x8cc70208,
   0x90befffa, 0xa4506ceb, 0xbef9a3f7, 0xc67178f2]

/-- The state at the start: the first bits of the fractions of the square roots of the first eight
primes. -/
def initialWords : List UInt32 :=
  [0x6a09e667, 0xbb67ae85, 0x3c6ef372, 0xa54ff53a, 0x510e527f, 0x9b05688c,
   0x1f83d9ab, 0x5be0cd19]

def rotateRight (x : UInt32) (n : UInt32) : UInt32 := (x >>> n) ||| (x <<< (32 - n))

/-! ## Messages as words -/

/-- The eight bytes of a number, the most significant first. -/
def lengthBytes (n : Nat) : List UInt8 :=
  [56, 48, 40, 32, 24, 16, 8, 0].map fun shift => UInt8.ofNat (n / Nat.pow 2 shift % 256)

/-- A message with the bit, the zeros and the length that fill up its last block. -/
def padded (message : List UInt8) : List UInt8 :=
  let zeros := (119 - message.length % 64) % 64
  message ++ 0x80 :: List.replicate zeros 0 ++ lengthBytes (8 * message.length)

/-- Four bytes at a time as words, the most significant byte first. -/
def wordsOf : List UInt8 → List UInt32
  | a :: b :: c :: d :: rest =>
    (a.toUInt32 <<< 24 ||| b.toUInt32 <<< 16 ||| c.toUInt32 <<< 8 ||| d.toUInt32) :: wordsOf rest
  | _ => []

/-! ## Rounds -/

/-- The next word of a schedule from the last sixteen, the latest first. -/
def nextWord (latest : List UInt32) : UInt32 :=
  let back (n : Nat) : UInt32 := latest.getD (n - 1) 0
  let x := back 15
  let y := back 2
  let s0 := rotateRight x 7 ^^^ rotateRight x 18 ^^^ (x >>> 3)
  let s1 := rotateRight y 17 ^^^ rotateRight y 19 ^^^ (y >>> 10)
  back 16 + s0 + back 7 + s1

/-- Adds `n` words to a schedule whose words come latest first. -/
def extend : Nat → List UInt32 → List UInt32
  | 0, latest => latest
  | n + 1, latest => extend n (nextWord latest :: latest)

def schedule (block : List UInt32) : List UInt32 := (extend 48 block.reverse).reverse

def round (state : List UInt32) (word : UInt32) : List UInt32 :=
  match state with
  | [a, b, c, d, e, f, g, h] =>
    let s1 := rotateRight e 6 ^^^ rotateRight e 11 ^^^ rotateRight e 25
    let choice := (e &&& f) ^^^ (~~~e &&& g)
    let t1 := h + s1 + choice + word
    let s0 := rotateRight a 2 ^^^ rotateRight a 13 ^^^ rotateRight a 22
    let majority := (a &&& b) ^^^ (a &&& c) ^^^ (b &&& c)
    [t1 + s0 + majority, a, b, c, d + t1, e, f, g]
  | other => other

def absorb (state block : List UInt32) : List UInt32 :=
  let mixed := (List.zipWith (· + ·) roundWords (schedule block)).foldl round state
  List.zipWith (· + ·) state mixed

def absorbAll (state : List UInt32) : Nat → List UInt32 → List UInt32
  | 0, _ => state
  | blocks + 1, ws => absorbAll (absorb state (ws.take 16)) blocks (ws.drop 16)

def words (message : List UInt8) : List UInt32 :=
  let ws := wordsOf (padded message)
  absorbAll initialWords (ws.length / 16) ws

def hexText (message : List UInt8) : List Char :=
  (words message).flatMap fun w => hexDigits 8 w.toNat

end RepoCensus.Digest
