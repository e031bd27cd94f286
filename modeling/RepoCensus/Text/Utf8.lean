/-!
# Bytes as text

Cutting a sequence of bytes into the characters it encodes and the shortest pieces that encode
nothing.
-/

namespace RepoCensus.Text.Utf8

def isContinuation (b : UInt8) : Bool := 0x80 ≤ b && b ≤ 0xbf

/-- The bytes that may follow the first byte of a character of three or four bytes, so that no
character has two encodings, none is a surrogate and none lies beyond the last one. -/
def secondRange (b : UInt8) : UInt8 × UInt8 :=
  if b = 0xe0 then (0xa0, 0xbf)
  else if b = 0xed then (0x80, 0x9f)
  else if b = 0xf0 then (0x90, 0xbf)
  else if b = 0xf4 then (0x80, 0x8f)
  else (0x80, 0xbf)

def low (b : UInt8) : Nat := b.toNat % 64

/-- The length of the encoding that a first byte announces, zero for a byte that starts none. -/
def announced (b : UInt8) : Nat :=
  if b < 0x80 then 1
  else if b < 0xc2 then 0
  else if b < 0xe0 then 2
  else if b < 0xf0 then 3
  else if b < 0xf5 then 4
  else 0

/-- The first character of a sequence of bytes, or `none` for a piece that encodes nothing, and how
many bytes it takes beyond the first. -/
def first (b : UInt8) (rest : List UInt8) : Option Char × Nat :=
  match announced b, rest with
  | 1, _ => (some (Char.ofNat b.toNat), 0)
  | 2, c :: _ =>
    if isContinuation c then (some (Char.ofNat (b.toNat % 32 * 64 + low c)), 1) else (none, 0)
  | 3, c :: more =>
    let (least, most) := secondRange b
    if least ≤ c && c ≤ most then
      match more with
      | d :: _ =>
        if isContinuation d then
          (some (Char.ofNat ((b.toNat % 16 * 64 + low c) * 64 + low d)), 2)
        else (none, 1)
      | [] => (none, 1)
    else (none, 0)
  | 4, c :: more =>
    let (least, most) := secondRange b
    if least ≤ c && c ≤ most then
      match more with
      | d :: e :: _ =>
        if isContinuation d then
          if isContinuation e then
            (some (Char.ofNat (((b.toNat % 8 * 64 + low c) * 64 + low d) * 64 + low e)), 3)
          else (none, 2)
        else (none, 1)
      | [d] => (none, if isContinuation d then 2 else 1)
      | [] => (none, 1)
    else (none, 0)
  | _, _ => (none, 0)

/-- The characters of a sequence of bytes, with `none` for each piece that encodes nothing. -/
def pieces : List UInt8 → List (Option Char)
  | [] => []
  | b :: rest =>
    let (c, taken) := first b rest
    c :: pieces (rest.drop taken)
termination_by bs => bs.length
decreasing_by simp only [List.length_drop, List.length_cons]; omega

def decode? (bs : List UInt8) : Option (List Char) := (pieces bs).mapM id

/-- The text of a sequence of bytes, with the replacement character for each piece that encodes
nothing. -/
def decodeReplacing (bs : List UInt8) : List Char :=
  (pieces bs).map fun c => c.getD (Char.ofNat 0xfffd)

@[simp] theorem pieces_nil : pieces [] = [] := by simp [pieces]

theorem pieces_cons_of_lt {b : UInt8} {rest : List UInt8} (h : b < 0x80) :
    pieces (b :: rest) = some (Char.ofNat b.toNat) :: pieces rest := by
  rw [pieces]
  simp [first, announced, h]

end RepoCensus.Text.Utf8
