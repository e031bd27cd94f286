/-!
# Punycode

Any text as a text of ASCII letters, digits and hyphens: first its ASCII characters, then, behind a
hyphen, numbers that tell which other characters are to be inserted and where. How many digits a number
has follows from its digits, each of which is compared with a threshold.
-/

namespace RepoCensus.HostName.Punycode

/-! ## Numbers -/

/-- The threshold of the digit number `j` of a number, counted from zero; a number ends with the first
digit below its threshold. -/
def threshold (bias j : Nat) : Nat := max 1 (min 26 (36 * (j + 1) - bias))

/-- The character of a digit: letters from zero on, decimal digits from twenty-six on. -/
def digitChar (d : Nat) : Char := Char.ofNat (if d < 26 then 97 + d else 22 + d)

/-- The digit of a character, a letter in either case. -/
def digit? (c : Char) : Option Nat :=
  if 'a' ≤ c ∧ c ≤ 'z' then some (c.toNat - 97)
  else if 'A' ≤ c ∧ c ≤ 'Z' then some (c.toNat - 65)
  else if '0' ≤ c ∧ c ≤ '9' then some (c.toNat - 22)
  else none

theorem one_le_threshold (bias j : Nat) : 1 ≤ threshold bias j := by
  unfold threshold
  omega

/-- The digits of a number from the digit number `j` on. -/
def numberFrom (bias j n : Nat) : List Char :=
  let t := threshold bias j
  if n < t then [digitChar n]
  else digitChar (t + (n - t) % (36 - t)) :: numberFrom bias (j + 1) ((n - t) / (36 - t))
termination_by n
decreasing_by
  have ht := one_le_threshold bias j
  have := Nat.div_le_self (n - threshold bias j) (36 - threshold bias j)
  omega

/-- The number at the start of a text and what follows it, from the digit number `j` on; `weight` is
what that digit counts. -/
def numberAt? (bias : Nat) : (j weight : Nat) → List Char → Option (Nat × List Char)
  | _, _, [] => none
  | j, weight, c :: rest => do
    let d ← digit? c
    let t := threshold bias j
    if d < t then some (d * weight, rest)
    else
      let (n, rest) ← numberAt? bias (j + 1) (weight * (36 - t)) rest
      return (d * weight + n, rest)

theorem length_of_numberAt? {bias n : Nat} {cs rest : List Char} :
    ∀ {j weight : Nat}, numberAt? bias j weight cs = some (n, rest) → rest.length < cs.length := by
  induction cs generalizing n with
  | nil => simp [numberAt?]
  | cons c cs ih =>
    intro j weight h
    simp only [numberAt?, Option.bind_eq_bind, Option.bind_eq_some_iff] at h
    obtain ⟨d, _, h⟩ := h
    split at h
    · cases h; simp
    · simp only [Option.bind_eq_some_iff, Option.pure_def, Option.some.injEq, Prod.mk.injEq,
        Prod.exists] at h
      obtain ⟨m, r, h, _, rfl⟩ := h
      have := ih h
      simp only [List.length_cons]
      omega

/-! ## Bias -/

/-- The bias for a damped number; `sum` is what was gained by dividing it down. -/
def biasFrom (sum n : Nat) : Nat :=
  if 455 < n then biasFrom (sum + 36) (n / 35) else sum + 36 * n / (n + 38)
termination_by n
decreasing_by omega

/-- The bias that follows a number, so that numbers of its size are short; `length` is the length of
the text after the insertion. -/
def biasAfter (isFirst : Bool) (n length : Nat) : Nat :=
  let damped := if isFirst then n / 700 else n / 2
  biasFrom 0 (damped + damped / length)

def firstBias : Nat := 72

/-! ## Encoding -/

def isPlain (c : Char) : Bool := c.toNat < 128

structure Encoder where
  bias : Nat
  /-- What has been passed since the last insertion. -/
  passed : Nat
  length : Nat
  isFirst : Bool
  digits : List (List Char)

/-- Passes the characters of a text once, inserting those with a code point. -/
def Encoder.insert (code : Nat) : Encoder → List Char → Encoder
  | e, [] => e
  | e, c :: rest =>
    if c.toNat < code then insert code { e with passed := e.passed + 1 } rest
    else if c.toNat = code then
      insert code
        { bias := biasAfter e.isFirst e.passed (e.length + 1)
          passed := 0
          length := e.length + 1
          isFirst := false
          digits := numberFrom e.bias 0 e.passed :: e.digits } rest
    else insert code e rest

/-- Inserts the characters with the given code points, which are ascending; `least` is the least code
point that may come next. -/
def Encoder.insertAll (cs : List Char) : (least : Nat) → Encoder → List Nat → Encoder
  | _, e, [] => e
  | least, e, code :: rest =>
    let e := { e with passed := e.passed + (code - least) * (e.length + 1) }
    let e := e.insert code cs
    insertAll cs (code + 1) { e with passed := e.passed + 1 } rest

/-- The code points of a text that need encoding, ascending and once each. -/
def codes (cs : List Char) : List Nat :=
  (((cs.filter fun c => !isPlain c).map Char.toNat).mergeSort).eraseReps

def encode (cs : List Char) : List Char :=
  let plain := cs.filter isPlain
  let e := Encoder.insertAll cs 128 ⟨firstBias, 0, plain.length, true, []⟩ (codes cs)
  (if plain.isEmpty then [] else plain ++ ['-']) ++ e.digits.reverse.flatten

/-! ## Decoding -/

def lastCode : Nat := 0x10ffff

/-- Inserts the characters that numbers tell into a text. The next one is inserted at `place` if the
number is zero; its code point is at least `code`. -/
def inserted? (text : List Char) (code place bias : Nat) (isFirst : Bool) (digits : List Char) :
    Option (List Char) :=
  if digits.isEmpty then some text
  else
    match h : numberAt? bias 0 1 digits with
    | none => none
    | some (n, rest) =>
      let length := text.length + 1
      let code := code + (place + n) / length
      let place := (place + n) % length
      if lastCode < code then none
      else
        inserted? (text.take place ++ Char.ofNat code :: text.drop place) code (place + 1)
          (biasAfter isFirst n length) false rest
termination_by digits.length
decreasing_by exact length_of_numberAt? h

/-- The text of an encoding: the part before the last hyphen, and what the numbers behind it insert. -/
def decode? (cs : List Char) : Option (List Char) :=
  let digits := (cs.reverse.takeWhile (· ≠ '-')).reverse
  inserted? (cs.take (cs.length - digits.length - 1)) 128 0 firstBias true digits

end RepoCensus.HostName.Punycode
