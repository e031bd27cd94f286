import RepoCensus.Json.Basic
import RepoCensus.Json.Encoding
import RepoCensus.Numeral.Whole
import RepoCensus.Numeral.Double

/-!
# Reading JSON

A document is one value between blanks. Beyond the format itself the reader takes the words `NaN`,
`Infinity` and `-Infinity`, and of two fields with one name it keeps the later value at the earlier
place. There is room for only so many values inside of each other.
-/

namespace RepoCensus.Json

open RepoCensus.Numeral

def isSpace (c : Char) : Bool := c = ' ' || c = '\t' || c = '\n' || c = '\r'

def skipSpace (cs : List Char) : List Char := cs.dropWhile isSpace

/-! ## Strings -/

def hexValue? (c : Char) : Option Nat :=
  if '0' ≤ c ∧ c ≤ '9' then some (c.toNat - 48)
  else if 'a' ≤ c ∧ c ≤ 'f' then some (c.toNat - 87)
  else if 'A' ≤ c ∧ c ≤ 'F' then some (c.toNat - 55)
  else none

def hexQuad? (a b c d : Char) : Option Nat := do
  let a ← hexValue? a
  let b ← hexValue? b
  let c ← hexValue? c
  let d ← hexValue? d
  return ((a * 16 + b) * 16 + c) * 16 + d

/-- The character that a letter after a backslash stands for. -/
def escaped? (c : Char) : Option Char :=
  match c with
  | '"' => some '"'
  | '\\' => some '\\'
  | '/' => some '/'
  | 'b' => some (Char.ofNat 8)
  | 'f' => some (Char.ofNat 12)
  | 'n' => some '\n'
  | 'r' => some '\r'
  | 't' => some '\t'
  | _ => none

/-- A part of a string: a character, or one unit of an escape that may be half of a pair. -/
inductive Piece where
  | char (c : Char)
  | unit (n : Nat)

/-- The text of the parts of a string, pairs of units joined. -/
def ofPieces : List Piece → List Char
  | [] => []
  | .char c :: rest => c :: ofPieces rest
  | .unit n :: .unit m :: rest =>
    if isHighHalf n && isLowHalf m then joinHalves n m :: ofPieces rest
    else charOfUnit n :: ofPieces (.unit m :: rest)
  | .unit n :: rest => charOfUnit n :: ofPieces rest

/-- The parts of a string up to its closing mark, last part first, and what follows the mark. -/
def stringPieces? (read : List Piece) : List Char → Option (List Piece × List Char)
  | [] => none
  | '"' :: rest => some (read, rest)
  | '\\' :: 'u' :: a :: b :: c :: d :: rest => do
    let n ← hexQuad? a b c d
    stringPieces? (.unit n :: read) rest
  | '\\' :: c :: rest => do
    let e ← escaped? c
    stringPieces? (.char e :: read) rest
  | c :: rest => if c.toNat < 32 then none else stringPieces? (.char c :: read) rest

/-- The string after an opening mark, and what follows it. -/
def string? (cs : List Char) : Option (String × List Char) := do
  let (pieces, rest) ← stringPieces? [] cs
  return (String.ofList (ofPieces pieces.reverse), rest)

/-! ## Numbers -/

/-- The decimal digits at the start of a text, and what follows them. -/
def spanDigits (cs : List Char) : List Char × List Char := cs.span Char.isDigit

def digitsValue (cs : List Char) : Nat := ofDigits (cs.map fun c => c.toNat - 48)

/-- The digits before the point: a zero alone, or digits that do not start with one. -/
def integerPart? : List Char → Option (List Char × List Char)
  | '0' :: rest => some (['0'], rest)
  | c :: rest => if c.isDigit then some (spanDigits (c :: rest)) else none
  | [] => none

def fractionPart? : List Char → Option (List Char × List Char)
  | '.' :: c :: rest => if c.isDigit then some (spanDigits (c :: rest)) else none
  | _ => none

def exponentSign : List Char → Bool × List Char
  | '-' :: rest => (true, rest)
  | '+' :: rest => (false, rest)
  | cs => (false, cs)

/-- The exponent after its letter, if there is one. -/
def exponentPart? : List Char → Option (Int × List Char)
  | c :: cs =>
    if c = 'e' ∨ c = 'E' then
      let (negative, digits) := exponentSign cs
      match spanDigits digits with
      | ([], _) => none
      | (ds, rest) =>
        let n : Int := digitsValue ds
        some (if negative then -n else n, rest)
    else none
  | [] => none

/-- The number at the start of a text, its sign already read. -/
def number? (negative : Bool) (cs : List Char) : Option (Json × List Char) := do
  let (whole, rest) ← integerPart? cs
  let fraction := fractionPart? rest
  let rest := (fraction.map Prod.snd).getD rest
  let exponent := exponentPart? rest
  let rest := (exponent.map Prod.snd).getD rest
  if fraction.isNone && exponent.isNone then
    if digitLimit < whole.length then none
    else
      let n : Int := digitsValue whole
      return (.int (if negative then -n else n), rest)
  else
    let decimals := (fraction.map Prod.fst).getD []
    let scale := (exponent.map Prod.fst).getD 0
    return (.float (Double.ofDecimal negative (digitsValue (whole ++ decimals))
      (scale - decimals.length)), rest)

/-! ## Values -/

def afterWord? (word : List Char) (cs : List Char) : Option (List Char) :=
  if word.isPrefixOf cs then some (cs.drop word.length) else none

def word? (word : String) (v : Json) (cs : List Char) : Option (Json × List Char) :=
  (afterWord? word.toList cs).map fun rest => (v, rest)

def scalar? : List Char → Option (Json × List Char)
  | '"' :: rest => (string? rest).map fun (s, rest) => (.str s, rest)
  | 'n' :: rest => word? "null" .null ('n' :: rest)
  | 't' :: rest => word? "true" (.bool true) ('t' :: rest)
  | 'f' :: rest => word? "false" (.bool false) ('f' :: rest)
  | 'N' :: rest => word? "NaN" (.float (0.0 / 0.0)) ('N' :: rest)
  | 'I' :: rest => word? "Infinity" (.float (1.0 / 0.0)) ('I' :: rest)
  | '-' :: 'I' :: rest => word? "Infinity" (.float (-1.0 / 0.0)) ('I' :: rest)
  | '-' :: rest => number? true rest
  | cs => number? false cs

/-- Why a text was not read. -/
inductive Unread where
  | malformed
  /-- There is no room for a further array or object inside of the others. -/
  | tooDeep (nest : Nest)
deriving Repr, DecidableEq

/-- What was read if it is well formed. -/
def formed {α : Type} : Option α → Except Unread α
  | some a => .ok a
  | none => .error .malformed

inductive Expecting where
  | value
  /-- More elements of an array; those read so far, last one first. -/
  | elements (read : List Json)
  /-- More fields of an object; those read so far, last one first. -/
  | members (read : List (String × Json))

/-- The text after the name of a field and its colon. -/
def fieldName? : List Char → Option (String × List Char)
  | '"' :: rest => do
    let (name, rest) ← string? rest
    match skipSpace rest with
    | ':' :: rest => return (name, skipSpace rest)
    | _ => none
  | _ => none

/-- Reads what is expected at the start of a text, with room for so many arrays and objects inside of each
other. Every step either takes a character or enters the value that the next character starts, so twice the
length of the text is fuel enough. -/
def read : (fuel room : Nat) → Expecting → List Char → Except Unread (Json × List Char)
  | 0, _, _, _ => .error .malformed
  | fuel + 1, room, .value, cs =>
    match cs, room with
    | '[' :: _, 0 => .error (.tooDeep .array)
    | '{' :: _, 0 => .error (.tooDeep .object)
    | '[' :: rest, room + 1 =>
      match skipSpace rest with
      | ']' :: rest => .ok (.arr [], rest)
      | rest => read fuel room (.elements []) rest
    | '{' :: rest, room + 1 =>
      match skipSpace rest with
      | '}' :: rest => .ok (.obj [], rest)
      | rest => read fuel room (.members []) rest
    | cs, _ => formed (scalar? cs)
  | fuel + 1, room, .elements items, cs => do
    let (v, rest) ← read fuel room .value cs
    match skipSpace rest with
    | ']' :: rest => return (.arr (v :: items).reverse, rest)
    | ',' :: rest => read fuel room (.elements (v :: items)) (skipSpace rest)
    | _ => .error .malformed
  | fuel + 1, room, .members fields, cs => do
    let (name, rest) ← formed (fieldName? cs)
    let (v, rest) ← read fuel room .value rest
    match skipSpace rest with
    | '}' :: rest => return (.obj (Entries.settle ((name, v) :: fields).reverse), rest)
    | ',' :: rest => read fuel room (.members ((name, v) :: fields)) (skipSpace rest)
    | _ => .error .malformed

def readText (room : Nat) (cs : List Char) : Except Unread Json := do
  let (v, rest) ← read (2 * cs.length + 1) room .value (skipSpace cs)
  if (skipSpace rest).isEmpty then return v else .error .malformed

/-- The value of a text, however deep it is nested. -/
def ofText? (cs : List Char) : Option Json := (readText cs.length cs).toOption

def readBytes (room : Nat) (bytes : List UInt8) : Except Unread Json := do
  readText room (← formed (textOf? bytes))

/-! ## Room -/

/-- Every array and every object that is entered takes fuel, so with no more fuel than room the room is never what
is missing. -/
theorem read_ne_tooDeep {fuel room : Nat} (h : fuel ≤ room) (e : Expecting) (cs : List Char) (nest : Nest) :
    read fuel room e cs ≠ .error (.tooDeep nest) := by
  induction fuel generalizing room e cs with
  | zero => simp [read]
  | succ fuel ih =>
      obtain ⟨room, rfl⟩ : ∃ r, room = r + 1 := ⟨room - 1, by omega⟩
      cases e with
      | value =>
          unfold read
          split
          · contradiction
          · contradiction
          · split
            · exact nofun
            · exact ih (by omega) _ _
          · split
            · exact nofun
            · exact ih (by omega) _ _
          · unfold formed
            split <;> exact nofun
      | elements items =>
          simp only [read, bind, Except.bind]
          cases hread : read fuel (room + 1) .value cs with
          | error why =>
              have hvalue : read fuel (room + 1) .value cs ≠ .error (.tooDeep nest) := ih (by omega) .value cs
              rwa [hread] at hvalue
          | ok found =>
              dsimp only
              split
              · exact nofun
              · exact ih (by omega) _ _
              · exact nofun
      | members fields =>
          simp only [read, bind, Except.bind]
          cases fieldName? cs with
          | none => exact nofun
          | some named =>
              simp only [formed]
              cases hread : read fuel (room + 1) .value named.2 with
              | error why =>
                  have hvalue : read fuel (room + 1) .value named.2 ≠ .error (.tooDeep nest) := ih (by omega) .value named.2
                  rwa [hread] at hvalue
              | ok found =>
                  dsimp only
                  split
                  · exact nofun
                  · exact ih (by omega) _ _
                  · exact nofun

/-- For every text there is room enough. -/
theorem exists_room (bytes : List UInt8) :
    ∃ least, ∀ room, least ≤ room → ∀ nest, readBytes room bytes ≠ .error (.tooDeep nest) := by
  cases htext : textOf? bytes with
  | none => exact ⟨0, fun room _ nest => by simp [readBytes, htext, formed, bind, Except.bind]⟩
  | some cs =>
      refine ⟨2 * cs.length + 1, fun room hroom nest => ?_⟩
      simp only [readBytes, htext, formed, readText, bind, Except.bind]
      cases hread : read (2 * cs.length + 1) room .value (skipSpace cs) with
      | error why =>
          have hvalue := read_ne_tooDeep hroom .value (skipSpace cs) nest
          rw [hread] at hvalue
          simpa using hvalue
      | ok found =>
          dsimp only
          split <;> exact nofun

theorem skipSpace_replicate (n : Nat) (rest : List Char) :
    skipSpace (List.replicate (n + 1) '[' ++ rest) = List.replicate (n + 1) '[' ++ rest := rfl

/-- Where one more array is opened than there is room for, the text is too deep, whatever follows. -/
theorem read_replicate {fuel room : Nat} (h : 2 * room < fuel) (rest : List Char) :
    read fuel room .value (List.replicate (room + 1) '[' ++ rest) = .error (.tooDeep .array) := by
  induction room generalizing fuel with
  | zero =>
      obtain ⟨fuel, rfl⟩ : ∃ k, fuel = k + 1 := ⟨fuel - 1, by omega⟩
      rfl
  | succ room ih =>
      obtain ⟨fuel, rfl⟩ : ∃ k, fuel = k + 2 := ⟨fuel - 2, by omega⟩
      have hinner : read fuel room .value (List.replicate (room + 1) '[' ++ rest) = .error (.tooDeep .array) :=
        ih (by omega)
      change (do
        let (v, rest) ← read fuel room .value (List.replicate (room + 1) '[' ++ rest)
        _ : Except Unread (Json × List Char)) = _
      rw [hinner]
      rfl

/-- The byte that opens an array. -/
def openingByte : UInt8 := 0x5b

theorem textOf?_replicate (n : Nat) : textOf? (List.replicate n openingByte) = some (List.replicate n '[') := by
  have hdecode : Text.Utf8.decode? (List.replicate n openingByte) = some (List.replicate n '[') := by
    unfold Text.Utf8.decode?
    induction n with
    | zero => simp
    | succ n ih =>
        rw [List.replicate_succ, Text.Utf8.pieces_cons_of_lt (by decide), List.mapM_cons, ih]
        rfl
  have hdetect : detect (List.replicate n openingByte) = (.narrow, List.replicate n openingByte) := by
    match n with
    | 0 | 1 | 2 | 3 => rfl
    | n + 4 => rfl
  rw [textOf?, hdetect]
  exact hdecode

/-- However much room there is, some body needs more. -/
theorem readBytes_replicate (room : Nat) :
    readBytes room (List.replicate (room + 1) openingByte) = .error (.tooDeep .array) := by
  have hread : read (2 * (room + 1) + 1) room .value (List.replicate (room + 1) '[' ++ []) = .error (.tooDeep .array) :=
    read_replicate (by omega) []
  simp only [List.append_nil] at hread
  have hskip := skipSpace_replicate room []
  simp only [List.append_nil] at hskip
  simp only [readBytes, textOf?_replicate, formed, readText, List.length_replicate, hskip, hread, bind, Except.bind]

end RepoCensus.Json
