/-!
# Codes of bits

A code in which no word starts another one is given by the lengths of its words alone: shorter words
come first, and words of one length are in the order of their symbols.
-/

namespace RepoCensus.Compression

/-- A code: how many words there are of each length from one on, and the symbols in the order of their
words. -/
structure Code where
  counts : List Nat
  symbols : Array Nat
deriving Repr

/-- What the start of a sequence of bits is. -/
inductive Word where
  | symbol (s : Nat) (rest : List Bool)
  | unknown (rest : List Bool)
  | unfinished
deriving Repr

namespace Code

/-- The code in which each symbol has a word of the given length; a symbol of length zero has none. A
code without words takes one bit to find that out. -/
def ofLengths (lengths : List Nat) : Code where
  counts :=
    (List.range (max 1 (lengths.foldl max 0))).map fun n => lengths.count (n + 1)
  symbols :=
    ((List.range (lengths.foldl max 0)).flatMap fun n =>
      (lengths.zipIdx.filter fun l => l.1 = n + 1).map Prod.snd).toArray

/-- The words of the greatest length that are left when words of some numbers are taken out; none if
there are too many words. -/
def left? (counts : List Nat) : Option Nat :=
  counts.foldlM (fun left n => if n ≤ 2 * left then some (2 * left - n) else none) 1

def isEmpty (c : Code) : Bool := c.symbols.isEmpty

/-- Whether every sequence of bits is a sequence of words. -/
def isComplete (c : Code) : Bool := left? c.counts = some 0

def isSingle (c : Code) : Bool := c.counts = [1]

/-- The first word of a sequence of bits. `code` is made of the bits that were read, `first` is the
first word of the present length, and `index` counts the shorter words. -/
def wordFrom (symbols : Array Nat) : (counts : List Nat) → (code first index : Nat) → List Bool → Word
  | [], _, _, _, bits => .unknown bits
  | _ :: _, _, _, _, [] => .unfinished
  | count :: counts, code, first, index, bit :: bits =>
    let code := code + bit.toNat
    if code < first + count then .symbol (symbols[index + (code - first)]?.getD 0) bits
    else
      wordFrom symbols counts (2 * code) (2 * (first + count)) (index + count) bits

def word (c : Code) (bits : List Bool) : Word := wordFrom c.symbols c.counts 0 0 0 bits

end Code

end RepoCensus.Compression
