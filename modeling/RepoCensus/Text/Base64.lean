/-!
# Bytes in sixty-four characters

Three bytes are written as four characters of six bits each; a last group of one or two bytes is filled
up with equals signs.
-/

namespace RepoCensus.Text.Base64

def character (n : Nat) : Char :=
  if n < 26 then Char.ofNat (65 + n)
  else if n < 52 then Char.ofNat (97 + (n - 26))
  else if n < 62 then Char.ofNat (48 + (n - 52))
  else if n = 62 then '+'
  else '/'

/-- The four characters of three bytes, which are given as one number. -/
def group (n : Nat) : List Char :=
  [character (n / 262144 % 64), character (n / 4096 % 64), character (n / 64 % 64),
   character (n % 64)]

def encode : List UInt8 → List Char
  | a :: b :: c :: rest => group (a.toNat * 65536 + b.toNat * 256 + c.toNat) ++ encode rest
  | [a, b] => (group (a.toNat * 65536 + b.toNat * 256)).take 3 ++ ['=']
  | [a] => (group (a.toNat * 65536)).take 2 ++ ['=', '=']
  | [] => []

end RepoCensus.Text.Base64
