import RepoCensus.Client.HostName.Label
import RepoCensus.Client.HostName.Punycode
import RepoCensus.Text.Fields

/-!
# Host names

A host name of any script and the ASCII name by which the host is looked up: each label that is not
ASCII is encoded and marked with `xn--`.
-/

namespace RepoCensus.HostName

open RepoCensus.Text

/-! ## Labels -/

def encodedMark : List Char := ['x', 'n', '-', '-']

/-- The most characters of a label after it is encoded. -/
def mostEncoded : Nat := 63

/-- The text behind the mark of an encoded label, in lower case; none for a label without it. -/
def encodedPart? (label : List Char) : Option (List Char) :=
  let label := label.map Char.toLower
  if encodedMark.isPrefixOf label then some (label.drop encodedMark.length) else none

/-- The label that an ASCII label stands for. An encoded label must be the one way to encode it. -/
def decodeLabel (label : List Char) : Except Flaw (List Char) :=
  match encodedPart? label with
  | none => do
    checkLabel (label.map Char.toLower)
    return label.map Char.toLower
  | some part =>
    if part.isEmpty || part.getLast? = some '-' then .error .shape
    else
      match Punycode.decode? part with
      | none => .error .shape
      | some label => do
        checkLabel label
        if Punycode.encode label ≠ part then .error .shape
        return label

/-- A label as an ASCII label. One that is ASCII already must stand for something. -/
def encodeLabel (label : List Char) : Except Flaw (List Char) := do
  let encoded ←
    if label.all Punycode.isPlain then do
      let _ ← decodeLabel label
      pure label
    else do
      checkLabel label
      pure (encodedMark ++ Punycode.encode label)
  if mostEncoded < encoded.length then .error .shape
  return encoded

/-! ## Names -/

/-- A dot, or one of the full stops that count as one. -/
def isDot (c : Char) : Bool := c = '.' || [0x3002, 0xff0e, 0xff61].contains c.toNat

/-- The most characters of a name, a dot at its end apart. -/
def mostOfAll : Nat := 253

/-- The labels of a name, and whether it ends with a dot. -/
def labels (name : List Char) : List (List Char) × Bool :=
  let labels := fields '.' (name.map fun c => if isDot c then '.' else c)
  if labels.getLast? = some [] then (labels.dropLast, true) else (labels, false)

/-- The characters of a name at the most, given whether it ends with a dot. -/
def limit (isDotted : Bool) : Nat := if isDotted then mostOfAll + 1 else mostOfAll

/-- A name with each of its labels changed; a dot at its end stays. There must be a label. -/
def mapLabels (f : List Char → Except Flaw (List Char)) (name : List Char) :
    Except Flaw (List Char × Bool) := do
  if limit true < name.length then .error .shape
  let (labels, isDotted) := labels name
  if labels.isEmpty then .error .shape
  let labels ← labels.mapM f
  return (joined '.' (if isDotted then labels ++ [[]] else labels), isDotted)

def encode (name : List Char) : Except Flaw (List Char) := do
  let (encoded, isDotted) ← mapLabels encodeLabel name
  if limit isDotted < encoded.length then .error .shape
  return encoded

def decode (name : List Char) : Except Flaw (List Char) := do
  return (← mapLabels decodeLabel name).1

end RepoCensus.HostName
