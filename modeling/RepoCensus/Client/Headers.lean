import RepoCensus.Anomaly
import RepoCensus.Text.Entries

/-!
# Headers on the wire

Headers as they are sent: all in ASCII, the names in lower case. A name may come several times; whoever
asks for it gets the values in one text.
-/

namespace RepoCensus

abbrev Headers := List (String × String)

namespace Headers

def asciiText (s : String) : Except Anomaly String :=
  if s.toList.all isAscii then .ok s else .error (.notAscii s)

def encode (headers : List (String × String)) : Except Anomaly Headers :=
  headers.mapM fun (name, value) => do
    let name ← asciiText name
    let value ← asciiText value
    return (name.map Char.toLower, value)

def has (name : String) (headers : Headers) : Bool := headers.any fun h => h.1 = name

def without (name : String) (headers : Headers) : Headers := headers.filter fun h => h.1 ≠ name

/-- Headers in which others take the place of all headers of their names. -/
def replace (headers others : Headers) : Headers :=
  (headers.filter fun h => !has h.1 others) ++ others

def set (name value : String) (headers : Headers) : Headers := replace headers [(name, value)]

/-- The values of some entries in one text, with commas between them. -/
def together (entries : List (String × String)) : String := ", ".intercalate (entries.map Prod.snd)

/-- One entry for each name, in the order of their first headers, with all values. -/
def joined (headers : Headers) : List (String × String) :=
  (headers.map Prod.fst).eraseDups.map fun name =>
    (name, together (headers.filter fun h => h.1 = name))

end Headers

end RepoCensus
