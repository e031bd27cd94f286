import RepoCensus.Text.Fields

/-!
# Numeric addresses

Addresses of machines that stand in place of a host name: four numbers with dots between them, or eight
groups of hexadecimal digits with colons between them.
-/

namespace RepoCensus.HostName

open RepoCensus.Text

/-! ## Four numbers -/

def valueOf (digits : List Char) : Nat := digits.foldl (fun n d => 10 * n + (d.toNat - 48)) 0

def isOctet (digits : List Char) : Bool :=
  !digits.isEmpty && digits.all Char.isDigit && digits.length ≤ 3 &&
    (digits = ['0'] || digits.head? ≠ some '0') && valueOf digits ≤ 255

/-- Whether a text is four numbers with dots between them. -/
def isDotted (cs : List Char) : Bool :=
  let octets := fields '.' cs
  octets.length = 4 && octets.all isOctet

/-- Whether a text can only be meant as four numbers: four runs of digits with dots between them, however
large the numbers are. -/
def looksDotted (cs : List Char) : Bool :=
  let runs := fields '.' cs
  runs.length = 4 && runs.all fun run => !run.isEmpty && run.all Char.isDigit

/-! ## Eight groups -/

def isHexDigit (c : Char) : Bool :=
  c.isDigit || ('a' ≤ c && c ≤ 'f') || ('A' ≤ c && c ≤ 'F')

def isGroup (cs : List Char) : Bool := !cs.isEmpty && cs.length ≤ 4 && cs.all isHexDigit

/-- Groups of which the last may be four numbers, which stand for two groups; none if it looks like
them but is not. -/
def withoutDots? (groups : List (List Char)) : Option (List (List Char)) :=
  match groups.getLast? with
  | none => some groups
  | some last =>
    if last.contains '.' then
      if isDotted last then some (groups.dropLast ++ [['0'], ['0']]) else none
    else some groups

/-- The groups on one side of a gap; there may be none. -/
def side? (groups : List (List Char)) : Option Nat :=
  if groups = [[]] then some 0
  else if groups.all isGroup then some groups.length
  else none

/-- Whether groups are eight, or fewer with one gap between two colons. -/
def areGroups (groups : List (List Char)) : Bool :=
  let inner := (groups.drop 1).dropLast
  if inner.contains [] then
    let gap := 1 + inner.idxOf []
    match side? (groups.take gap), side? (groups.drop (gap + 1)) with
    | some high, some low => high + low < 8
    | _, _ => false
  else groups.length = 8 && groups.all isGroup

/-- Whether a text is eight groups of hexadecimal digits, with the name of a zone behind a percent sign
if there is one. -/
def isColoned (cs : List Char) : Bool :=
  let address := cs.takeWhile (· ≠ '%')
  let zone := cs.drop (address.length + 1)
  let zoneFits := address.length = cs.length || (!zone.isEmpty && !zone.contains '%')
  let groups := fields ':' address
  zoneFits && !cs.contains '/' && 3 ≤ groups.length && (withoutDots? groups).any areGroups

end RepoCensus.HostName
