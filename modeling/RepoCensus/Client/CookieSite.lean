import RepoCensus.Client.Reference
import RepoCensus.Text.Blank

/-!
# Sites of cookies

What cookies go by in an address: its host, the number behind it and its path. An address without a
scheme has no site, and neither has one whose host is ended too early by a bracket.
-/

namespace RepoCensus

open RepoCensus.Text RepoCensus.Numeral

structure CookieSite where
  host : List Char
  /-- The number behind the host as it is written, if it is one. -/
  number : Option (List Char)
  path : List Char
deriving Repr, DecidableEq

namespace CookieSite

/-! ## Paths -/

/-- A character that stands for itself in the path of a cookie. -/
def standsInPath (c : Char) : Bool :=
  Percent.isUnreserved c || "%/;:@&=+$,!~*'()".toList.contains c

def isHex (c : Char) : Bool := (Json.hexValue? c).isSome

def capitalized : List Char → List Char
  | '%' :: a :: b :: rest =>
    if isHex a && isHex b then '%' :: a.toUpper :: b.toUpper :: capitalized rest
    else '%' :: capitalized (a :: b :: rest)
  | c :: rest => c :: capitalized rest
  | [] => []

def escapedPath (path : List Char) : List Char := capitalized (Percent.escape standsInPath path)

def rootedPath (path : List Char) : List Char :=
  let path := escapedPath path
  if path.head? = some '/' then path else '/' :: path

/-- The path of a cookie that tells none: the steps of the site's path before the last one, with or
without the slash that ends them. -/
def parentPath (path : List Char) (withSlash : Bool) : List Char :=
  let last := (path.reverse.takeWhile (· ≠ '/')).reverse
  let parent := path.take (path.length - last.length)
  let parent := if withSlash then parent else parent.dropLast
  if parent.isEmpty then ['/'] else parent

/-! ## Hosts -/

def withoutNumber (authority : List Char) : List Char :=
  let digits := (authority.reverse.takeWhile Char.isDigit)
  match digits, authority.reverse.drop digits.length with
  | _ :: _, ':' :: before => before.reverse
  | _, _ => authority

/-- The number that follows the first colon in the authority of a text whose scheme is cut off. -/
def numberIn (cs : List Char) : Option (List Char) :=
  match cutAt ':' (Percent.unescape (WrittenAddress.cutAuthority cs).1) with
  | (_, none) => some ['8', '0']
  | (_, some number) => if (whole? (String.ofList number)).isSome then some number else none

/-- A host as it is compared: one of a single label is local. -/
def fullHost (s : CookieSite) : List Char :=
  if s.host.contains '.' then s.host else s.host ++ ".local".toList

def numberText (s : CookieSite) : List Char := s.number.getD ['8', '0']

/-! ## Addresses -/

/-- The text of an address, without the mark of a last part that is empty. -/
def textOf (a : Address) : List Char :=
  let cs := a.toText
  if cs.getLast? = some '#' then cs.dropLast else cs

/-- The text of an address before the last part that a mark sets off. -/
def mainText (a : Address) : List Char :=
  let cs := a.toText
  let last := (cs.reverse.takeWhile (· ≠ '#')).reverse
  if last.length < cs.length then cs.take (cs.length - last.length - 1) else cs

/-- What follows the scheme of a text, in whatever characters the scheme is written. -/
def afterScheme? (cs : List Char) : Option (List Char) :=
  let (before, rest) := cs.span fun c => c ≠ '/' && c ≠ ':'
  match rest with
  | ':' :: rest => if before.isEmpty then none else some rest
  | _ => none

def ofAddress (a : Address) : Except Anomaly CookieSite :=
  match afterScheme? (mainText a) with
  | none => .error (.noScheme (String.ofList (textOf a)))
  | some rest => do
    let r := Reference.undivided [] (textOf a)
    Reference.checkAuthority r.authority
    return ⟨(withoutNumber r.authority).map Char.toLower, numberIn rest, rootedPath r.path⟩

end CookieSite

end RepoCensus
