import RepoCensus.Client.AddressFlaw
import RepoCensus.Client.HostName.Basic
import RepoCensus.Client.HostName.Numeric
import RepoCensus.Numeral.Whole
import RepoCensus.Text.Lower
import RepoCensus.Text.Percent

/-!
# Addresses

An address such as `https://user@h:8080/a/b?q=1#part` in its parts. What is written in one of several
ways is put into one of them: letters of scheme and host are small, a host name is ASCII, a number that
need not be told is left out, and a character that means nothing in its part is escaped.
-/

namespace RepoCensus

open RepoCensus.Text RepoCensus.Numeral

/-- An address in its parts; a query or fragment that is missing is not the same as an empty one, but
all other parts that are missing are empty. -/
structure Address where
  scheme : List Char
  user : List Char
  /-- The name or the numbers of the host, without brackets. -/
  host : List Char
  number : Option Int
  path : List Char
  query : Option (List Char)
  fragment : Option (List Char)
deriving Repr, DecidableEq

structure WrittenAddress where
  scheme : List Char
  authority : List Char
  path : List Char
  query : Option (List Char)
  fragment : Option (List Char)
  /-- The host in place of the one in the authority. -/
  host : Option (List Char)
deriving Repr, DecidableEq

/-- The text before a character, and what follows the character if it is there. -/
def cutAt (c : Char) (cs : List Char) : List Char × Option (List Char) :=
  let before := cs.takeWhile (· ≠ c)
  (before, if before.length < cs.length then some (cs.drop (before.length + 1)) else none)

/-! ## Reading the parts -/

namespace WrittenAddress

def isSchemeChar (c : Char) : Bool := c.isAlphanum || c = '+' || c = '.' || c = '-'

/-- The scheme of an address and what follows it. A colon at the start ends an empty scheme. -/
def cutScheme (cs : List Char) : List Char × List Char :=
  let scheme := cs.takeWhile isSchemeChar
  match cs.drop scheme.length with
  | ':' :: rest => if scheme.head?.all Char.isAlpha then (scheme, rest) else ([], cs)
  | _ => ([], cs)

def endsAuthority (c : Char) : Bool := c = '/' || c = '?' || c = '#'

/-- The authority of an address without its scheme, and what follows it. -/
def cutAuthority : List Char → List Char × List Char
  | '/' :: '/' :: rest => rest.span fun c => !endsAuthority c
  | cs => ([], cs)

def ofText (cs : List Char) : WrittenAddress :=
  let (rest, fragment) := cutAt '#' cs
  let (rest, query) := cutAt '?' rest
  let (scheme, rest) := cutScheme rest
  let (authority, path) := cutAuthority rest
  ⟨scheme, authority, path, query, fragment, none⟩

/-! ## Flaws -/

/-- The most characters of an address and of each of its parts. -/
def mostCharacters : Nat := 65536

def isHidden (c : Char) : Bool := c.toNat < 32 || c.toNat = 127

/-- The first character that does not show, and where it stands. -/
def hidden? (cs : List Char) : Option (Char × Nat) :=
  let shown := cs.takeWhile (! isHidden ·)
  (cs.drop shown.length).head?.map fun c => (c, shown.length)

/-- A text that is short enough and has no character that does not show. -/
def checkText (ofLength : AddressFlaw) (ofHidden : Char → Nat → AddressFlaw) (cs : List Char) :
    Except AddressFlaw Unit :=
  if mostCharacters < cs.length then .error ofLength
  else
    match hidden? cs with
    | some (c, position) => .error (ofHidden c position)
    | none => .ok ()

/-- The parts by their names, in the order in which they are looked at. -/
def parts (w : WrittenAddress) : List (AddressPart × List Char) :=
  [(.scheme, w.scheme), (.authority, w.authority), (.path, w.path)] ++
    (w.query.map fun q => (AddressPart.query, q)).toList ++
    (w.fragment.map fun f => (AddressPart.fragment, f)).toList ++
    (w.host.map fun h => (AddressPart.host, h)).toList

def checkParts (w : WrittenAddress) : Except AddressFlaw Unit :=
  w.parts.forM fun (part, cs) => checkText (.partTooLong part) (.hiddenIn part) cs

end WrittenAddress

/-! ## Host and number -/

namespace Address

/-- The user in an authority, which ends at the last `@`, and what follows it. -/
def cutUser (authority : List Char) : List Char × List Char :=
  let rest := (authority.reverse.takeWhile (· ≠ '@')).reverse
  (authority.take (authority.length - rest.length - 1), rest)

/-- What stands between brackets, and what follows the last of them. -/
def cutBrackets? : List Char → Option (List Char × List Char)
  | '[' :: cs =>
    let rest := (cs.reverse.takeWhile (· ≠ ']')).reverse
    if rest.length < cs.length then some (cs.take (cs.length - rest.length - 1), rest) else none
  | _ => none

/-- The host, and the text of the number behind it. -/
def cutHost (cs : List Char) : List Char × List Char :=
  let (host, rest) := match cutBrackets? cs with
    | some (inner, rest) => ('[' :: inner ++ [']'], rest)
    | none => cs.span (· ≠ ':')
  (host, match rest with
    | ':' :: rest => rest
    | rest => rest)

/-- A character that stands for itself in the name of a host. -/
def standsInHost (c : Char) : Bool :=
  Percent.isUnreserved c || "!$&'()*+,;=\"`\x7b\x7d%|\\".toList.contains c

/-- A host as it is looked up: numbers as they are, a name in small ASCII letters. -/
def readHost (host : List Char) : Except AddressFlaw (List Char) :=
  let small := (lower (String.ofList host)).toList
  if HostName.looksDotted host then
    if HostName.isDotted host then .ok host else .error (.badDotted (String.ofList host))
  else
    match cutBrackets? host with
    | some (inner, []) =>
      if HostName.isColoned inner then .ok inner else .error (.badColoned (String.ofList host))
    | _ =>
      if host.all HostName.Punycode.isPlain then .ok (Percent.escape standsInHost small)
      else
        match HostName.encode small with
        | .ok name => .ok name
        | .error _ => .error (.badName (String.ofList host))

/-- The number behind the host that a scheme need not tell. -/
def usualNumber? (scheme : List Char) : Option Int :=
  (Entries.get? (String.ofList scheme)
    [("ftp", 21), ("http", 80), ("https", 443), ("ws", 80), ("wss", 443)])

/-- The number behind the host, if there is one that needs to be told. -/
def readNumber (scheme text : List Char) : Except AddressFlaw (Option Int) :=
  if text.isEmpty then .ok none
  else
    match whole? (String.ofList text) with
    | none => .error (.badNumber (String.ofList text))
    | some n => .ok (if usualNumber? scheme = some n then none else some n)

/-! ## Path, query and fragment -/

/-- A character that shows and is ASCII, other than some that mean something elsewhere. -/
def standsExcept (others : String) (c : Char) : Bool :=
  32 < c.toNat && c.toNat < 127 && !others.toList.contains c

def standsInPath (c : Char) : Bool := standsExcept "\"#<>?`\x7b\x7d" c

def standsInQuery (c : Char) : Bool := standsExcept "\"#<>" c

/-- A character that stands for itself in a fragment. -/
def standsInFragment (c : Char) : Bool := standsExcept "\"<>`" c

/-- A character that stands for itself in the name of a user. -/
def standsInUser (c : Char) : Bool := standsInPath c && standsExcept "/;=@[\\]^|" c

/-- A path without the steps `.` and `..`; the latter takes back the step before it. -/
def walked (path : List Char) : List Char :=
  let steps := (fields '/' path).foldl (fun done step =>
    if step = ['.'] then done
    else if step = ['.', '.'] then (if done = [[]] then done else done.drop 1)
    else step :: done) []
  joined '/' steps.reverse

/-- A path that can follow a scheme and an authority, if they are there. -/
def checkPath (path : List Char) (hasScheme hasAuthority : Bool) : Except AddressFlaw Unit :=
  if hasAuthority then
    if path.isEmpty || path.head? = some '/' then .ok () else .error .unrooted
  else if hasScheme then .ok ()
  else
    match path with
    | '/' :: '/' :: _ => .error .doubleSlash
    | ':' :: _ => .error .leadingColon
    | _ => .ok ()

/-! ## Whole addresses -/

/-- The address that is written. The number that need not be told depends on the scheme as it is
written. -/
def ofWritten (w : WrittenAddress) : Except AddressFlaw Address := do
  let (user, rest) := cutUser w.authority
  let (host, numberText) := cutHost rest
  let user := Percent.escape standsInUser user
  let host ← readHost (w.host.getD host)
  let number ← readNumber w.scheme numberText
  let hasAuthority := !user.isEmpty || !host.isEmpty || number.isSome
  let hasScheme := !w.scheme.isEmpty
  checkPath w.path hasScheme hasAuthority
  let path := if hasScheme || hasAuthority then walked w.path else w.path
  return {
    scheme := w.scheme.map Char.toLower
    user := user
    host := host
    number := number
    path := Percent.escape standsInPath path
    query := w.query.map (Percent.escape standsInQuery)
    fragment := w.fragment.map (Percent.escape standsInFragment) }

def ofText (cs : List Char) : Except AddressFlaw Address := do
  WrittenAddress.checkText .tooLong .hidden cs
  ofWritten (.ofText cs)

/-- A host with brackets around it if there are colons in it. -/
def bracketed (host : List Char) : List Char :=
  if host.contains ':' then '[' :: host ++ [']'] else host

def place (a : Address) : List Char :=
  bracketed a.host ++
    match a.number with
    | some n => ':' :: (toString n).toList
    | none => []

def authority (a : Address) : List Char :=
  (if a.user.isEmpty then [] else a.user ++ ['@']) ++ a.place

def toText (a : Address) : List Char :=
  (if a.scheme.isEmpty then [] else a.scheme ++ [':']) ++
  (if a.authority.isEmpty then [] else '/' :: '/' :: a.authority) ++ a.path ++
  (match a.query with
    | some s => '?' :: s
    | none => []) ++
  match a.fragment with
    | some s => '#' :: s
    | none => []

def readable (a : Address) : String := String.ofList (Percent.unescapeForm a.toText)

/-- Whether an address tells where its host is and how to reach it. -/
def isAbsolute (a : Address) : Bool := !a.scheme.isEmpty && !a.host.isEmpty

/-! ## Other addresses -/

def written (a : Address) : WrittenAddress :=
  ⟨a.scheme, a.authority, a.path, a.query, a.fragment, none⟩

/-- The address that is written, each part being looked at on its own. -/
def reassembled (w : WrittenAddress) : Except AddressFlaw Address := do
  w.checkParts
  ofWritten w

def withQuery (a : Address) (query : List Char) : Except AddressFlaw Address :=
  reassembled { a.written with query := some query }

def withFragment (a : Address) (fragment : List Char) : Except AddressFlaw Address :=
  reassembled { a.written with fragment := some fragment }

def withHost (a : Address) (host : List Char) : Except AddressFlaw Address :=
  reassembled { a.written with host := some (bracketed host) }

/-- What an address that does not tell its host leads to when no other address is known: its path
below the root, and its query. -/
def atRoot (a : Address) : Except AddressFlaw Address :=
  if a.isAbsolute then .ok a
  else reassembled ⟨[], [], '/' :: a.path.dropWhile (· = '/'), a.query, none, none⟩

/-! ## The host and the user as they are meant -/

/-- The host that is meant, whose first label may be encoded. -/
def plainHost (a : Address) : Except HostName.Flaw (List Char) :=
  if HostName.encodedMark.isPrefixOf a.host then HostName.decode a.host else .ok a.host

def userAndPassword (a : Address) : List Char × List Char :=
  let (name, password) := cutAt ':' a.user
  (Percent.unescape name, Percent.unescape (password.getD []))

def fullNumber (a : Address) : Option Int :=
  a.number.or (if [['h', 't', 't', 'p'], ['h', 't', 't', 'p', 's']].contains a.scheme then
    usualNumber? a.scheme else none)

end Address

end RepoCensus
