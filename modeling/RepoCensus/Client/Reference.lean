import RepoCensus.Anomaly
import RepoCensus.Client.Address

/-!
# References

Where the text of an address that was met at another one leads. What it does not tell is taken from
there, step by step; a query, fragment or parameter that is empty counts as missing.
-/

namespace RepoCensus

open RepoCensus.Text

/-- The text of an address in its parts; a part that is missing is empty. -/
structure Reference where
  scheme : List Char
  authority : List Char
  path : List Char
  /-- What follows a semicolon in the last step of the path. -/
  params : List Char
  query : List Char
  fragment : List Char
deriving Repr, DecidableEq

namespace Reference

/-! ## Schemes -/

/-- The schemes whose addresses may be told in part. -/
def relativeSchemes : List String :=
  ["", "ftp", "http", "gopher", "nntp", "imap", "wais", "file", "https", "shttp", "mms", "prospero",
   "rtsp", "rtspu", "sftp", "svn", "svn+ssh", "ws", "wss"]

def hostSchemes : List String :=
  ["", "ftp", "http", "gopher", "nntp", "telnet", "imap", "wais", "file", "mms", "https", "shttp",
   "snews", "prospero", "rtsp", "rtspu", "rsync", "svn", "svn+ssh", "sftp", "nfs", "git",
   "git+ssh", "ws", "wss"]

def paramSchemes : List String :=
  ["", "ftp", "hdl", "prospero", "http", "imap", "https", "shttp", "rtsp", "rtspu", "sip",
   "sips", "mms", "sftp", "tel"]

def isAmong (schemes : List String) (scheme : List Char) : Bool :=
  schemes.contains (String.ofList scheme)

/-! ## Reading and writing -/

/-- The scheme of a text, or another one if the text has none, and what follows it. -/
def cutScheme (other cs : List Char) : List Char × List Char :=
  match cutAt ':' cs with
  | (scheme, some rest) =>
    if scheme.head?.any Char.isAlpha && scheme.all WrittenAddress.isSchemeChar then
      (scheme.map Char.toLower, rest)
    else (other, cs)
  | (_, none) => (other, cs)

def cutParams (path : List Char) : List Char × List Char :=
  let last := (path.reverse.takeWhile (· ≠ '/')).reverse
  let (step, params) := cutAt ';' last
  (path.take (path.length - last.length) ++ step, params.getD [])

/-- The parts of a text, with the parameters left in the path. A text without a scheme has another
one. -/
def undivided (scheme cs : List Char) : Reference :=
  let (scheme, rest) := cutScheme scheme cs
  let (authority, rest) := WrittenAddress.cutAuthority rest
  let (rest, fragment) := cutAt '#' rest
  let (path, query) := cutAt '?' rest
  ⟨scheme, authority, path, [], query.getD [], fragment.getD []⟩

/-- The parts of a text. A text without a scheme has another one. -/
def ofText (scheme cs : List Char) : Reference :=
  let r := undivided scheme cs
  if isAmong paramSchemes r.scheme then
    let (path, params) := cutParams r.path
    { r with path := path, params := params }
  else r

/-- A part behind its mark, nothing if it is empty. -/
def marked (mark : Char) (part : List Char) : List Char :=
  if part.isEmpty then [] else mark :: part

def toText (r : Reference) : List Char :=
  let path := r.path ++ marked ';' r.params
  let isHosted := !r.authority.isEmpty || (!r.scheme.isEmpty && isAmong hostSchemes r.scheme) ||
    ['/', '/'].isPrefixOf path
  let rooted := if path.isEmpty || path.head? = some '/' then path else '/' :: path
  (if r.scheme.isEmpty then [] else r.scheme ++ [':']) ++
    (if isHosted then '/' :: '/' :: r.authority ++ rooted else path) ++
    marked '?' r.query ++ marked '#' r.fragment

/-! ## Brackets -/

/-- Looks at the brackets of an authority: they stand around the whole host, and the first one to close
ends the address of a machine. -/
def checkAuthority (authority : List Char) : Except Anomaly Unit :=
  match cutAt '[' (Address.cutUser authority).2 with
  | (before, none) => if before.contains ']' then .error .badBrackets else .ok ()
  | (before, some inner) =>
    match cutAt ']' inner with
    | (_, none) => .error .badBrackets
    | (machine, some rest) =>
      if !before.isEmpty || (!rest.isEmpty && rest.head? ≠ some ':') then .error .badBrackets
      else if HostName.isColoned machine then .ok ()
      else .error (.noMachine (String.ofList machine))

/-! ## Joining -/

/-- Steps without their empty ones, but for the first and the last of them. -/
def withoutGaps (steps : List (List Char)) : List (List Char) :=
  steps.take 1 ++ ((steps.drop 1).dropLast.filter (! ·.isEmpty)) ++ (steps.drop 1).getLast?.toList

/-- The steps of a path that was met at another one. A last step that is empty leaves a path that is a
directory. -/
def steps (base path : List Char) : List (List Char) :=
  if path.head? = some '/' then fields '/' path
  else
    let here := fields '/' base
    withoutGaps ((if here.getLast? = some [] then here else here.dropLast) ++ fields '/' path)

/-- Steps without `.` and `..`; the latter takes back the step before it, if there is one. -/
def taken (steps : List (List Char)) : List (List Char) :=
  let done := (steps.foldl (fun done step =>
    if step = ['.'] then done else if step = ['.', '.'] then done.drop 1 else step :: done)
    []).reverse
  if steps.getLast? = some ['.'] || steps.getLast? = some ['.', '.'] then done ++ [[]] else done

/-- The path to which a path that was met at another one leads. -/
def onward (base path : List Char) : List Char :=
  let path := joined '/' (taken (steps base path))
  if path.isEmpty then ['/'] else path

def join (base r : Reference) : Reference :=
  if isAmong hostSchemes r.scheme && !r.authority.isEmpty then r
  else
    let authority := if isAmong hostSchemes r.scheme then base.authority else r.authority
    if r.path.isEmpty && r.params.isEmpty then
      { r with
        authority := authority
        path := base.path
        params := base.params
        query := if r.query.isEmpty then base.query else r.query }
    else { r with authority := authority, path := onward base.path r.path }

/-- Where a text that was met at another one leads; a text of another scheme leads where it says. -/
def resolve (base cs : List Char) : Except Anomaly (List Char) := do
  if base.isEmpty then return cs
  if cs.isEmpty then return base
  let there := ofText [] base
  let r := ofText there.scheme cs
  checkAuthority r.authority
  if r.scheme ≠ there.scheme || !isAmong relativeSchemes r.scheme then return cs
  return (join there r).toText

end Reference

end RepoCensus
