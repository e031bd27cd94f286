import RepoCensus.Client.CookieJar
import RepoCensus.Client.CookieSite
import RepoCensus.Client.LooseDate
import RepoCensus.Numeral.Double

/-!
# Cookies in replies

The cookies that a reply offers, which of them are kept, and which of those that are kept come to an
end. A cookie that is written badly is left out; some faults leave out all cookies of a reply.
-/

namespace RepoCensus

open RepoCensus.Calendar RepoCensus.Numeral RepoCensus.Text

namespace Cookie

/-! ## Time -/

/-- The time by which it is judged whether a cookie has come to its end. Cookies go by the calendar of
the machine and not by the clock of the work. -/
def today : Int := 1795000000

def currentYear : Nat := 2026

/-! ## What is offered -/

inductive Flaw where
  | bad
  | garbled
deriving Repr, DecidableEq

/-- A part of a cookie behind its name; a text is missing when there is no equals sign. -/
inductive Attribute where
  | version (text : Option (List Char))
  | domain (name : Option (List Char))
  | path (path : Option (List Char))
  | number (text : Option (List Char))
  | expires (seconds : Option Int)
  | age (text : Option (List Char))
  | other
deriving Repr, DecidableEq

structure Offer where
  name : List Char
  version : Option (List Char) := none
  domain : Option (List Char) := none
  path : Option (List Char) := none
  /-- The numbers behind the host to which it is bound; it may be bound to the one of its site. -/
  number : Option (Option (List Char)) := none
  expires : Option Int := none
  /-- Whether its age is told, which counts more than when it ends. -/
  hasAge : Bool := false
deriving Repr, DecidableEq

def unquoted (cs : List Char) : List Char :=
  let cs := if cs.head? = some '"' then cs.drop 1 else cs
  if cs.getLast? = some '"' then cs.dropLast else cs

def Attribute.of (key : List Char) (text : Option (List Char)) : Attribute :=
  match String.ofList (key.map Char.toLower) with
  | "version" => .version (text.map unquoted)
  | "domain" => .domain (text.map fun cs => cs.map Char.toLower)
  | "path" => .path text
  | "port" => .number text
  | "expires" => .expires (text.bind fun cs => LooseDate.seconds? currentYear (unquoted cs))
  | "max-age" => .age text
  | _ => .other

/-- What is told first counts, and something must be told. -/
def first {α : Type} (known told : Option α) : Except Flaw (Option α) :=
  match known, told with
  | some a, _ => .ok (some a)
  | none, some a => .ok (some a)
  | none, none => .error .bad

def Offer.with (o : Offer) : Attribute → Except Flaw Offer
  | .version text => do return { o with version := ← first o.version text }
  | .domain name => do return { o with domain := ← first o.domain name }
  | .path path => do return { o with path := ← first o.path path }
  | .number text => .ok { o with number := o.number.or (some text) }
  | .expires seconds =>
    .ok (if o.hasAge then o else { o with expires := o.expires.or seconds })
  | .age none => .error .garbled
  | .age (some text) =>
    match whole? (String.ofList text) with
    | some age => .ok { o with expires := some (today + age), hasAge := true }
    | none => .error .bad
  | .other => .ok o

/-- A key, and the text behind the first equals sign. -/
def pairOf (part : List Char) : List Char × Option (List Char) :=
  let (key, text) := cutAt '=' (trimmed part)
  (trimmed key, text.map trimmed)

def pairsOf (header : String) : List (List Char × Option (List Char)) :=
  (fields ';' header.toList).map pairOf

/-- Whether a header tells an end that cannot even be looked at. -/
def hasGarbledEnd (header : String) : Bool :=
  ((pairsOf header).drop 1).any fun (key, text) =>
    String.ofList (key.map Char.toLower) = "expires" &&
      text.any fun cs => LooseDate.isGarbled (unquoted cs)

/-- The cookie that a header offers, if it offers one. -/
def Offer.ofHeader? (header : String) : Except Flaw (Option Offer) :=
  match pairsOf header with
  | (name, _) :: parts =>
    if name.isEmpty then .ok none
    else do
      let parts := parts.filter fun p => !p.1.isEmpty
      let o ← parts.foldlM (fun o (key, text) => o.with (.of key text)) { name := name }
      return some o
  | [] => .ok none

def offers : List String → Except Flaw (List Offer)
  | [] => .ok []
  | header :: rest =>
    match Offer.ofHeader? header with
    | .ok (some o) => (offers rest).map (o :: ·)
    | .ok none | .error .bad => offers rest
    | .error .garbled => .error .garbled

/-! ## What is kept -/

def endsWith (cs ending : List Char) : Bool := ending.isSuffixOf cs

/-- The domain of a cookie that tells one; it starts with a dot. -/
def dotted (domain : List Char) : List Char :=
  if domain.head? = some '.' then domain else '.' :: domain

/-- Whether a site may tell a domain: one with a dot inside unless the site is local, and one that the
site is part of. The latter is not asked of a version below zero. -/
def domainFits (site : CookieSite) (version : Int) (domain : List Char) : Bool :=
  let host := site.fullHost
  let domain := dotted domain
  let bare := domain.drop 1
  (bare.contains '.' || endsWith host ".local".toList) &&
    (version < 0 || endsWith ('.' :: host) domain || endsWith host (bare ++ ".local".toList) ||
      host.head? = some '.')

/-- Whether the number of a site is among some numbers. None before it may be anything else. -/
def numberAmong (number : List Char) : List (List Char) → Bool
  | [] => false
  | text :: rest =>
    (whole? (String.ofList text)).isSome && (text = number || numberAmong number rest)

/-- Whether a cookie may be kept: its version is at most one, and it fits the site. -/
def Offer.fits (o : Offer) (site : CookieSite) (version : Int) : Bool :=
  let numberFits := match o.number with
    | some (some text) => numberAmong site.numberText (fields ',' (text.filter (! isBlank ·)))
    | _ => true
  version ≤ 1 && o.domain.all (domainFits site version) && numberFits

def Offer.key (o : Offer) (site : CookieSite) (version : Int) : CookieKey where
  domain := (o.domain.map dotted).getD site.fullHost
  path := match o.path with
    | some (c :: cs) => CookieSite.escapedPath (c :: cs)
    | _ => CookieSite.parentPath site.path (version ≠ 0)
  name := o.name

/-- What becomes of a cookie that is offered. -/
inductive Fate where
  | ignored
  | dropped (key : CookieKey)
  | stored (key : CookieKey)
  /-- It ends at a time that cannot be told, and all cookies of the reply are left out. -/
  | garbled
deriving Repr, DecidableEq

/-- What becomes of a cookie that is offered at a site. -/
def Offer.fate (o : Offer) (site : CookieSite) : Fate :=
  match whole? (String.ofList (o.version.getD ['0'])) with
  | none => .ignored
  | some version =>
    let key := o.key site version
    let kept := if o.fits site version then Fate.stored key else .ignored
    match o.expires with
    | none => kept
    | some seconds =>
      if seconds ≤ today then .dropped key
      else if (Double.ofInt? seconds).isNone then .garbled
      else kept

/-- The keys that come to an end, and those that are stored unless all cookies are left out. -/
def settled : List Fate → List CookieKey × Option (List CookieKey)
  | [] => ([], some [])
  | .ignored :: rest => settled rest
  | .dropped key :: rest =>
    let (dropped, stored) := settled rest
    (key :: dropped, stored)
  | .stored key :: rest =>
    let (dropped, stored) := settled rest
    (dropped, stored.map (key :: ·))
  | .garbled :: _ => ([], none)

/-- What the headers of a reply do to the cookies: first cookies come to an end, then others are
stored. -/
def changes (site : CookieSite) (headers : List String) : List CookieChange :=
  if headers.any hasGarbledEnd then []
  else
    match offers headers with
    | .error _ => []
    | .ok offers =>
      let (dropped, stored) := settled (offers.map fun o => o.fate site)
      dropped.map .drop ++ (stored.getD []).map .store

end Cookie

end RepoCensus
