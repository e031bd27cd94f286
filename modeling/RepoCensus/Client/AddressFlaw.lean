import RepoCensus.Text.Quoted

/-!
# Flaws of addresses

Why a text is no address, and how that is put to the reader.
-/

namespace RepoCensus

open RepoCensus.Text

/-- The parts of an address that can be replaced. -/
inductive AddressPart where
  | scheme
  | authority
  | path
  | query
  | fragment
  | host
deriving Repr, DecidableEq

def AddressPart.name : AddressPart → String
  | .scheme => "scheme"
  | .authority => "authority"
  | .path => "path"
  | .query => "query"
  | .fragment => "fragment"
  | .host => "host"

inductive AddressFlaw where
  | tooLong
  /-- It has an ASCII character that does not show. -/
  | hidden (c : Char) (position : Nat)
  | partTooLong (part : AddressPart)
  /-- A part has an ASCII character that does not show. -/
  | hiddenIn (part : AddressPart) (c : Char) (position : Nat)
  /-- What looks like four numbers is no address of a machine. -/
  | badDotted (host : String)
  /-- What stands between brackets is no address of a machine. -/
  | badColoned (host : String)
  | badName (host : String)
  | badNumber (text : String)
  | unrooted
  /-- A path without a host starts with two slashes. -/
  | doubleSlash
  | leadingColon
  | other (text : String)
deriving Repr, DecidableEq

namespace AddressFlaw

/-- A character between quotation marks, and where it stands. -/
def placeText (c : Char) (position : Nat) : String :=
  quoted (String.singleton c) ++ s!" at position {position}."

def message : AddressFlaw → String
  | tooLong => "URL too long"
  | hidden c position => "Invalid non-printable ASCII character in URL, " ++ placeText c position
  | partTooLong part => "URL component '" ++ part.name ++ "' too long"
  | hiddenIn part c position =>
    "Invalid non-printable ASCII character in URL " ++ part.name ++ " component, " ++
      placeText c position
  | badDotted host => "Invalid IPv4 address: " ++ quoted host
  | badColoned host => "Invalid IPv6 address: " ++ quoted host
  | badName host => "Invalid IDNA hostname: " ++ quoted host
  | badNumber text => "Invalid port: " ++ quoted text
  | unrooted => "For absolute URLs, path must be empty or begin with '/'"
  | doubleSlash => "Relative URLs cannot have a path starting with '//'"
  | leadingColon => "Relative URLs cannot have a path starting with ':'"
  | other text => text

end AddressFlaw

end RepoCensus
