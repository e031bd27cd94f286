/-!
# Flaws of host names

Why a text cannot be the name of a host.
-/

namespace RepoCensus.HostName

/-- What is wrong with the name of a host. -/
inductive Flaw where
  /-- A label is empty or too long, is not composed, has hyphens or marks where none may stand, has a
  joiner behind what has no name, or encodes nothing in the one way to do so. -/
  | shape
  | character
  /-- A character may not stand between its neighbours. -/
  | context
  /-- Characters that are written in different directions are mixed, or a direction is unknown. -/
  | direction
deriving Repr, DecidableEq

def Flaw.label : Flaw → String
  | .shape => "IDNAError"
  | .character => "InvalidCodepoint"
  | .context => "InvalidCodepointContext"
  | .direction => "IDNABidiError"

end RepoCensus.HostName
