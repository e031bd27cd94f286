import RepoCensus.Invalid
import RepoCensus.Text.Fields

/-!
# Repositories

A repository is known by its owner and its name.
-/

namespace RepoCensus

open RepoCensus.Text

structure Repository where
  owner : String
  name : String
deriving Repr, DecidableEq

namespace Repository

/-- A repository, if its owner and name can be told apart in `owner/name`. -/
def make (owner name : String) : Except Invalid Repository :=
  if owner = "" ∨ name = "" then .error .unnamedRepository
  else if owner.toList.contains '/' || name.toList.contains '/' then .error (.slashInName owner name)
  else .ok ⟨owner, name⟩

/-- The repository that a text `owner/name` tells. Blanks around the owner and around the name do not
count. -/
def parse (text : String) : Except Invalid Repository :=
  match fields '/' text.toList with
  | [owner, name] => make (String.ofList (trimmed owner)) (String.ofList (trimmed name))
  | _ => .error (.notOwnerAndName text)

def fullName (r : Repository) : String := r.owner ++ "/" ++ r.name

end Repository

end RepoCensus
