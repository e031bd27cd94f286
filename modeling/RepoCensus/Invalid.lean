import RepoCensus.Category
import RepoCensus.Text.Quoted

/-!
# Refused input

What a caller can ask for that makes no sense, and how it is put to them.
-/

namespace RepoCensus

open RepoCensus.Text

inductive Invalid where
  | notOwnerAndName (text : String)
  | unnamedRepository
  | slashInName (owner name : String)
  | unknownCategory (text : String)
  | undescribedCategory (text : String)
  | below (option : String) (least : Int) (got : String)
  | outside (option : String) (least most : Int) (got : String)
  | negativeDelay
  | noTime (option got : String)
  /-- Two snapshots that are not of one repository. -/
  | differentRepositories (one other : String)
  /-- Categories that are said to have succeeded and failed. -/
  | overlap (categories : List Category)
deriving Repr, DecidableEq

namespace Invalid

def message : Invalid → String
  | notOwnerAndName text => "Invalid repo format. Use 'owner/repo', got: " ++ text
  | unnamedRepository => "Repository owner and name must be non-empty"
  | slashInName owner name => "Invalid repository reference: " ++ owner ++ "/" ++ name
  | unknownCategory text => "Unknown category: " ++ quoted text
  | undescribedCategory text => "No fetch definition for category " ++ quoted text
  | below option least got => s!"{option} must be >= {least}, got {got}"
  | outside option least most got => s!"{option} must be between {least} and {most}, got {got}"
  | negativeDelay => "Delays must be non-negative"
  | noTime option got => s!"{option} must be positive, got {got}"
  | differentRepositories one other => s!"Cannot merge snapshots of {one} and {other}"
  | overlap categories =>
    "Categories both succeeded and failed: " ++ ", ".intercalate (categories.map Category.name)

end Invalid

/-- The categories that a list of texts spells, or the first text that spells none. -/
def Category.parseAll (texts : List String) : Except Invalid (List Category) := do
  let categories ← texts.mapM fun t =>
    match Category.parse? t with
    | some c => .ok c
    | none => .error (.unknownCategory t)
  return Category.distinct categories

end RepoCensus
