import RepoCensus.Fault.Basic

/-!
# Failures

The final failure of one category: a reason, the fault behind it, and how often the request that failed
was tried.
-/

namespace RepoCensus

open RepoCensus.Calendar

/-- The final failure of a category. -/
structure Failure (τ : Type) where
  category : Category
  reason : Reason
  cause : Option (Fault τ)
  attempts : Int
deriving Repr

namespace Failure

variable {τ : Type} [Seconds τ]

def message (f : Failure τ) : String := textFor f.category.name f.reason (f.cause.map Fault.message)

/-- The text of a failure as it is reported, with the fault behind it as that is reported. -/
def reported (f : Failure τ) : String :=
  textFor f.category.name f.reason (f.cause.map Fault.reported)

/-- The reason that a fault is given when it ends the work on a category; other faults are not
expected there. -/
def reasonOf? : Fault τ → Option Reason
  | .overBudget .. => some .rateLimited
  | .gaveUp .. => some .transport
  | .undecodable .. => some .decode
  | .permanent .. => some .transport
  | .endlessPages .. => some .pagination
  | .cancelled .. => some .cancelled
  | _ => none

end Failure

end RepoCensus
