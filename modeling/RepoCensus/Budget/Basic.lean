import RepoCensus.Calendar.Seconds

/-!
# Budgets

How many requests a service still grants, as it tells in its answers.
-/

namespace RepoCensus

open RepoCensus.Calendar

def coreResource : String := "core"

/-- The state of a limit as the service reports it. -/
structure Budget (τ : Type) where
  remaining : Int
  resetAt : τ
  limit : Int
  resource : String
deriving Repr

def Budget.resetMoment {τ : Type} [Seconds τ] (b : Budget τ) : Except Anomaly Moment :=
  Moment.ofTime b.resetAt

end RepoCensus
