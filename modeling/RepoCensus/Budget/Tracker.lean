import RepoCensus.Budget.Basic
import RepoCensus.Fault.Basic

/-!
# Tracking a budget

A tracker keeps the budget of one bucket. Every request takes one unit of it; the numbers that the
service tells replace the tracker's own.
-/

namespace RepoCensus

open RepoCensus.Calendar

structure Permit where
  resource : String
  /-- The requests left after it, if the budget is known. -/
  remaining : Option Int
deriving Repr, DecidableEq

structure Refusal (τ : Type) where
  resetAt : τ
  remaining : Int
  resource : String
deriving Repr

def Refusal.fault {τ : Type} (r : Refusal τ) : Fault τ := .overBudget r.resetAt r.remaining r.resource

structure Tracker (τ : Type) where
  resource : String
  safetyMargin : Int
  budget : Option (Budget τ)
  reserved : Nat
  /-- Tells trackers of one bucket apart that were made one after another. -/
  serial : Nat
deriving Repr

namespace Tracker

variable {τ : Type}

def fresh (resource : String) (safetyMargin : Int) (serial : Nat) : Tracker τ :=
  ⟨resource, safetyMargin, none, 0, serial⟩

/-- The requests to keep, given a margin for one call; the larger margin counts. -/
def keep (t : Tracker τ) (margin : Option Int) : Int := max t.safetyMargin (margin.getD 0)

variable [Seconds τ]

def grant (t : Tracker τ) (b : Budget τ) (remaining : Int) : Permit × Tracker τ :=
  (⟨t.resource, some (remaining - 1)⟩,
    { t with budget := some { b with remaining := remaining - 1 }, reserved := t.reserved + 1 })

/-- Whether the budget is used up and its window is over, so that a full window is assumed. -/
def rollsOver (t : Tracker τ) (now : τ) (margin : Option Int) : Bool :=
  t.budget.any fun b => decide (b.remaining ≤ t.keep margin) && !decide (now < b.resetAt)

/-- Asks for a permit. Without a known budget it is granted; a budget that is used up refuses it until
its window is over, and even then if the whole limit is to be kept. -/
def reserve (t : Tracker τ) (now : τ) (margin : Option Int) :
    Except (Refusal τ) Permit × Tracker τ :=
  match t.budget with
  | none => (.ok ⟨t.resource, none⟩, { t with reserved := t.reserved + 1 })
  | some b =>
    let refusal (remaining : Int) : Refusal τ := ⟨b.resetAt, remaining, t.resource⟩
    if b.remaining ≤ t.keep margin then
      if now < b.resetAt then (.error (refusal b.remaining), t)
      else if b.limit ≤ t.keep margin then (.error (refusal b.limit), t)
      else ((t.grant b b.limit).map .ok id)
    else ((t.grant b b.remaining).map .ok id)

/-- Replaces the budget by the one that the service tells. -/
def update (t : Tracker τ) (b : Budget τ) : Tracker τ := { t with budget := some b }

/-- Whether a budget is so low that this is worth a warning: down to the margin or to a hundredth of
the limit. -/
def isLow (t : Tracker τ) (b : Budget τ) : Bool :=
  b.remaining ≤ max t.safetyMargin (b.limit.fdiv 100)

/-- The warning about a low budget. The time of the next window must be one that a clock can show. -/
def lowWarning (t : Tracker τ) (b : Budget τ) : Except Anomaly (Option String) :=
  if t.isLow b then do
    let reset ← b.resetMoment
    let resource := t.resource
    let remaining := b.remaining
    let limit := b.limit
    return some (s!"Rate budget for '{resource}' low: {remaining}/{limit}, resets at " ++
      reset.clockText ++ " UTC")
  else .ok none

def rollOverNote (t : Tracker τ) : String :=
  let resource := t.resource
  let limit := (t.budget.map Budget.limit).getD 0
  s!"Rate window for '{resource}' reset, assuming {limit} requests"

/-- The seconds until the next window, none if no budget is known. -/
def secondsUntilReset (t : Tracker τ) (now : τ) : τ :=
  match t.budget with
  | none => Seconds.zero
  | some b => Seconds.timeUntil b.resetAt now

end Tracker

end RepoCensus
