import RepoCensus.Pages.Walk

/-!
# Element by element

Going through a collection one element at a time. A collection can be gone through only once; the next
page is taken when an element of it is asked for.
-/

namespace RepoCensus

open RepoCensus.Calendar

/-- A collection, which may have been begun. -/
structure Paging (α : Type) where
  walk : Walk α
  begun : Bool

inductive Iterator (α : Type) where
  | unused
  | reading (left : List α)
  | ended

/-- What is had when the next element is asked for. -/
inductive Pulled (τ α : Type) where
  | element (a : α)
  | stop
  | broken (fault : Fault τ)

namespace Paging

variable {τ Q R α : Type}

def start (cursor : Option String) : Paging α := ⟨.start cursor, false⟩

/-- A collection that is gone through a second time. -/
def consumed : Fault τ :=
  .unexpected "Paginator already consumed; create a new one from next_token"

/-- The next element, after at most so many turns of the walk. -/
def pullFrom (limits : WalkLimits) (flag : Option Flag)
    (fetch : Option String → Work τ Q R (Page α)) :
    (turns : Nat) → List α → Walk α → Work τ Q R (Pulled τ α × Iterator α × Walk α)
  | _, a :: left, w => return (.element a, .reading left, w)
  | 0, [], w => return (.broken (.tooManyPages w.pages), .ended, w)
  | turns + 1, [], w => do
    match ← Walk.advance limits flag fetch w with
    | (.taken items, w) => pullFrom limits flag fetch turns items w
    | (.over, w) => return (.stop, .ended, w)
    | (.broken fault, w) => return (.broken fault, .ended, w)

def pull (limits : WalkLimits) (flag : Option Flag)
    (fetch : Option String → Work τ Q R (Page α)) (i : Iterator α) (p : Paging α) :
    Work τ Q R (Pulled τ α × Iterator α × Paging α) :=
  let onward (left : List α) : Work τ Q R (Pulled τ α × Iterator α × Paging α) := do
    let (pulled, i, w) ← pullFrom limits flag fetch (p.walk.turnsLeft limits) left p.walk
    return (pulled, i, ⟨w, true⟩)
  match i with
  | .ended => return (.stop, .ended, p)
  | .reading left => onward left
  | .unused => if p.begun then return (.broken consumed, .ended, p) else onward []

/-- Up to `n` elements at a place, and whether the collection ended before. A fault leaves none. -/
def take (limits : WalkLimits) (flag : Option Flag)
    (fetch : Option String → Work τ Q R (Page α)) :
    (n : Nat) → (taken : List α) → Iterator α → Paging α →
      Work τ Q R (Except (Fault τ) (List α × Bool) × Iterator α × Paging α)
  | 0, taken, i, p => return (.ok (taken.reverse, false), i, p)
  | n + 1, taken, i, p => do
    match ← pull limits flag fetch i p with
    | (.element a, i, p) => take limits flag fetch n (a :: taken) i p
    | (.stop, i, p) => return (.ok (taken.reverse, true), i, p)
    | (.broken fault, i, p) => return (.error fault, i, p)

def collect (limits : WalkLimits) (flag : Option Flag)
    (fetch : Option String → Work τ Q R (Page α)) (p : Paging α) :
    Work τ Q R (Except (Fault τ) (List α) × Paging α) := do
  if p.begun then return (.error consumed, p)
  else
    let (r, w) ← Walk.collect limits flag fetch p.walk
    return (r, ⟨w, true⟩)

end Paging

end RepoCensus
