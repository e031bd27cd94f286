import RepoCensus.Http.Freshness
import RepoCensus.Work.Basic

/-!
# Walking through pages

A collection comes in pages, each of which tells the cursor of the next one. A walk takes a page only
when the elements of the page before it are used up. It ends after a page without a cursor, is cut off
at a number of pages, and never goes on for ever.
-/

namespace RepoCensus

open RepoCensus.Calendar

structure Page (α : Type) where
  items : List α
  next : Option String
  freshness : Option Freshness

structure WalkLimits where
  maxPages : Option Int
  ceiling : Int

structure Walk (α : Type) where
  pages : Nat
  cursor : Option String
  truncated : Bool
  finished : Bool
  firstPage : Option (Page α)
  /-- The cursors that were handed out, the latest first. -/
  seen : List String
  current : Option (Page α)

inductive Turn (τ α : Type) where
  | taken (items : List α)
  | over
  | broken (fault : Fault τ)

namespace Walk

variable {τ Q R α : Type}

open Work

def start (cursor : Option String) : Walk α := ⟨0, cursor, false, false, none, [], none⟩

def take (w : Walk α) (page : Page α) : Walk α :=
  { w with
    pages := w.pages + 1
    firstPage := w.firstPage.or (some page)
    current := some page }

def finish (w : Walk α) : Walk α := { w with cursor := none, finished := true, current := none }

def moveTo (w : Walk α) (cursor : String) : Walk α :=
  { w with cursor := some cursor, seen := cursor :: w.seen, current := none }

def isCut (limits : WalkLimits) (w : Walk α) : Bool :=
  limits.maxPages.any fun m => decide (m ≤ (w.pages : Int))

/-- Takes the next page, unless a limit is reached or the flag is raised. -/
def takeNext (limits : WalkLimits) (flag : Option Flag)
    (fetch : Option String → Work τ Q R (Page α)) (w : Walk α) :
    Work τ Q R (Turn τ α × Walk α) := do
  if w.isCut limits then
    let pages := w.pages
    log .debug s!"Stopped after {pages} pages (max_pages reached)"
    return (.over, { w with truncated := true })
  else if limits.ceiling ≤ w.pages then return (.broken (.tooManyPages w.pages), w)
  else if ← isStopped flag then return (.broken .stopped, w)
  else
    match ← result (fetch w.cursor) with
    | .ok page => return (.taken page.items, w.take page)
    | .error fault => return (.broken fault, w)

/-- Takes a turn: closes the page whose elements are used up, and takes the next one. -/
def advance (limits : WalkLimits) (flag : Option Flag)
    (fetch : Option String → Work τ Q R (Page α)) (w : Walk α) :
    Work τ Q R (Turn τ α × Walk α) :=
  match w.current with
  | none => takeNext limits flag fetch w
  | some page =>
    match page.next with
    | none => return (.over, w.finish)
    | some cursor =>
      if cursor ∈ w.seen then return (.broken (.repeatedCursor cursor w.pages), w)
      else do
        if page.items.isEmpty then
          let pages := w.pages
          log .debug s!"Empty page {pages} with a next cursor, continuing"
        takeNext limits flag fetch (w.moveTo cursor)

/-- The turns that a walk can take before a page too many. -/
def turnsLeft (limits : WalkLimits) (w : Walk α) : Nat := (limits.ceiling - w.pages).toNat + 1

/-- Takes turns until the walk ends; `taken` holds the elements so far, page by page, the latest page
first. -/
def collectFrom (limits : WalkLimits) (flag : Option Flag)
    (fetch : Option String → Work τ Q R (Page α)) :
    (turns : Nat) → (taken : List (List α)) → Walk α →
      Work τ Q R (Except (Fault τ) (List α) × Walk α)
  | 0, _, w => return (.error (.tooManyPages w.pages), w)
  | turns + 1, taken, w => do
    match ← advance limits flag fetch w with
    | (.taken items, w) => collectFrom limits flag fetch turns (items :: taken) w
    | (.over, w) => return (.ok taken.reverse.flatten, w)
    | (.broken fault, w) => return (.error fault, w)

/-- The elements of all pages that are left, and how far the walk came. -/
def collect (limits : WalkLimits) (flag : Option Flag)
    (fetch : Option String → Work τ Q R (Page α)) (w : Walk α) :
    Work τ Q R (Except (Fault τ) (List α) × Walk α) :=
  collectFrom limits flag fetch (w.turnsLeft limits) [] w

end Walk

end RepoCensus
