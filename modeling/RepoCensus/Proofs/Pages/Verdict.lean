import Mathlib.Data.List.Induction
import RepoCensus.Proofs.Pages.Chain
import RepoCensus.Proofs.Pages.Walk

/-!
# The verdict on a walk

Whether a walk ends of itself, and how, is told by its limits and by the pages that it took.
-/

namespace RepoCensus

open RepoCensus.Calendar

variable {τ α : Type}

/-- How a walk ends of itself. -/
inductive Verdict where
  | finished
  | repeated (cursor : String)
  | truncated
  | exhausted
deriving DecidableEq

/-- The fault with which a walk over `n` pages breaks, if it breaks. -/
def Verdict.fault (n : Nat) : Verdict → Option (Fault τ)
  | finished | truncated => none
  | repeated cursor => some (.repeatedCursor cursor n)
  | exhausted => some (.tooManyPages n)

namespace WalkLimits

variable {limits : WalkLimits} {n : Nat}

/-- After `n` pages a limit is reached. Before the first page a limit that allows none is. -/
def isReached (n : Nat) (limit : Int) : Bool := if n = 0 then limit ≤ 0 else limit = n

/-- What the limits tell after `n` pages; the number at which a walk is cut off comes first. -/
def verdict (limits : WalkLimits) (n : Nat) : Option Verdict :=
  if limits.maxPages.any (isReached n) then some .truncated
  else if isReached n limits.ceiling then some .exhausted
  else none

/-- Neither limit was reached before `n` pages. -/
def Allows (limits : WalkLimits) (n : Nat) : Prop :=
  0 < n → (∀ m, limits.maxPages = some m → (n : Int) ≤ m) ∧ (n : Int) ≤ limits.ceiling

theorem isReached_iff {limit : Int} (h : 0 < n → (n : Int) ≤ limit) : isReached n limit = true ↔ limit ≤ n := by
  unfold isReached
  split <;> simp only [decide_eq_true_eq] <;> omega

theorem verdict_ne_finished (limits : WalkLimits) (n : Nat) : limits.verdict n ≠ some .finished := by
  unfold verdict
  grind

theorem verdict_ne_repeated (limits : WalkLimits) (n : Nat) (cursor : String) :
    limits.verdict n ≠ some (.repeated cursor) := by
  unfold verdict
  grind

/-- The limits as a walk looks at them, which does not ask whether one was passed. -/
theorem verdict_eq (h : limits.Allows n) : limits.verdict n =
    if limits.maxPages.any fun m => decide (m ≤ (n : Int)) then some .truncated
    else if limits.ceiling ≤ n then some .exhausted else none := by
  have hceiling := isReached_iff fun hn => (h hn).2
  have hmax : limits.maxPages.any (isReached n) = limits.maxPages.any fun m => decide (m ≤ (n : Int)) := by
    cases hm : limits.maxPages with
    | none => rfl
    | some m =>
        have := isReached_iff fun hn => (h hn).1 m hm
        rw [Option.any_some, Option.any_some, Bool.eq_iff_iff, this, decide_eq_true_eq]
  simp only [verdict, hmax, hceiling]

theorem verdict_eq_none_iff (h : limits.Allows n) :
    limits.verdict n = none ↔ (∀ m, limits.maxPages = some m → (n : Int) < m) ∧ (n : Int) < limits.ceiling := by
  rw [verdict_eq h]
  cases hm : limits.maxPages with
  | none => grind
  | some m => grind

theorem Allows.succ (h : limits.Allows n) (hn : limits.verdict n = none) : limits.Allows (n + 1) := by
  obtain ⟨hmax, hceiling⟩ := (verdict_eq_none_iff h).mp hn
  exact fun _ => ⟨fun m hm => hmax m hm, hceiling⟩

theorem Allows.zero (limits : WalkLimits) : limits.Allows 0 := fun h => absurd h (Nat.lt_irrefl 0)

theorem allows_of_verdicts (h : ∀ m < n, limits.verdict m = none) : limits.Allows n := by
  induction n with
  | zero => exact .zero limits
  | succ n ih => exact (ih fun m hm => h m (by omega)).succ (h n (by omega))

theorem Allows.verdict_eq_none {m : Nat} (h : limits.Allows n) (hm : m < n) : limits.verdict m = none := by
  obtain ⟨hmax, hceiling⟩ := h (by omega)
  have hallow : limits.Allows m := fun _ => ⟨fun k hk => by have := hmax k hk; omega, by omega⟩
  exact (verdict_eq_none_iff hallow).mpr ⟨fun k hk => by have := hmax k hk; omega, by omega⟩

theorem Allows.le_mostPages (h : limits.Allows n) : n ≤ limits.mostPages := by
  obtain rfl | hn := Nat.eq_zero_or_pos n
  · exact Nat.zero_le _
  · obtain ⟨hmax, hceiling⟩ := h hn
    unfold mostPages
    cases hm : limits.maxPages with
    | none => simp only; omega
    | some m => have := hmax m hm; simp only; omega

end WalkLimits

namespace Page

variable {limits : WalkLimits} {start : Option String} {page : Page α} {taken : List (Page α)} {cursor : String}

/-- The cursor of the page that follows after these. -/
def cursorAfter (start : Option String) (taken : List (Page α)) : Option String :=
  match taken.getLast? with
  | none => start
  | some page => page.next

/-- Whether and how a walk ends that took these pages: after a page without a cursor, after a cursor that was handed
out before, or at a limit. -/
def verdict (limits : WalkLimits) (taken : List (Page α)) : Option Verdict :=
  match taken.getLast? with
  | none => limits.verdict 0
  | some page =>
    match page.next with
    | none => some .finished
    | some cursor =>
      if cursor ∈ cursors taken.dropLast then some (.repeated cursor) else limits.verdict taken.length

theorem cursors_append (taken taken' : List (Page α)) : cursors (taken ++ taken') = cursors taken ++ cursors taken' :=
  List.filterMap_append

@[simp] theorem cursorAfter_concat (start : Option String) (taken : List (Page α)) (page : Page α) :
    cursorAfter start (taken ++ [page]) = page.next := by
  simp [cursorAfter]

theorem verdict_concat (limits : WalkLimits) (taken : List (Page α)) (page : Page α) :
    verdict limits (taken ++ [page]) = match page.next with
      | none => some .finished
      | some cursor =>
        if cursor ∈ cursors taken then some (.repeated cursor) else limits.verdict (taken.length + 1) := by
  simp [verdict]

theorem verdict_of_next_none (h : page.next = none) : verdict limits (taken ++ [page]) = some .finished := by
  simp only [verdict_concat, h]

theorem verdict_of_mem (hnext : page.next = some cursor) (h : cursor ∈ cursors taken) :
    verdict limits (taken ++ [page]) = some (.repeated cursor) := by
  simp only [verdict_concat, hnext, if_pos h]

theorem verdict_of_not_mem (hnext : page.next = some cursor) (h : cursor ∉ cursors taken) :
    verdict limits (taken ++ [page]) = limits.verdict (taken.length + 1) := by
  simp only [verdict_concat, hnext, if_neg h]

theorem cursorAfter_of_finished (h : verdict limits taken = some .finished) : cursorAfter start taken = none := by
  induction taken using List.reverseRecOn with
  | nil => exact absurd h (limits.verdict_ne_finished 0)
  | append_singleton taken page _ =>
      rw [cursorAfter_concat]
      rw [verdict_concat] at h
      have := limits.verdict_ne_finished (taken.length + 1)
      grind

/-- A walk goes on only after a page with a new cursor, and below its limits. -/
theorem limits_of_verdict (h : verdict limits taken = none) : limits.verdict taken.length = none := by
  induction taken using List.reverseRecOn with
  | nil => exact h
  | append_singleton taken page _ =>
      rw [verdict_concat] at h
      grind

theorem nodup_cursors (h : ∀ n ≤ taken.length, verdict limits (taken.take n) = none) : (cursors taken).Nodup := by
  induction taken using List.reverseRecOn with
  | nil => exact List.nodup_nil
  | append_singleton taken page ih =>
      have htaken : (cursors taken).Nodup := by
        refine ih fun n hn => ?_
        have := h n (by simp; omega)
        rwa [List.take_append_of_le_length hn] at this
      -- the verdict on all the pages says that the last cursor is new
      have hlast := h (taken ++ [page]).length (Nat.le_refl _)
      rw [List.take_length] at hlast
      rw [cursors_append]
      cases hnext : page.next with
      | none => rw [verdict_of_next_none hnext] at hlast; cases hlast
      | some cursor =>
          by_cases hmem : cursor ∈ cursors taken
          · rw [verdict_of_mem hnext hmem] at hlast; cases hlast
          · have hcursors : cursors [page] = [cursor] := by simp [cursors, hnext]
            rw [hcursors]
            exact List.nodup_append.mpr ⟨htaken, List.pairwise_singleton _ cursor, by grind⟩

theorem nodup_cursors_dropLast (h : ∀ n < taken.length, verdict limits (taken.take n) = none) :
    (cursors taken.dropLast).Nodup := by
  induction taken using List.reverseRecOn with
  | nil => exact List.nodup_nil
  | append_singleton taken page _ =>
      have htaken : ∀ n ≤ taken.length, verdict limits (taken.take n) = none := fun n hn => by
        have := h n (by simp; omega)
        rwa [List.take_append_of_le_length hn] at this
      rw [List.dropLast_concat]
      exact nodup_cursors htaken

/-- Only the last page of a walk may tell no cursor. -/
theorem next_ne_none (h : ∀ n < taken.length, verdict limits (taken.take n) = none) (hpage : page ∈ taken.dropLast) :
    page.next ≠ none := by
  obtain ⟨n, hn, rfl⟩ := List.mem_iff_getElem.mp hpage
  rw [List.length_dropLast] at hn
  have hverdict := h (n + 1) (by omega)
  rw [List.take_succ_eq_append_getElem (by omega)] at hverdict
  intro hnone
  rw [List.getElem_dropLast] at hnone
  rw [verdict_of_next_none hnone] at hverdict
  cases hverdict

end Page

end RepoCensus
