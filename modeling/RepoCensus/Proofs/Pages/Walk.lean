import RepoCensus.Pages.Walk
import RepoCensus.Proofs.Work.Within

/-!
# Walks within bounds

However the pages lead on, a walk takes no more of them than its limits allow, so it costs that many times
what one page costs.
-/

namespace RepoCensus

open RepoCensus.Calendar

variable {σ τ Q R α : Type}

def WalkLimits.mostPages (limits : WalkLimits) : Nat :=
  match limits.maxPages with
  | some m => (min m limits.ceiling).toNat
  | none => limits.ceiling.toNat

namespace Walk

open Work

variable {limits : WalkLimits} {w : Walk α} {flag : Option Flag} {n m : Nat} {post : Page α → Prop}
  {fetch : Option String → Work τ Q R (Page α)}

def pagesLeft (limits : WalkLimits) (w : Walk α) : Nat := limits.mostPages - w.pages

theorem pagesLeft_pos (hcut : ¬ w.isCut limits = true) (hceiling : ¬ limits.ceiling ≤ (w.pages : Int)) :
    0 < w.pagesLeft limits := by
  unfold pagesLeft WalkLimits.mostPages
  unfold isCut at hcut
  cases hm : limits.maxPages with
  | none => simp only; omega
  | some m =>
      simp only [hm, Option.any_some, decide_eq_true_eq] at hcut ⊢
      omega

/-- How a turn may end: a page was taken that was still to be had, or nothing worse than an ordinary fault
happened. -/
def Took (quiet : Prop) (limits : WalkLimits) (w : Walk α) : Turn τ α × Walk α → Prop
  | (.taken _, w') => 0 < w.pagesLeft limits ∧ w'.pages = w.pages + 1
  | (.over, _) => True
  | (.broken fault, _) => quiet → fault.isOrdinary = true

variable [Seconds τ] {c : Crew σ τ Q R}

theorem within_takeNext (hfetch : ∀ cursor, Within c n post (fetch cursor))
    (hm : 0 < w.pagesLeft limits → n ≤ m) :
    Within c m (Took c.sur.Ordinary limits w) (takeNext limits flag fetch w) := by
  refine .ite (fun _ => (Within.log _ _).free fun _ _ => .pure trivial) fun hcut => ?_
  refine .ite (fun _ => .pure fun _ => rfl) fun hceiling => ?_
  have hleft := pagesLeft_pos hcut hceiling
  refine (Within.isStopped flag).free fun stopped _ => ?_
  refine .ite (fun _ => .pure fun _ => rfl) fun _ => ?_
  refine .mono (n := n) (m := m) ?_ (hm hleft) fun _ h => h
  refine (hfetch w.cursor).result.bind (m := 0) fun outcome houtcome => ?_
  cases outcome with
  | ok page => exact .pure ⟨hleft, rfl⟩
  | error fault => exact .pure houtcome

theorem within_advance (hfetch : ∀ cursor, Within c n post (fetch cursor))
    (hm : 0 < w.pagesLeft limits → n ≤ m) :
    Within c m (Took c.sur.Ordinary limits w) (advance limits flag fetch w) := by
  unfold advance
  split
  · exact within_takeNext hfetch hm
  · split
    · exact .pure trivial
    · split
      · exact .pure fun _ => rfl
      · rename_i cursor _ _
        have hnext : Within c m (Took c.sur.Ordinary limits w)
            (takeNext limits flag fetch (w.moveTo cursor)) := within_takeNext (w := w.moveTo cursor) hfetch hm
        exact .ite (fun _ => (Within.log _ _).free fun _ _ => hnext) fun _ => hnext

/-- The pages that a walk may still take bound what it costs. -/
theorem within_collectFrom (hfetch : ∀ cursor, Within c n post (fetch cursor)) (turns : Nat)
    (taken : List (List α)) (w : Walk α) :
    Within c (w.pagesLeft limits * n) (fun r => Ends c.sur.Ordinary (fun _ => True) r.1)
      (collectFrom limits flag fetch turns taken w) := by
  -- on the turns that are left, but what is paid for is the pages that are left: taking one leaves one fewer
  induction turns generalizing taken w with
  | zero => exact .pure fun _ => rfl
  | succ turns ih =>
      unfold collectFrom
      cases hleft : w.pagesLeft limits with
      | zero =>
          rw [Nat.zero_mul]
          refine (within_advance (m := 0) hfetch fun h => ?_).free fun r hr => ?_
          · omega
          · obtain ⟨turn, w'⟩ := r
            cases turn with
            | taken items => exact absurd hr.1 (by omega)
            | «over» => exact .pure trivial
            | broken fault => exact .pure hr
      | succ k =>
          rw [Nat.succ_mul, Nat.add_comm]
          refine (within_advance (m := n) hfetch fun _ => Nat.le_refl n).bind fun r hr => ?_
          obtain ⟨turn, w'⟩ := r
          cases turn with
          | taken items =>
              have hk : w'.pagesLeft limits = k := by
                have := hr.2
                unfold pagesLeft at hleft ⊢
                omega
              exact hk ▸ ih (items :: taken) w'
          | «over» => exact .pure trivial
          | broken fault => exact .pure hr

/-- A walk costs what a page costs, as often as there are pages that its limits allow. -/
theorem within_collect (hfetch : ∀ cursor, Within c n post (fetch cursor)) (cursor : Option String) :
    Within c (limits.mostPages * n) (fun r => Ends c.sur.Ordinary (fun _ => True) r.1)
      (collect limits flag fetch (start cursor)) :=
  within_collectFrom hfetch _ [] (start cursor)

end Walk

end RepoCensus
