import RepoCensus.Proofs.Budget.Recovery

/-!
# Refills

Permits that are asked for at one time and with one margin. Within a window a tracker deals out what is left of it. Once
the window is over it goes on with the whole limit; but it keeps the end of the old window, so that it goes on with the
whole limit again whenever that is used up, and there is no end of it.
-/

namespace RepoCensus

open RepoCensus.Calendar

variable {τ : Type}

/-- So many permits, asked for at one time and with one margin. -/
def burst (now : τ) (margin : Option Int) (n : Nat) : List (Use τ) := List.replicate n (.reserve now margin)

namespace Budget

/-- The units above those to be kept. -/
def free (b : Budget τ) (keep : Int) : Nat := (b.remaining - keep).toNat

/-- The units of a whole window above those to be kept. -/
def refill (b : Budget τ) (keep : Int) : Nat := (b.limit - keep).toNat

/-- What is left after a permit and `i` others before it, if a new window follows whenever one is used up. -/
def leftAfter (b : Budget τ) (keep : Int) (i : Nat) : Int :=
  if i < b.free keep then b.remaining - 1 - i else b.limit - 1 - ((i - b.free keep) % b.refill keep : Nat)

/-- How many of `n` permits are granted at a time. -/
def dealt [Seconds τ] (b : Budget τ) (now : τ) (keep : Int) (n : Nat) : Nat :=
  if now < b.resetAt ∨ b.limit ≤ keep then min n (b.free keep) else n

/-- One budget is what a permit leaves of the other. -/
structure Leaves [Seconds τ] (now : τ) (keep : Int) (b left : Budget τ) : Prop where
  leftAfter_succ : ∀ i, left.leftAfter keep i = b.leftAfter keep (i + 1)
  dealt_succ : ∀ n, b.dealt now keep (n + 1) = left.dealt now keep n + 1

variable {b : Budget τ} {now : τ} {keep : Int}

theorem leftAfter_zero_of_free (hfree : keep < b.remaining) : b.leftAfter keep 0 = b.remaining - 1 := by
  simp [leftAfter, free, hfree]

theorem leftAfter_zero_of_used_up (hused : b.remaining ≤ keep) : b.leftAfter keep 0 = b.limit - 1 := by
  have hnone : ¬ keep < b.remaining := by omega
  simp [leftAfter, free, hnone]

variable [Seconds τ]

theorem leaves_of_free (hfree : keep < b.remaining) : Leaves now keep b { b with remaining := b.remaining - 1 } where
  leftAfter_succ i := by
    have hunits : (b.remaining - keep).toNat = (b.remaining - 1 - keep).toNat + 1 := by omega
    simp only [leftAfter, free, refill, hunits, Nat.add_lt_add_iff_right, Nat.add_sub_add_right]
    split <;> omega
  dealt_succ n := by
    simp only [dealt, free]
    split <;> omega

theorem leaves_of_refill (hused : b.remaining ≤ keep) (hnow : ¬ now < b.resetAt) (hlimit : keep < b.limit) :
    Leaves now keep b { b with remaining := b.limit - 1 } where
  leftAfter_succ i := by
    have hnone : (b.remaining - keep).toNat = 0 := by omega
    have hunits : (b.limit - keep).toNat = (b.limit - 1 - keep).toNat + 1 := by omega
    simp only [leftAfter, free, refill, hnone, hunits, Nat.not_lt_zero, if_false, Nat.sub_zero]
    generalize (b.limit - 1 - keep).toNat = m
    split
    · rename_i h
      rw [Nat.mod_eq_of_lt (by omega)]
      omega
    · rename_i h
      -- the window has been gone through once
      have hround : i + 1 = i - m + (m + 1) := by omega
      rw [hround, Nat.add_mod_right]
  dealt_succ n := by
    have hopen : ¬ (now < b.resetAt ∨ b.limit ≤ keep) := by
      rintro (h | h)
      · exact hnow h
      · omega
    simp [dealt, hopen]

theorem dealt_of_used_up (hused : b.remaining ≤ keep) (hclosed : now < b.resetAt ∨ b.limit ≤ keep) (n : Nat) :
    b.dealt now keep n = 0 := by
  have hnone : b.free keep = 0 := by
    unfold free
    omega
  simp [dealt, hclosed, hnone]

end Budget

namespace Tracker

variable [Seconds τ] {t : Tracker τ} {b : Budget τ} {now : τ} {margin : Option Int}

/-! ## One permit -/

theorem reserve_of_used_up (hb : t.budget = some b) (hused : b.remaining ≤ t.keep margin)
    (hclosed : now < b.resetAt ∨ b.limit ≤ t.keep margin) : ∃ refusal, t.reserve now margin = (.error refusal, t) := by
  by_cases hnow : now < b.resetAt
  · rw [reserve_of_lt hb hnow, if_pos hused]
    exact ⟨_, rfl⟩
  · simp [reserve, hb, hused, hnow, hclosed.resolve_left hnow]

/-- A permit is granted out of the window or out of a new one, or none is granted from then on. -/
theorem reserve_leaves (hb : t.budget = some b) (now : τ) (margin : Option Int) :
    (∃ refusal, t.reserve now margin = (.error refusal, t) ∧ ∀ n, b.dealt now (t.keep margin) n = 0) ∨
      ∃ left, Budget.Leaves now (t.keep margin) b left ∧ t.reserve now margin =
        (.ok ⟨t.resource, some (b.leftAfter (t.keep margin) 0)⟩,
          { t with budget := some left, reserved := t.reserved + 1 }) := by
  by_cases hfree : t.keep margin < b.remaining
  · right
    refine ⟨_, Budget.leaves_of_free hfree, ?_⟩
    have hmore : ¬ b.remaining ≤ t.keep margin := by omega
    simp [reserve, hb, hmore, grant, Budget.leftAfter_zero_of_free hfree]
  · have hused : b.remaining ≤ t.keep margin := by omega
    by_cases hclosed : now < b.resetAt ∨ b.limit ≤ t.keep margin
    · left
      obtain ⟨refusal, hreserve⟩ := reserve_of_used_up hb hused hclosed
      exact ⟨refusal, hreserve, Budget.dealt_of_used_up hused hclosed⟩
    · right
      obtain ⟨hnow, hlimit⟩ := not_or.mp hclosed
      refine ⟨_, Budget.leaves_of_refill hused hnow (by omega), ?_⟩
      simp [reserve, hb, hused, hnow, hlimit, grant, Budget.leftAfter_zero_of_used_up hused]

/-! ## Many permits -/

theorem permits_burst (hb : t.budget = some b) (now : τ) (margin : Option Int) (n : Nat) :
    (t.grants (burst now margin n)).map Grant.permit = (List.range (b.dealt now (t.keep margin) n)).map fun i =>
      ⟨t.resource, some (b.leftAfter (t.keep margin) i)⟩ := by
  induction n generalizing t b with
  | zero => simp [burst, grants, Budget.dealt]
  | succ n ih =>
      have hsucc : t.grants (burst now margin (n + 1)) =
          (t.granted? (.reserve now margin)).toList ++ (t.reserve now margin).2.grants (burst now margin n) := rfl
      rw [hsucc, List.map_append]
      rcases reserve_leaves hb now margin with ⟨refusal, hreserve, hnone⟩ | ⟨left, hleaves, hreserve⟩
      · rw [hreserve, ih hb, hnone n, hnone (n + 1)]
        simp [granted?, hreserve, Except.toOption]
      · have hkeep : (t.reserve now margin).2.keep margin = t.keep margin := by rw [hreserve]; rfl
        rw [hreserve] at hkeep ⊢
        rw [ih rfl, hkeep, hleaves.dealt_succ, List.range_succ_eq_map]
        simp [granted?, hreserve, Except.toOption, hleaves.leftAfter_succ]

theorem length_grants_burst (hb : t.budget = some b) (n : Nat) :
    (t.grants (burst now margin n)).length = b.dealt now (t.keep margin) n := by
  simpa using congrArg List.length (permits_burst hb now margin n)

/-- Callers at one time get no more permits than the window and one refill have units, however many they are, if and
only if the window is not over or the whole limit is to be kept. Otherwise each of them gets a permit: whenever a window
is used up, another refill follows. -/
theorem refilled_once_iff (hb : t.budget = some b) (now : τ) (margin : Option Int) :
    ((∀ n, (t.grants (burst now margin n)).length ≤ b.free (t.keep margin) + b.refill (t.keep margin)) ↔
      now < b.resetAt ∨ b.limit ≤ t.keep margin) ∧
    ∀ n, (t.grants (burst now margin n)).map Grant.permit = (List.range (b.dealt now (t.keep margin) n)).map fun i =>
      ⟨t.resource, some (b.leftAfter (t.keep margin) i)⟩ := by
  refine ⟨⟨fun h => ?_, fun hclosed n => ?_⟩, permits_burst hb now margin⟩
  · refine Decidable.byContradiction fun hopen => ?_
    -- one caller more than there are units
    have hmore := h (b.free (t.keep margin) + b.refill (t.keep margin) + 1)
    rw [length_grants_burst hb, Budget.dealt, if_neg hopen] at hmore
    omega
  · rw [length_grants_burst hb, Budget.dealt, if_pos hclosed]
    omega

/-- One unit of two is left of a window that ends at 100. -/
def oneOfTwo : Tracker Rat := (fresh "core" 0 0).update ⟨1, 100, 2, "core"⟩

/-- Until 100 there is one permit; at 100 five callers get the one that is left and four out of two refills. -/
theorem refilled_once_iff_of_oneOfTwo :
    oneOfTwo.budget = some ⟨1, 100, 2, "core"⟩ ∧
      (∀ n, (oneOfTwo.grants (burst 99 none n)).length ≤ 1 + 2) ∧
      (oneOfTwo.grants (burst 100 none 5)).map Grant.permit =
        [⟨"core", some 0⟩, ⟨"core", some 1⟩, ⟨"core", some 0⟩, ⟨"core", some 1⟩, ⟨"core", some 0⟩] := by
  have hb : oneOfTwo.budget = some ⟨1, 100, 2, "core"⟩ := rfl
  refine ⟨hb, ?_, ?_⟩
  · exact (refilled_once_iff hb 99 none).1.mpr (.inl (by decide))
  · exact (refilled_once_iff hb 100 none).2 5

/-- The units of the window and of one refill do not bound the permits that are granted at one time. -/
theorem refill_follows_refill :
    ¬ ∀ (t : Tracker Rat) (b : Budget Rat) (now : Rat) (margin : Option Int) (n : Nat), t.budget = some b →
      (t.grants (burst now margin n)).length ≤ b.free (t.keep margin) + b.refill (t.keep margin) := by
  intro h
  have hfour := h oneOfTwo ⟨1, 100, 2, "core"⟩ 100 none 4 rfl
  exact absurd hfour (by decide)

end Tracker

end RepoCensus
