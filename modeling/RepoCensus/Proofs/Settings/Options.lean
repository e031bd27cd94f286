import RepoCensus.Settings.Options

/-!
# Options that were looked at

What options are known to satisfy once they were accepted: none of their amounts is below its bound.
-/

namespace RepoCensus

open RepoCensus.Calendar RepoCensus.Numeral

/-! ## Amounts -/

namespace Amount

/-- An amount stands for a whole number, whether it is written as one or not. -/
def IsWhole (a : Amount) (n : Int) : Prop := a.value = .ofRat n

theorem isWhole_number (n : Int) : (number n).IsWhole n := rfl

theorem IsWhole.ceiling {a : Amount} {n : Int} (h : a.IsWhole n) : a.ceiling = n := by
  have hsize : a.size = (number n).size := by
    unfold size
    rw [h, isWhole_number]
  rw [Amount.ceiling, hsize, ← Amount.ceiling, ceiling_number]

theorem IsWhole.isBelow {a : Amount} {n : Int} (h : a.IsWhole n) (m : Int) :
    a.isBelow m = decide (n < m) := by
  rw [← isBelow_number]
  unfold Amount.isBelow
  rw [h, isWhole_number]

theorem le_size {a : Amount} {m n : Int} (hleast : a.isBelow m = false) (hmost : a.isAtMost n = true) :
    (m : Rat) ≤ a.size := by
  unfold isBelow at hleast
  unfold isAtMost at hmost
  unfold size
  generalize a.value = v at hleast hmost
  cases v with
  | undefined => cases hmost
  | infinite negative =>
      have hnegative : negative = true := hmost
      rw [hnegative] at hleast
      cases hleast
  | finite negative size => exact Rat.not_lt.mp (of_decide_eq_false hleast)

theorem le_ceiling {a : Amount} {m n : Int} (hleast : a.isBelow m = false) (hmost : a.isAtMost n = true) :
    m ≤ a.ceiling :=
  Rat.intCast_le_intCast.mp (Rat.le_trans (le_size hleast hmost) Rat.le_ceil)

variable {τ : Type}

theorem atLeast_eq_ok_iff {option : String} {least : Int} {a b : Amount} :
    atLeast (τ := τ) option least (.ok a) = .ok b ↔ a = b ∧ a.isBelow least = false := by
  simp only [atLeast, Fault.lift, bind, Except.bind, pure, Except.pure]
  split
  · simp_all
  · simp_all

theorem isBelow_of_atLeast {option : String} {least : Int} {given : Given Amount} {b : Amount}
    (h : atLeast (τ := τ) option least given = .ok b) : b.isBelow least = false := by
  cases given with
  | error why => cases h
  | ok a =>
      obtain ⟨rfl, ha⟩ := atLeast_eq_ok_iff.mp h
      exact ha

end Amount

/-! ## Options -/

variable {τ : Type} [Seconds τ]

namespace Draft

/-- A draft is accepted if each choice passes its own check. -/
structure Passes (d : Draft τ) (o : Options τ) : Prop where
  concurrency : Amount.atLeast (τ := τ) "concurrency" 1 d.concurrency = .ok o.concurrency
  maxRetries : Amount.atLeast (τ := τ) "max_retries" 1 d.maxRetries = .ok o.maxRetries
  pageCeiling : Amount.atLeast (τ := τ) "page_ceiling" 1 d.pageCeiling = .ok o.pageCeiling
  maxPages : d.maxPages.mapM (Amount.atLeast (τ := τ) "max_pages" 1) = .ok o.maxPages
  perPage : Amount.between (τ := τ) "per_page" 1 Conventions.mostPerPage d.perPage = .ok o.perPage
  baseDelay : delay d.baseDelay = .ok o.baseDelay
  maxDelay : delay d.maxDelay = .ok o.maxDelay
  maxResetWait : delay d.maxResetWait = .ok o.maxResetWait
  timeout : timeLimit "timeout" d.timeout = .ok o.timeout
  safetyMargin : Amount.atLeast (τ := τ) "safety_margin" 0 d.safetyMargin = .ok o.safetyMargin

theorem checked_eq_ok_iff {d : Draft τ} {o : Options τ} : d.checked = .ok o ↔ d.Passes o := by
  constructor
  · intro h
    unfold checked at h
    simp only [bind, Except.bind, pure, Except.pure] at h
    repeat' split at h
    all_goals cases h
    constructor <;> assumption
  · intro h
    unfold checked
    rw [h.concurrency, h.maxRetries, h.pageCeiling, h.maxPages, h.perPage, h.baseDelay, h.maxDelay, h.maxResetWait,
      h.timeout, h.safetyMargin]
    rfl

end Draft

/-- No amount of the options is below its bound. -/
structure Options.Accepted (o : Options τ) : Prop where
  concurrency : o.concurrency.isBelow 1 = false
  maxRetries : o.maxRetries.isBelow 1 = false
  pageCeiling : o.pageCeiling.isBelow 1 = false
  maxPages : ∀ a, o.maxPages = some a → a.isBelow 1 = false
  safetyMargin : o.safetyMargin.isBelow 0 = false

/-- Options that pass their own checks. -/
theorem Draft.accepted_of_checked {d : Draft τ} {o : Options τ} (h : d.checked = .ok o) : o.Accepted := by
  have hpasses := checked_eq_ok_iff.mp h
  constructor
  case concurrency => exact Amount.isBelow_of_atLeast hpasses.concurrency
  case maxRetries => exact Amount.isBelow_of_atLeast hpasses.maxRetries
  case pageCeiling => exact Amount.isBelow_of_atLeast hpasses.pageCeiling
  case safetyMargin => exact Amount.isBelow_of_atLeast hpasses.safetyMargin
  case maxPages =>
    intro a ha
    have hpages := hpasses.maxPages
    rw [ha] at hpages
    cases hd : d.maxPages with
    | none =>
        rw [hd] at hpages
        cases hpages
    | some given =>
        rw [hd] at hpages
        cases hgiven : Amount.atLeast (τ := τ) "max_pages" 1 given with
        | error fault => simp [hgiven, Functor.map, Except.map] at hpages
        | ok b =>
            simp [hgiven, Functor.map, Except.map] at hpages
            exact hpages ▸ Amount.isBelow_of_atLeast hgiven

end RepoCensus
