import Mathlib.Data.Nat.Init
import RepoCensus.Calendar.Date

/-!
# Days and their dates

Each day from the first of January of the year 1 on has one date. Main statement: the date of a day's number is a date
of the calendar, as far as its years go, and its number is that of the day.
-/

namespace RepoCensus.Calendar

variable {y m n : Nat}

/-! ## Years -/

def daysInYear (year : Nat) : Nat := if isLeap year then 366 else 365

theorem daysBeforeYear_eq (y : Nat) :
    daysBeforeYear y = (y - 1) * 365 + (y - 1) / 4 - (y - 1) / 100 + (y - 1) / 400 := rfl

theorem isLeap_iff : isLeap y = true ↔ y % 4 = 0 ∧ (y % 100 ≠ 0 ∨ y % 400 = 0) := by simp [isLeap]

theorem daysBeforeYear_succ (hy : 1 ≤ y) : daysBeforeYear (y + 1) = daysBeforeYear y + daysInYear y := by
  obtain ⟨z, rfl⟩ := Nat.exists_eq_add_of_le' hy
  have hcenturies : z / 100 ≤ z / 4 := Nat.div_le_div_left (by decide) (by decide)
  simp only [daysBeforeYear_eq, daysInYear, isLeap_iff, Nat.add_sub_cancel, Nat.succ_div, Nat.dvd_iff_mod_eq_zero]
  split <;> split <;> split <;> split <;> omega

theorem daysBeforeYear_mono {y' : Nat} (h : y ≤ y') : daysBeforeYear y ≤ daysBeforeYear y' := by
  induction y', h using Nat.le_induction with
  | base => exact Nat.le_refl _
  | succ y' _ ih =>
      rcases Nat.eq_zero_or_pos y' with rfl | hy
      · exact Nat.le_trans ih (by decide)
      · rw [daysBeforeYear_succ hy]
        omega

/-- The calendar repeats after a cycle of four hundred years. -/
theorem daysBeforeYear_add (k : Nat) (hy : 1 ≤ y) :
    daysBeforeYear (400 * k + y) = Date.daysOfCycle * k + daysBeforeYear y := by
  rw [daysBeforeYear_eq, daysBeforeYear_eq, Date.daysOfCycle]
  omega

theorem isLeap_add (k y : Nat) : isLeap (400 * k + y) = isLeap y := by
  rw [Bool.eq_iff_iff, isLeap_iff, isLeap_iff]
  omega

theorem daysInMonth_add (k y m : Nat) : daysInMonth (400 * k + y) m = daysInMonth y m := by
  unfold daysInMonth
  rw [isLeap_add]

/-! ## Months -/

theorem daysBeforeMonth_succ (hm : 1 ≤ m) : daysBeforeMonth y (m + 1) = daysBeforeMonth y m + daysInMonth y m := by
  cases m with
  | zero => cases hm
  | succ m => rfl

theorem daysBeforeMonth_add (k y m : Nat) : daysBeforeMonth (400 * k + y) m = daysBeforeMonth y m := by
  induction m with
  | zero => rfl
  | succ m ih =>
      rcases Nat.eq_zero_or_pos m with rfl | hm
      · rfl
      · rw [daysBeforeMonth_succ hm, daysBeforeMonth_succ hm, ih, daysInMonth_add]

/-- The months of a year have all its days. -/
theorem daysBeforeMonth_thirteen (y : Nat) : daysBeforeMonth y 13 = daysInYear y := by
  simp only [daysBeforeMonth, daysInMonth, daysInYear]
  split <;> rfl

theorem daysBeforeMonth_le_thirteen (y : Nat) (hm : 1 ≤ m) (hm' : m ≤ 12) :
    daysBeforeMonth y m + daysInMonth y m ≤ daysBeforeMonth y 13 := by
  induction hm' using Nat.decreasingInduction with
  | self => exact Nat.le_refl _
  | of_succ k hk ih =>
      have hnext := daysBeforeMonth_succ (y := y) hm
      have hfar := ih (Nat.le_succ_of_le hm)
      omega

namespace Date

/-! ## The search for a date -/

/-- The year that is searched for is the one in which the day lies. -/
theorem yearFrom_spec (hn : n < daysOfCycle) {year : Nat} (hyear : yearFrom n (n / 366 + 1) 2 = year) :
    1 ≤ year ∧ daysBeforeYear year ≤ n ∧ n < daysBeforeYear (year + 1) := by
  unfold daysOfCycle at hn
  have hstart : daysBeforeYear (n / 366 + 1) ≤ n := by
    rw [daysBeforeYear_eq]
    omega
  have hend : n < daysBeforeYear (n / 366 + 1 + 1 + 1 + 1) := by
    rw [daysBeforeYear_eq]
    omega
  simp only [yearFrom] at hyear
  split at hyear
  · subst hyear
    exact ⟨Nat.le_add_left .., hstart, ‹_›⟩
  · split at hyear
    · subst hyear
      exact ⟨Nat.le_add_left .., Nat.le_of_not_lt ‹_›, ‹_›⟩
    · subst hyear
      exact ⟨Nat.le_add_left .., Nat.le_of_not_lt ‹_›, hend⟩

/-- What is found from a month on is a day of this month or of a later one, as far from this month's first as it was to
be. -/
theorem monthFrom_spec {fuel month day : Nat} (hm : 1 ≤ m) (hfuel : m + fuel = 12)
    (hn : daysBeforeMonth y m + n < daysBeforeMonth y 13) (hfound : monthFrom y n m fuel = (month, day)) :
    1 ≤ month ∧ month ≤ 12 ∧ 1 ≤ day ∧ day ≤ daysInMonth y month ∧
      daysBeforeMonth y month + (day - 1) = daysBeforeMonth y m + n := by
  induction fuel generalizing m n with
  | zero =>
      obtain rfl : m = 12 := hfuel
      have hlast : daysBeforeMonth y 13 = daysBeforeMonth y 12 + daysInMonth y 12 := rfl
      cases hfound
      omega
  | succ fuel ih =>
      rw [monthFrom] at hfound
      split at hfound
      · cases hfound
        omega
      · have hnext := daysBeforeMonth_succ (y := y) hm
        have hfar := ih (by omega) (by omega) (by omega) hfound
        omega

/-- A date of a year of the calendar, or of a later one. -/
structure IsProper (d : Date) : Prop where
  year : 1 ≤ d.year
  month : 1 ≤ d.month ∧ d.month ≤ 12
  day : 1 ≤ d.day ∧ d.day ≤ daysInMonth d.year d.month

theorem ofNumber_spec (n : Nat) : (ofNumber n).IsProper ∧ (ofNumber n).number = n := by
  let rest := n % daysOfCycle
  obtain ⟨year, hyear⟩ : ∃ year, yearFrom rest (rest / 366 + 1) 2 = year := ⟨_, rfl⟩
  obtain ⟨⟨month, day⟩, hmonth⟩ : ∃ found, monthFrom year (rest - daysBeforeYear year) 1 11 = found := ⟨_, rfl⟩
  have hdate : ofNumber n = ⟨400 * (n / daysOfCycle) + year, month, day⟩ := by
    subst hyear
    rw [ofNumber, hmonth]
  have hrest : rest < daysOfCycle := Nat.mod_lt n (by decide)
  obtain ⟨hone, hlow, hhigh⟩ := yearFrom_spec hrest hyear
  have hin : daysBeforeMonth year 1 + (rest - daysBeforeYear year) < daysBeforeMonth year 13 := by
    rw [daysBeforeMonth_thirteen]
    rw [daysBeforeYear_succ hone] at hhigh
    have hfirst : daysBeforeMonth year 1 = 0 := rfl
    omega
  obtain ⟨h₁, h₂, h₃, h₄, h₅⟩ := monthFrom_spec (by omega) rfl hin hmonth
  rw [hdate]
  refine ⟨⟨by dsimp only; omega, ⟨h₁, h₂⟩, h₃, ?_⟩, ?_⟩
  · rwa [daysInMonth_add]
  · have hcycles : daysOfCycle * (n / daysOfCycle) + rest = n := Nat.div_add_mod n daysOfCycle
    have hfirst : daysBeforeMonth year 1 = 0 := rfl
    dsimp only [number]
    rw [daysBeforeYear_add _ hone, daysBeforeMonth_add]
    omega

theorem number_ofNumber (n : Nat) : (ofNumber n).number = n := (ofNumber_spec n).2

theorem isValid_iff {d : Date} : d.isValid = true ↔ d.IsProper ∧ d.year ≤ greatestYear := by
  have hleast : leastYear = 1 := rfl
  simp only [isValid, hleast, Bool.and_eq_true, decide_eq_true_eq]
  constructor
  · rintro ⟨⟨⟨⟨⟨h₁, h₂⟩, h₃⟩, h₄⟩, h₅⟩, h₆⟩
    exact ⟨⟨h₁, ⟨h₃, h₄⟩, h₅, h₆⟩, h₂⟩
  · rintro ⟨⟨h₁, ⟨h₃, h₄⟩, h₅, h₆⟩, h₂⟩
    exact ⟨⟨⟨⟨⟨h₁, h₂⟩, h₃⟩, h₄⟩, h₅⟩, h₆⟩

/-- The day of a date lies in the date's year. -/
theorem IsProper.number_lt {d : Date} (hd : d.IsProper) : d.number < daysBeforeYear (d.year + 1) := by
  obtain ⟨hyear, ⟨hmonth, hmonth'⟩, hday, hday'⟩ := hd
  have hmonths := daysBeforeMonth_le_thirteen d.year hmonth hmonth'
  rw [daysBeforeYear_succ hyear, ← daysBeforeMonth_thirteen, number]
  omega

theorem daysBeforeYear_le_number (d : Date) : daysBeforeYear d.year ≤ d.number := by
  rw [number]
  omega

/-- A day has a date of the calendar as long as it comes before the first of January of the year 10000. -/
theorem year_ofNumber_le_iff : (ofNumber n).year ≤ greatestYear ↔ n < daysBeforeYear (greatestYear + 1) := by
  obtain ⟨hproper, hnumber⟩ := ofNumber_spec n
  constructor
  · intro hyear
    calc n = (ofNumber n).number := hnumber.symm
      _ < daysBeforeYear ((ofNumber n).year + 1) := hproper.number_lt
      _ ≤ daysBeforeYear (greatestYear + 1) := daysBeforeYear_mono (Nat.succ_le_succ hyear)
  · intro hn
    refine Nat.le_of_not_lt fun hyear => Nat.not_lt_of_le ?_ hn
    calc daysBeforeYear (greatestYear + 1) ≤ daysBeforeYear (ofNumber n).year := daysBeforeYear_mono hyear
      _ ≤ (ofNumber n).number := daysBeforeYear_le_number _
      _ = n := hnumber

end Date

end RepoCensus.Calendar
