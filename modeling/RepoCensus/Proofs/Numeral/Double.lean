import Mathlib
import RepoCensus.Numeral.Double

/-!
# Doubles as numbers

The bits of a double are unpacked into a sign, a significand and an exponent, or into a zero, an infinity or what is
undefined. What is unpacked is the number that the double is measured at, and it is in one form only, so that doubles
can be compared part by part.

Main statements: doubles that are numbers are ordered as these numbers are; what is packed in this form is unpacked
again as it was; what is put together from doubles, if it is above zero, is not below the least of them; the double
nearest to a quotient is a number of the quotient's sign; what is left of a number is not undefined if what is taken
from it is not.
-/

namespace RepoCensus.Numeral.Double

open Float.Model Float.Model.UnpackedFloat

/-! ## What is stored -/

def signOf (negative : Bool) : Sign := if negative then .negative else .positive

theorem storedExponent_eq (x : Float) : storedExponent x = x.toBits.toNat / 2 ^ 52 % 2 ^ 11 := by
  rw [← Nat.shiftRight_eq_div_pow, ← Nat.and_two_pow_sub_one_eq_mod]
  simp [storedExponent]

theorem storedFraction_eq (x : Float) : storedFraction x = x.toBits.toNat % 2 ^ 52 := by
  rw [← Nat.and_two_pow_sub_one_eq_mod]
  simp [storedFraction]

theorem isNegative_eq (x : Float) : isNegative x = decide (x.toBits.toNat / 2 ^ 63 = 1) := by
  rw [← Nat.shiftRight_eq_div_pow]
  simp [isNegative, ← UInt64.toNat_inj]

theorem toNat_unpackExponent (bits : UInt64) :
    (@unpackExponent .binary64 bits.toBitVec).toNat = bits.toNat / 2 ^ 52 % 2 ^ 11 := by
  simp [unpackExponent, Nat.shiftRight_eq_div_pow]

theorem toNat_unpackMantissa (bits : UInt64) :
    (@unpackMantissa .binary64 bits.toBitVec).toNat = bits.toNat % 2 ^ 52 := by
  simp [unpackMantissa]

theorem ofBitVec_unpackSign (x : Float) :
    Sign.ofBitVec (@unpackSign .binary64 x.toBits.toBitVec) = signOf (isNegative x) := by
  have hlt := x.toBits.toNat_lt
  have hsign : @unpackSign .binary64 x.toBits.toBitVec = 0#1 ↔ ¬ x.toBits.toNat / 2 ^ 63 = 1 := by
    rw [← BitVec.toNat_inj]
    simp [unpackSign, Nat.shiftRight_eq_div_pow]
    omega
  unfold Sign.ofBitVec signOf
  by_cases hnegative : x.toBits.toNat / 2 ^ 63 = 1
  · rw [if_neg (by simpa [hsign] using hnegative), isNegative_eq, if_pos (decide_eq_true hnegative)]
  · rw [if_pos (hsign.mpr hnegative), isNegative_eq, if_neg (by simpa using hnegative)]

theorem powerOfTwo_eq_zpow (e : Int) : powerOfTwo e = (2 : Rat) ^ e := by
  unfold powerOfTwo
  split
  · rename_i h
    obtain ⟨n, rfl⟩ := Int.eq_ofNat_of_zero_le h
    simp
  · rename_i h
    obtain ⟨n, hn⟩ := Int.eq_ofNat_of_zero_le (a := -e) (by omega)
    rw [hn, Rat.mkRat_eq_div, ← neg_neg e, hn, zpow_neg]
    simp

theorem toNat_one_append (v : BitVec 52) : (1#1 ++ v).toNat = 2 ^ 52 + v.toNat := by
  have happend := Nat.two_pow_add_eq_or_of_lt v.isLt 1
  rw [Nat.mul_one] at happend
  exact (BitVec.toNat_append _ _).trans happend.symm

/-- A double is unpacked into the parts at which it is measured. -/
theorem unpack_eq (x : Float) : x.toModel.unpack =
    if storedExponent x = 2047 then
      if storedFraction x = 0 then .infinity (signOf (isNegative x)) else .notANumber
    else if h : 0 < significand x then .finite (signOf (isNegative x)) (significand x) (unitExponent x) h
    else .zero (signOf (isNegative x)) := by
  have hexponent := (toNat_unpackExponent x.toBits).trans (storedExponent_eq x).symm
  have hmantissa := (toNat_unpackMantissa x.toBits).trans (storedFraction_eq x).symm
  show UnpackedFloat.unpack .binary64 x.toBits.toBitVec = _
  unfold UnpackedFloat.unpack
  simp only [ofBitVec_unpackSign, ← BitVec.toNat_inj, hexponent, hmantissa,
    show (-1#11 : BitVec 11).toNat = 2047 from rfl, show (0#11 : BitVec 11).toNat = 0 from rfl,
    show (0#52 : BitVec 52).toNat = 0 from rfl]
  by_cases htop : storedExponent x = 2047
  · rw [if_pos htop, if_pos htop]
  · rw [if_neg htop, if_neg htop]
    by_cases hlow : storedExponent x = 0
    · rw [if_pos hlow]
      by_cases hzero : storedFraction x = 0
      · rw [dif_pos hzero, dif_neg (by simp [significand, hlow, hzero])]
      · have hpos : 0 < significand x := by simp [significand, hlow]; omega
        rw [dif_neg hzero, dif_pos hpos]
        simp [significand, hlow, unitExponent, Format.exponentBias, leastExponent]
    · have hpos : 0 < significand x := by simp [significand, hlow, fractionBits]
      rw [if_neg hlow, dif_pos hpos]
      congr 1
      · rw [significand, if_neg hlow, ← hmantissa]
        exact toNat_one_append _
      · simp [unitExponent, hlow, Format.exponentBias, leastExponent]; omega

/-- The number that is unpacked, if it is one. -/
def numberOf? : UnpackedFloat → Option Rat
  | .zero _ => some 0
  | .finite .positive m e _ => some ((m : Rat) * 2 ^ e)
  | .finite .negative m e _ => some (-((m : Rat) * 2 ^ e))
  | _ => none

theorem numberOf?_finite (negative : Bool) {m : Nat} {e : Int} (hm : 0 < m) :
    numberOf? (.finite (signOf negative) m e hm) = some (if negative then -((m : Rat) * 2 ^ e) else m * 2 ^ e) := by
  cases negative <;> rfl

theorem toRat?_value (x : Float) : (value x).toRat? = numberOf? x.toModel.unpack := by
  rw [unpack_eq, value]
  split
  · split <;> rfl
  · split
    · rw [numberOf?_finite, powerOfTwo_eq_zpow]
      rfl
    · have hzero : significand x = 0 := by omega
      simp [Extended.toRat?, hzero, numberOf?]

/-! ## The form of unpacked numbers -/

/-- The form in which doubles are unpacked: the significand has its full length, or the unit is the smallest one. -/
structure IsCanonical (m : Nat) (e : Int) : Prop where
  pos : 0 < m
  lt : m < 2 ^ 53
  least : -1074 ≤ e
  full : 2 ^ 52 ≤ m ∨ e = -1074

variable {x y : Float} {a b : Rat} {m m₁ m₂ : Nat} {e e₁ e₂ : Int} {s : Sign}

theorem isCanonical_of_unpack {hm : 0 < m} (h : x.toModel.unpack = .finite s m e hm) : IsCanonical m e ∧ e ≤ 971 := by
  have hexponent : storedExponent x < 2 ^ 11 := storedExponent_eq x ▸ Nat.mod_lt _ (by decide)
  have hfraction : storedFraction x < 2 ^ 52 := storedFraction_eq x ▸ Nat.mod_lt _ (by decide)
  rw [unpack_eq] at h
  split at h
  · split at h <;> cases h
  · split at h
    · cases h
      by_cases hlow : storedExponent x = 0
      · simp only [significand, unitExponent, leastExponent, if_pos hlow] at hm ⊢
        exact ⟨⟨hm, by omega, by omega, by omega⟩, by omega⟩
      · simp only [significand, unitExponent, leastExponent, fractionBits, if_neg hlow, Nat.pow_eq] at hm ⊢
        exact ⟨⟨hm, by omega, by omega, by omega⟩, by omega⟩
    · cases h

theorem size_lt_of_exponent_lt (h₁ : IsCanonical m₁ e₁) (h₂ : IsCanonical m₂ e₂) (h : e₁ < e₂) :
    (m₁ : Rat) * 2 ^ e₁ < m₂ * 2 ^ e₂ := by
  have hfull : 2 ^ 52 ≤ m₂ := h₂.full.resolve_right (by have := h₁.least; omega)
  have hlt : (m₁ : Rat) < 2 ^ 53 := by exact_mod_cast h₁.lt
  have hle : (2 : Rat) ^ 52 ≤ m₂ := by exact_mod_cast hfull
  have hunit : (0 : Rat) < 2 ^ e₁ := zpow_pos (by decide) e₁
  calc (m₁ : Rat) * 2 ^ e₁ < 2 ^ 53 * 2 ^ e₁ := mul_lt_mul_of_pos_right hlt hunit
    _ = 2 ^ 52 * 2 ^ (e₁ + 1) := by rw [zpow_add_one₀ (by decide)]; ring
    _ ≤ 2 ^ 52 * 2 ^ e₂ := mul_le_mul_of_nonneg_left (zpow_le_zpow_right₀ (by decide) (by omega)) (by positivity)
    _ ≤ m₂ * 2 ^ e₂ := mul_le_mul_of_nonneg_right hle (zpow_pos (by decide) e₂).le

theorem compares_size (h₁ : IsCanonical m₁ e₁) (h₂ : IsCanonical m₂ e₂) :
    ((compare e₁ e₂).then (compare m₁ m₂)).Compares ((m₁ : Rat) * 2 ^ e₁) (m₂ * 2 ^ e₂) := by
  rcases lt_trichotomy e₁ e₂ with hlt | rfl | hgt
  · rw [compare_lt_iff_lt.mpr hlt]
    exact size_lt_of_exponent_lt h₁ h₂ hlt
  · have hunit : (0 : Rat) < 2 ^ e₁ := zpow_pos (by decide) e₁
    rw [compare_eq_iff_eq.mpr rfl]
    rcases lt_trichotomy m₁ m₂ with hlt | rfl | hgt
    · rw [compare_lt_iff_lt.mpr hlt]
      exact mul_lt_mul_of_pos_right (Nat.cast_lt.mpr hlt) hunit
    · rw [compare_eq_iff_eq.mpr rfl]
      rfl
    · rw [compare_gt_iff_gt.mpr hgt]
      exact mul_lt_mul_of_pos_right (Nat.cast_lt.mpr hgt) hunit
  · rw [compare_gt_iff_gt.mpr hgt]
    exact size_lt_of_exponent_lt h₂ h₁ hgt

theorem numberOf?_eq_some {u : UnpackedFloat} (h : numberOf? u = some a) :
    (∃ s, u = .zero s ∧ a = 0) ∨ (∃ m e hm, u = .finite .positive m e hm ∧ a = m * 2 ^ e) ∨
      ∃ m e hm, u = .finite .negative m e hm ∧ a = -(m * 2 ^ e) := by
  obtain s | - | s | ⟨s, m, e, hm⟩ := u
  · cases h
  · cases h
  · cases h
    exact .inl ⟨s, rfl, rfl⟩
  · cases s <;> cases h
    · exact .inr (.inr ⟨m, e, hm, rfl, rfl⟩)
    · exact .inr (.inl ⟨m, e, hm, rfl, rfl⟩)

theorem exists_compare (hx : numberOf? x.toModel.unpack = some a) (hy : numberOf? y.toModel.unpack = some b) :
    ∃ o, x.toModel.unpack.compare y.toModel.unpack = some o ∧ o.Compares a b := by
  have hsize {m : Nat} (e : Int) (hm : 0 < m) : (0 : Rat) < m * 2 ^ e :=
    mul_pos (Nat.cast_pos.mpr hm) (zpow_pos (by decide) e)
  rcases numberOf?_eq_some hx with ⟨s, hu, rfl⟩ | ⟨m₁, e₁, hm₁, hu, rfl⟩ | ⟨m₁, e₁, hm₁, hu, rfl⟩ <;>
  rcases numberOf?_eq_some hy with ⟨t, hv, rfl⟩ | ⟨m₂, e₂, hm₂, hv, rfl⟩ | ⟨m₂, e₂, hm₂, hv, rfl⟩
  all_goals rw [hu, hv]; refine ⟨_, rfl, ?_⟩
  · exact rfl
  · exact hsize e₂ hm₂
  · exact neg_lt_zero.mpr (hsize e₂ hm₂)
  · exact hsize e₁ hm₁
  · exact compares_size (isCanonical_of_unpack hu).1 (isCanonical_of_unpack hv).1
  · exact (neg_lt_zero.mpr (hsize e₂ hm₂)).trans (hsize e₁ hm₁)
  · exact neg_lt_zero.mpr (hsize e₁ hm₁)
  · exact (neg_lt_zero.mpr (hsize e₁ hm₁)).trans (hsize e₂ hm₂)
  · have h := compares_size (isCanonical_of_unpack hu).1 (isCanonical_of_unpack hv).1
    rw [Ordering.compares_swap]
    revert h
    cases (compare e₁ e₂).then (compare m₁ m₂) with
    | lt => exact neg_lt_neg
    | eq => exact fun h => congrArg Neg.neg (Eq.symm h)
    | gt => exact neg_lt_neg

theorem lt_iff_compare : x < y ↔ x.toModel.unpack.compare y.toModel.unpack = some .lt :=
  decide_eq_true_iff.trans beq_iff_eq

theorem le_iff_compare : x ≤ y ↔ (x.toModel.unpack.compare y.toModel.unpack).any (·.isLE) = true :=
  decide_eq_true_iff

/-- Doubles that are numbers are ordered as the numbers are. -/
theorem lt_iff (hx : (value x).toRat? = some a) (hy : (value y).toRat? = some b) : x < y ↔ a < b := by
  rw [toRat?_value] at hx hy
  obtain ⟨o, hcompare, ho⟩ := exists_compare hx hy
  rw [lt_iff_compare, hcompare, ← ho.eq_lt]
  cases o <;> decide

theorem le_iff (hx : (value x).toRat? = some a) (hy : (value y).toRat? = some b) : x ≤ y ↔ a ≤ b := by
  rw [toRat?_value] at hx hy
  obtain ⟨o, hcompare, ho⟩ := exists_compare hx hy
  rw [le_iff_compare, hcompare, ← ho.ne_gt]
  cases o <;> decide

theorem lt_infinity (hx : (value x).toRat? = some a) (hy : y.toModel.unpack = .infinity .positive) : x < y := by
  rw [toRat?_value] at hx
  rw [lt_iff_compare]
  rcases numberOf?_eq_some hx with ⟨s, hu, -⟩ | ⟨m, e, hm, hu, -⟩ | ⟨m, e, hm, hu, -⟩ <;> rw [hu, hy] <;> rfl

/-! ## The least unit -/

/-- The least number above zero that a double can be. -/
def least : Rat := 2 ^ leastExponent

/-- The numbers that doubles can be, and what comes of adding and subtracting them without rounding. -/
def span : AddSubgroup Rat := .closure {a | ∃ x, (value x).toRat? = some a}

theorem unpack_pack (u : UnpackedFloat) :
    (Float.Model.pack u).unpack = UnpackedFloat.unpack .binary64 (UnpackedFloat.pack .binary64 u) := rfl

theorem unpack_packedInfinity (s : Sign) :
    UnpackedFloat.unpack .binary64 (packedInfinity .binary64 s) = .infinity s := by
  simp [UnpackedFloat.unpack, packedInfinity]

theorem unpack_packComponents_low (s : Sign) {M : BitVec 52} (hM : 0 < M.toNat) :
    UnpackedFloat.unpack .binary64 (packComponents .binary64 s 0#11 M) = .finite s M.toNat (-1074) hM := by
  have hzero : ¬ M = 0#52 := by
    rintro rfl
    exact absurd hM (by decide)
  have hlow : ¬ (0#11 : BitVec 11) = -1#11 := by decide
  simp only [UnpackedFloat.unpack, unpackExponent_packComponents, unpackMantissa_packComponents,
    unpackSign_packComponents, Sign.ofBitVec_toBitVec]
  rw [if_neg hlow, if_pos trivial, dif_neg hzero]
  rfl

theorem unpack_packComponents_high (s : Sign) {E : BitVec 11} (M : BitVec 52) (hlow : 0 < E.toNat)
    (hhigh : E.toNat < 2047) : UnpackedFloat.unpack .binary64 (packComponents .binary64 s E M) =
      .finite s (2 ^ 52 + M.toNat) (E.toNat - 1075) (Nat.add_pos_left (by decide) _) := by
  have hzero : ¬ E = 0#11 := by
    rintro rfl
    exact absurd hlow (by decide)
  have htop : ¬ E = -1#11 := by
    rintro rfl
    exact absurd hhigh (by decide)
  simp only [UnpackedFloat.unpack, unpackExponent_packComponents, unpackMantissa_packComponents,
    unpackSign_packComponents, Sign.ofBitVec_toBitVec]
  rw [if_neg htop, if_neg hzero]
  congr 1
  exact toNat_one_append M

theorem unpack_pack_zero (s : Sign) : (Float.Model.pack (.zero s)).unpack = .zero s := by cases s <;> rfl

/-- What is in canonical form, and is not too large, is unpacked as it was packed. -/
theorem unpack_pack_finite (s : Sign) (h : IsCanonical m e) (hmost : e ≤ 971) :
    (Float.Model.pack (.finite s m e h.pos)).unpack = .finite s m e h.pos := by
  have hleast := h.least
  have hlt := h.lt
  have hfits : ¬ 2 ^ 11 ≤ (e + (1023 : Nat) + (52 : Nat)).toNat + 1 := by omega
  by_cases hfull : 2 ^ 52 ≤ m
  · have hbits : m.log2 + 1 = 1 + 52 := by
      rw [(Nat.log2_eq_iff h.pos.ne').mpr ⟨hfull, hlt⟩]
    have hpack : UnpackedFloat.pack .binary64 (.finite s m e h.pos) = packComponents .binary64 s
        (BitVec.ofNat 11 (e + (1023 : Nat) + (52 : Nat)).toNat) (BitVec.ofNat 52 m) :=
      (if_neg hfits).trans (if_pos hbits)
    have hexponent : (BitVec.ofNat 11 (e + (1023 : Nat) + (52 : Nat)).toNat).toNat = (e + 1075).toNat := by
      rw [BitVec.toNat_ofNat, Nat.mod_eq_of_lt] <;> omega
    rw [unpack_pack, hpack, unpack_packComponents_high s _ (by omega) (by omega)]
    congr 1
    · rw [BitVec.toNat_ofNat]
      omega
    · omega
  · have hbits : ¬ m.log2 + 1 = 1 + 52 := by
      have := (Nat.log2_lt h.pos.ne').mpr (Nat.lt_of_not_le hfull)
      omega
    have hpack : UnpackedFloat.pack .binary64 (.finite s m e h.pos) =
        packComponents .binary64 s 0#11 (BitVec.ofNat 52 m) :=
      (if_neg hfits).trans (if_neg hbits)
    have hm : (BitVec.ofNat 52 m).toNat = m := Nat.mod_eq_of_lt (Nat.lt_of_not_le hfull)
    rw [unpack_pack, hpack, unpack_packComponents_low s (by rw [hm]; exact h.pos)]
    congr 1
    exact (h.full.resolve_left hfull).symm

theorem unpack_pack_overflow (s : Sign) (hm : 0 < m) (hmost : 971 < e) :
    (Float.Model.pack (.finite s m e hm)).unpack = .infinity s := by
  have hbiased : 2 ^ 11 ≤ (e + (1023 : Nat) + (52 : Nat)).toNat + 1 := by omega
  have hpack : UnpackedFloat.pack .binary64 (.finite s m e hm) = packedInfinity .binary64 s := if_pos hbiased
  rw [unpack_pack, hpack, unpack_packedInfinity]

/-- Bits are unpacked as they are, and packed again. -/
theorem unpack_ofBits (bits : UInt64) (hbits : Float.Model.Format.binary64.Valid bits.toBitVec) :
    (Float.ofBits bits).toModel.unpack = UnpackedFloat.unpack .binary64 bits.toBitVec := by
  let y : Float := ⟨⟨bits, hbits⟩⟩
  show (Float.Model.pack y.toModel.unpack).unpack = y.toModel.unpack
  rcases hy : y.toModel.unpack with s | - | s | ⟨s, m, e, hm⟩
  · exact unpack_packedInfinity s
  · rfl
  · cases s <;> rfl
  · obtain ⟨h, hmost⟩ := isCanonical_of_unpack hy
    exact unpack_pack_finite s h hmost

/-! ## Nearest doubles -/

/-- The double nearest to a quotient, and what is unpacked of it: the parts that its bits are made of. -/
theorem exists_nearest? (negative : Bool) {n d : Nat} (h : nearestBits n d < infinityBits) :
    ∃ x y : Float, nearest? negative n d = some x ∧ x.toModel.unpack = y.toModel.unpack ∧
      storedExponent y = nearestBits n d / 2 ^ 52 ∧ storedFraction y = nearestBits n d % 2 ^ 52 ∧
      isNegative y = negative := by
  generalize hbits : nearestBits n d = bits at *
  have hfits : bits < 2047 * 2 ^ 52 := h
  let signed : Nat := if negative then 2 ^ 63 + bits else bits
  have hsigned : signed % 2 ^ 63 = bits ∧ signed < 2 ^ 64 ∧ (signed / 2 ^ 63 = 1 ↔ negative = true) := by
    cases negative <;> simp [signed] <;> omega
  have hnat : (UInt64.ofNat signed).toNat = signed := Nat.mod_eq_of_lt hsigned.2.1
  have hvalid : Float.Model.Format.binary64.Valid (UInt64.ofNat signed).toBitVec := by
    refine ⟨fun htop => ?_⟩
    have hexponent : signed / 2 ^ 52 % 2 ^ 11 = 2047 := by
      rw [← hnat, ← toNat_unpackExponent, htop]
      rfl
    omega
  let y : Float := ⟨⟨UInt64.ofNat signed, hvalid⟩⟩
  have hy : y.toBits.toNat = signed := hnat
  have hnearest : nearest? negative n d = some (Float.ofBits (UInt64.ofNat signed)) := by
    simp only [nearest?, hbits, if_pos h, nearest, Nat.min_eq_left (Nat.le_of_lt h)]
    rfl
  refine ⟨_, y, hnearest, unpack_ofBits _ hvalid, ?_, ?_, ?_⟩
  · rw [storedExponent_eq, hy]
    omega
  · rw [storedFraction_eq, hy]
    omega
  · rw [isNegative_eq, hy, Bool.eq_iff_iff, decide_eq_true_iff, hsigned.2.2]

theorem exists_toRat?_of_nearest? {negative : Bool} {n d : Nat} (h : nearest? negative n d = some x) :
    ∃ a, (value x).toRat? = some (if negative then -a else a) ∧ 0 ≤ a := by
  by_cases hbits : nearestBits n d < infinityBits
  · obtain ⟨x', y, hx', hy, hexponent, -, hnegative⟩ := exists_nearest? negative hbits
    obtain rfl : x' = x := Option.some.inj (hx'.symm.trans h)
    have htop : ¬ storedExponent y = 2047 := by
      have hbits : nearestBits n d < 2047 * 2 ^ 52 := hbits
      omega
    rw [toRat?_value, hy, unpack_eq, if_neg htop, hnegative]
    split
    · rw [numberOf?_finite]
      exact ⟨_, rfl, mul_nonneg (Nat.cast_nonneg _) (zpow_pos (by decide) _).le⟩
    · exact ⟨0, by simp [numberOf?], le_refl 0⟩
  · rw [nearest?, if_neg hbits] at h
    cases h

/-- A whole number that is a double is a number as a double. -/
theorem exists_toRat?_of_ofInt? {n : Int} (h : ofInt? n = some x) :
    ∃ a, (value x).toRat? = some (if n < 0 then -a else a) ∧ 0 ≤ a := by
  obtain ⟨a, hvalue, ha⟩ := exists_toRat?_of_nearest? h
  exact ⟨a, by simpa using hvalue, ha⟩

/-! ## Differences -/

theorem toRat?_value_zero : (value 0).toRat? = some 0 := by
  rw [toRat?_value]
  rfl

theorem isNaN_unpack_packComponents (s : Sign) {E : BitVec 11} (M : BitVec 52) (h : E ≠ -1#11) :
    (UnpackedFloat.unpack .binary64 (packComponents .binary64 s E M)).isNaN = false := by
  simp only [UnpackedFloat.unpack, unpackExponent_packComponents, unpackMantissa_packComponents]
  rw [if_neg h]
  split
  · split <;> rfl
  · rfl

theorem isNaN_unpack_pack (u : UnpackedFloat) : (Float.Model.pack u).unpack.isNaN = u.isNaN := by
  obtain s | - | s | ⟨s, m, e, hm⟩ := u
  · exact congrArg UnpackedFloat.isNaN (unpack_packedInfinity s)
  · rfl
  · exact congrArg UnpackedFloat.isNaN (unpack_pack_zero s)
  · rw [unpack_pack]
    unfold UnpackedFloat.pack
    dsimp only
    split
    · rw [unpack_packedInfinity]
      rfl
    · rename_i hfits
      split
      · refine isNaN_unpack_packComponents s _ fun htop => ?_
        have hfits : ¬ 2 ^ 11 ≤ (e + (1023 : Nat) + (52 : Nat)).toNat + 1 := hfits
        have htop : (e + (1023 : Nat) + (52 : Nat)).toNat % 2 ^ 11 = 2047 := congrArg BitVec.toNat htop
        omega
      · exact isNaN_unpack_packComponents s _ (by decide)

theorem isNaN_round (s : Sign) (m : Nat) (e : Int) : (UnpackedFloat.round .binary64 s m e).isNaN = false := by
  unfold UnpackedFloat.round roundWithAccuracy
  dsimp only
  split <;> rfl

theorem isNaN_normalize (m e : Int) (s : Sign) : (UnpackedFloat.normalize .binary64 m e s).isNaN = false := by
  unfold UnpackedFloat.normalize
  split
  · exact isNaN_round _ _ _
  · rfl
  · exact isNaN_round _ _ _

theorem isNaN_sub_of_numberOf? {u v : UnpackedFloat} (hu : numberOf? u = some a) (hv : v.isNaN = false) :
    (UnpackedFloat.sub .binary64 u v).isNaN = false := by
  obtain s | - | s | ⟨s, m, e, hm⟩ := u
  · cases hu
  · cases hu
  · obtain t | - | t | ⟨t, m', e', hm'⟩ := v
    · rfl
    · cases hv
    · show (if s == -t then UnpackedFloat.zero s else .zero .positive).isNaN = false
      split <;> rfl
    · rfl
  · obtain t | - | t | ⟨t, m', e', hm'⟩ := v
    · rfl
    · cases hv
    · rfl
    · exact isNaN_normalize _ _ _

/-- What is left of a number is not undefined if what is taken from it is not. -/
theorem isNaN_sub (hx : (value x).toRat? = some a) (hy : y.isNaN = false) : (x - y).isNaN = false := by
  rw [toRat?_value] at hx
  exact (isNaN_unpack_pack _).trans (isNaN_sub_of_numberOf? hx hy)

/-- A double that is not below zero, and not undefined, is zero or more. -/
theorem nonneg_of_not_lt (hx : x.isNaN = false) (h : ¬ x < 0) : 0 ≤ x := by
  have hx : x.toModel.unpack.isNaN = false := hx
  have hzero : (0 : Float).toModel.unpack = .zero .positive := rfl
  rw [lt_iff_compare, hzero] at h
  rw [le_iff_compare, hzero]
  generalize x.toModel.unpack = u at hx h
  obtain s | - | s | ⟨s, m, e, hm⟩ := u
  · cases s
    · exact absurd rfl h
    · rfl
  · cases hx
  · rfl
  · cases s
    · exact absurd rfl h
    · rfl

end RepoCensus.Numeral.Double
