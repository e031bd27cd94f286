import RepoCensus.Proofs.Numeral.Double

/-!
# Doubles times powers of two

A power of two shifts the exponent of a double, or the digits of a significand that has not its full length. Main
statement: the product of a double and a power of two is exact, or it is an infinity and the exact product is beyond all
doubles.
-/

namespace RepoCensus.Numeral.Double

open Float.Model Float.Model.UnpackedFloat

variable {x : Float} {a : Rat} {m : Nat} {e : Int}

/-! ## Rounding what needs no rounding -/

open Float.Model.UnpackedFloat.ExtendedMantissa in
theorem repeat_shiftRightOne (m k : Nat) :
    Nat.repeat shiftRightOne k ⟨m * 2 ^ k, false, false⟩ = ⟨m, false, false⟩ := by
  induction k generalizing m with
  | zero => simp [Nat.repeat]
  | succ k ih =>
      have hpow : m * 2 ^ (k + 1) = m * 2 * 2 ^ k := by ring
      rw [Nat.repeat, hpow, ih]
      simp [shiftRightOne]

theorem targetExponent_eq (h : IsCanonical m e) (k : Nat) :
    Format.binary64.targetExponent (totalExponent (m * 2 ^ k) (e - k)) = e := by
  have hlog : (m * 2 ^ k).log2 = m.log2 + k := by
    have hunit : 0 < 2 ^ k := Nat.two_pow_pos k
    rw [Nat.log2_eq_iff (Nat.mul_pos h.pos hunit).ne', Nat.add_right_comm, Nat.pow_add, Nat.pow_add]
    exact ⟨Nat.mul_le_mul_right _ (Nat.log2_self_le h.pos.ne'), (Nat.mul_lt_mul_right hunit).mpr Nat.lt_log2_self⟩
  have htarget : Format.binary64.targetExponent (totalExponent (m * 2 ^ k) (e - k)) =
      max (m.log2 + 1 + e - 53) (-1074) := by
    unfold totalExponent Format.targetExponent
    rw [hlog]
    congr 1
    have hbits : (Format.binary64.mantissaBits : Int) = 53 := rfl
    rw [hbits]
    omega
  have hbits : m.log2 < 53 := (Nat.log2_lt h.pos.ne').mpr h.lt
  have hleast := h.least
  rw [htarget]
  rcases h.full with hfull | he
  · have := (Nat.le_log2 h.pos.ne').mpr hfull
    omega
  · omega

theorem shiftToTargetExponent_eq (h : IsCanonical m e) (k : Nat) :
    shiftToTargetExponent .binary64 (m * 2 ^ k) (e - k) .exact = (⟨m, false, false⟩, e) := by
  have hshift : (e - (e - k)).toNat = k := by omega
  unfold shiftToTargetExponent shiftToExponent
  dsimp only
  rw [targetExponent_eq h, hshift]
  show (Nat.repeat ExtendedMantissa.shiftRightOne k ⟨m * 2 ^ k, false, false⟩, e - k + k) = _
  rw [repeat_shiftRightOne, Int.sub_add_cancel]

/-- Nothing is lost when a number in canonical form is rounded, in whatever unit it is written. -/
theorem roundWithAccuracy_exact (s : Sign) (h : IsCanonical m e) (k : Nat) :
    roundWithAccuracy .binary64 s (m * 2 ^ k) (e - k) .exact = .finite s m e h.pos := by
  have hagain := shiftToTargetExponent_eq h 0
  rw [Nat.pow_zero, Nat.mul_one, Nat.cast_zero, Int.sub_zero] at hagain
  have hrounded : ExtendedMantissa.roundedMantissa ⟨m, false, false⟩ = m := rfl
  simp only [roundWithAccuracy, shiftToTargetExponent_eq h, hrounded, hagain]
  exact dif_neg h.pos.ne'

/-! ## Powers of two in canonical form -/

/-- A number in canonical form, times a power of two: the form of the product is the longer significand, or the larger
exponent. -/
theorem exists_isCanonical_mul (h : IsCanonical m e) (n : Nat) :
    ∃ j ≤ 52, j ≤ n ∧ IsCanonical (m * 2 ^ j) (e + n - j) := by
  have hlog : m.log2 ≤ 52 := Nat.le_of_lt_succ ((Nat.log2_lt h.pos.ne').mpr h.lt)
  have hleast := h.least
  have hbelow : 2 ^ m.log2 ≤ m := Nat.log2_self_le h.pos.ne'
  have hwidth (j : Nat) (hj : j ≤ 52 - m.log2) : m * 2 ^ j < 2 ^ 53 :=
    calc m * 2 ^ j < 2 ^ (m.log2 + 1) * 2 ^ j := (Nat.mul_lt_mul_right (Nat.two_pow_pos j)).mpr Nat.lt_log2_self
      _ = 2 ^ (m.log2 + 1 + j) := (Nat.pow_add ..).symm
      _ ≤ 2 ^ 53 := Nat.pow_le_pow_right (by decide) (by omega)
  have hpos (j : Nat) : 0 < m * 2 ^ j := Nat.mul_pos h.pos (Nat.two_pow_pos j)
  rcases Nat.le_total n (52 - m.log2) with hn | hn
  -- the significand takes all of the power
  · refine ⟨n, by omega, Nat.le_refl n, hpos n, hwidth n hn, by omega, ?_⟩
    rcases h.full with hfull | he
    · exact .inl (hfull.trans (Nat.le_mul_of_pos_right m (Nat.two_pow_pos n)))
    · exact .inr (by omega)
  -- the significand gets its full length
  · refine ⟨52 - m.log2, by omega, hn, hpos _, hwidth _ (Nat.le_refl _), by omega, .inl ?_⟩
    calc 2 ^ 52 = 2 ^ m.log2 * 2 ^ (52 - m.log2) := by rw [← Nat.pow_add, Nat.add_sub_cancel' hlog]
      _ ≤ m * 2 ^ (52 - m.log2) := Nat.mul_le_mul_right _ hbelow

theorem exists_mul_finite (h : IsCanonical m e) (n : Nat) :
    ∃ m' e', ∃ h' : IsCanonical m' e', (m' : Rat) * 2 ^ e' = m * 2 ^ e * 2 ^ n ∧
      UnpackedFloat.mul .binary64 (.finite .positive m e h.pos) (.finite .positive (2 ^ 52) (n - 52) (by decide)) =
        .finite .positive m' e' h'.pos := by
  obtain ⟨j, hj, hjn, h'⟩ := exists_isCanonical_mul h n
  refine ⟨m * 2 ^ j, e + n - j, h', ?_, ?_⟩
  · have hexponent : (j : Int) + (e + n - j) = e + n := by omega
    calc ((m * 2 ^ j : Nat) : Rat) * 2 ^ (e + n - j) = m * (2 ^ (j : Int) * 2 ^ (e + n - j)) := by
          rw [Nat.cast_mul, Nat.cast_pow, Nat.cast_ofNat, zpow_natCast, mul_assoc]
      _ = m * 2 ^ (e + n) := by rw [← zpow_add₀ (by decide), hexponent]
      _ = m * 2 ^ e * 2 ^ n := by rw [zpow_add₀ (by decide), zpow_natCast, mul_assoc]
  · have hexact := roundWithAccuracy_exact .positive h' (52 - j)
    have hsignificand : m * 2 ^ j * 2 ^ (52 - j) = m * 2 ^ 52 := by
      rw [Nat.mul_assoc, ← Nat.pow_add, Nat.add_sub_cancel' hj]
    have hexponent : e + n - j - (52 - j : Nat) = e + (n - 52) := by omega
    rw [hsignificand, hexponent] at hexact
    exact hexact

theorem two_pow_le_size (hfull : 2 ^ 52 ≤ m) (he : 971 < e) : (2 : Rat) ^ 1024 ≤ m * 2 ^ e := by
  have hle : (2 : Rat) ^ 52 ≤ m := by exact_mod_cast hfull
  calc (2 : Rat) ^ 1024 = 2 ^ 52 * 2 ^ ((972 : Nat) : Int) := by rw [zpow_natCast, ← pow_add]
    _ ≤ (m : Rat) * 2 ^ e := mul_le_mul hle (zpow_le_zpow_right₀ (by decide) he) (by positivity) (Nat.cast_nonneg m)

theorem size_lt_two_pow (h : IsCanonical m e) (he : e ≤ 971) : (m : Rat) * 2 ^ e < 2 ^ 1024 := by
  have hlt : (m : Rat) < 2 ^ 53 := by exact_mod_cast h.lt
  calc (m : Rat) * 2 ^ e < 2 ^ 53 * 2 ^ e := mul_lt_mul_of_pos_right hlt (zpow_pos (by decide) e)
    _ ≤ 2 ^ 53 * 2 ^ ((971 : Nat) : Int) :=
      mul_le_mul_of_nonneg_left (zpow_le_zpow_right₀ (by decide) he) (by positivity)
    _ = 2 ^ 1024 := by rw [zpow_natCast, ← pow_add]

/-- A double that is a number is less than the least power of two that is none. -/
theorem lt_two_pow (hx : (value x).toRat? = some a) : a < 2 ^ 1024 := by
  rw [toRat?_value] at hx
  have hpos : (0 : Rat) < 2 ^ 1024 := by positivity
  rcases numberOf?_eq_some hx with ⟨s, hu, rfl⟩ | ⟨m, e, hm, hu, rfl⟩ | ⟨m, e, hm, hu, rfl⟩
  · exact hpos
  · exact size_lt_two_pow (isCanonical_of_unpack hu).1 (isCanonical_of_unpack hu).2
  · exact (neg_lt_zero.mpr (mul_pos (Nat.cast_pos.mpr hm) (zpow_pos (by decide) e))).trans hpos

/-! ## Powers of two as doubles -/

/-- The bits of a power of two are those of its exponent. -/
theorem nearestBits_two_pow (n : Nat) : nearestBits (2 ^ n) 1 = (n + 1023) * 2 ^ 52 := by
  have hunit : unitFor (2 ^ n) 1 = n - 52 := by
    have hone : Nat.log2 1 = 0 := by decide
    simp [unitFor, fractionBits, leastExponent, hone, Nat.log2_two_pow]
    omega
  have hround : (if 0 ≤ (n : Int) - 52 then halfEven (2 ^ n) (1 * Nat.pow 2 ((n : Int) - 52).toNat)
      else halfEven (2 ^ n * Nat.pow 2 (-((n : Int) - 52)).toNat) 1) = 2 ^ 52 := by
    split
    · have hsplit : 2 ^ n = 2 ^ 52 * 2 ^ ((n : Int) - 52).toNat := by
        rw [← Nat.pow_add]
        congr 1
        omega
      rw [Nat.one_mul, hsplit]
      exact halfEven_mul_right _ (Nat.two_pow_pos _)
    · have hjoin : 2 ^ n * Nat.pow 2 (-((n : Int) - 52)).toNat = 2 ^ 52 * 1 := by
        rw [Nat.pow_eq, ← Nat.pow_add, Nat.mul_one]
        congr 1
        omega
      rw [hjoin]
      exact halfEven_mul_right _ Nat.one_pos
  have hexponent : ((n : Int) - 52 - leastExponent).toNat + 1 = n + 1023 := by
    unfold leastExponent
    omega
  unfold nearestBits
  rw [if_neg (Nat.two_pow_pos n).ne', hunit]
  dsimp only
  rw [hround, hexponent, show Nat.pow 2 fractionBits = 2 ^ 52 from rfl, if_neg (Nat.lt_irrefl _), Nat.sub_self,
    Nat.add_zero]

theorem powerOfTwo?_eq_none {n : Nat} (hn : 1024 ≤ n) : powerOfTwo? n = none := if_pos (by omega)

theorem exists_powerOfTwo? {n : Nat} (hn : n < 1024) :
    ∃ f, powerOfTwo? n = some f ∧ f.toModel.unpack = .finite .positive (2 ^ 52) (n - 52) (by decide) := by
  have hbits : nearestBits (2 ^ n) 1 = (n + 1023) * 2 ^ 52 := nearestBits_two_pow n
  have hfits : nearestBits (2 ^ n) 1 < infinityBits := by
    rw [hbits]
    show (n + 1023) * 2 ^ 52 < 2047 * 2 ^ 52
    omega
  obtain ⟨f, y, hf, hy, hexponent, hfraction, hnegative⟩ := exists_nearest? false hfits
  have hexponent : storedExponent y = n + 1023 := by omega
  have hfraction : storedFraction y = 0 := by omega
  have hlow : ¬ n + 1023 = 0 := by omega
  have htop : ¬ n + 1023 = 2047 := by omega
  have hsignificand : significand y = 2 ^ 52 := by
    rw [significand, hexponent, if_neg hlow, hfraction]
    rfl
  have hunit : unitExponent y = n - 52 := by
    rw [unitExponent, hexponent, if_neg hlow, leastExponent]
    omega
  refine ⟨f, ?_, ?_⟩
  · have hleast : ¬ (n : Int) < leastExponent := by
      unfold leastExponent
      omega
    have hone : Nat.pow 2 (-(n : Int)).toNat = 1 := by
      rw [show (-(n : Int)).toNat = 0 by omega]
    rw [powerOfTwo?, if_neg (by omega), if_neg hleast, hone]
    exact hf
  · rw [hy, unpack_eq, hexponent, if_neg htop, dif_pos (by rw [hsignificand]; decide), hnegative]
    simp only [hsignificand, hunit]
    rfl

/-- A double times a power of two is exact, or too large for a double. -/
theorem mul_two_pow {n : Nat} {f : Float} (hx : (value x).toRat? = some a) (ha : 0 ≤ a)
    (hf : f.toModel.unpack = .finite .positive (2 ^ 52) (n - 52) (by decide)) :
    (value (x * f)).toRat? = some (a * 2 ^ n) ∨
      ((x * f).toModel.unpack = .infinity .positive ∧ 2 ^ 1024 ≤ a * 2 ^ n) := by
  have hmul : (x * f).toModel.unpack =
      (Float.Model.pack (UnpackedFloat.mul .binary64 x.toModel.unpack f.toModel.unpack)).unpack := rfl
  rw [toRat?_value] at hx ⊢
  rw [hmul, hf]
  rcases numberOf?_eq_some hx with ⟨s, hu, rfl⟩ | ⟨m, e, hm, hu, rfl⟩ | ⟨m, e, hm, hu, rfl⟩
  · left
    rw [hu, zero_mul, show UnpackedFloat.mul .binary64 (.zero s) (.finite .positive (2 ^ 52) (n - 52) _) =
      .zero (s * .positive) from rfl, unpack_pack_zero]
    rfl
  · obtain ⟨m', e', hcanonical, hsize, hproduct⟩ := exists_mul_finite (isCanonical_of_unpack hu).1 n
    rw [hu, hproduct, ← hsize]
    rcases Int.lt_or_le 971 e' with hmost | hmost
    · exact .inr ⟨unpack_pack_overflow _ _ hmost, two_pow_le_size (hcanonical.full.resolve_right (by omega)) hmost⟩
    · left
      rw [unpack_pack_finite _ hcanonical hmost]
      rfl
  · have hpos : (0 : Rat) < m * 2 ^ e := mul_pos (Nat.cast_pos.mpr hm) (zpow_pos (by decide) e)
    exact absurd ha (not_le.mpr (neg_lt_zero.mpr hpos))

end RepoCensus.Numeral.Double
