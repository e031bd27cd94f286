import RepoCensus.Text.Lower

/-!
# Lowered texts

A text in lower case stays as it is when it is lowered. Main statement: to lower a text twice is to lower it once.
-/

namespace RepoCensus.Text

/-! ## Forms of a run -/

namespace CaseRun

def holds (run : CaseRun) (n : Nat) : Bool :=
  run.first ≤ n && n ≤ run.last && (n - run.first) % run.step = 0

/-- The number of code points in a run that is not empty. -/
def size (run : CaseRun) : Nat := (run.last - run.first) / run.step + 1

/-- What the `k`-th code point of a run becomes. -/
def form (run : CaseRun) (k : Nat) : Nat := ((run.first + run.step * k : Nat) + run.shift).toNat

/-- Whether the forms of a run are code points of none of the runs in a list. The forms are looked at one by one only
where another run begins before the last of them and ends after the first. -/
def isSettled (run : CaseRun) : List CaseRun → Bool
  | [] => true
  | other :: rest =>
    let first := (run.first + run.shift).toNat
    let last := (run.last + run.shift).toNat
    Nat.blt last other.first ||
      ((Nat.blt other.last first || (List.range run.size).all fun k => !other.holds (run.form k)) &&
        run.isSettled rest)

variable {run : CaseRun}

theorem form_bounds (hrun : run.first ≤ run.last) {k : Nat} (hk : k < run.size) :
    (run.first + run.shift).toNat ≤ run.form k ∧ run.form k ≤ (run.last + run.shift).toNat := by
  have hsteps : run.step * k ≤ run.last - run.first :=
    Nat.le_trans (Nat.mul_le_mul_left _ (Nat.le_of_lt_succ hk)) (Nat.mul_div_le _ _)
  unfold form
  omega

end CaseRun

variable {run : CaseRun} {runs : List CaseRun} {n : Nat}

/-- A code point that is recased is one of a run, and gets the form that the run gives it. -/
theorem recasedCode_eq_or (n : Nat) (runs : List CaseRun) :
    recasedCode n runs = n ∨
      ∃ run ∈ runs, run.first ≤ run.last ∧ ∃ k < run.size, recasedCode n runs = run.form k := by
  induction runs with
  | nil => exact .inl rfl
  | cons run rest ih =>
      have later : recasedCode n rest = n ∨ ∃ other ∈ run :: rest, other.first ≤ other.last ∧
          ∃ k < other.size, recasedCode n rest = other.form k :=
        ih.imp_right fun ⟨other, hmem, h⟩ => ⟨other, List.mem_cons_of_mem run hmem, h⟩
      unfold recasedCode
      split
      · exact .inl rfl
      · rename_i hfirst
        have hfirst := Nat.le_of_not_lt hfirst
        split
        · rename_i hlast
          split
          · rename_i hstep
            refine .inr ⟨run, List.mem_cons_self, Nat.le_trans hfirst hlast, (n - run.first) / run.step, ?_, ?_⟩
            · exact Nat.lt_succ_of_le (Nat.div_le_div_right (Nat.sub_le_sub_right hlast _))
            · rw [CaseRun.form, Nat.mul_div_cancel' (Nat.dvd_of_mod_eq_zero hstep), Nat.add_sub_cancel' hfirst]
          · exact later
        · exact later

theorem recasedCode_form (hrun : run.first ≤ run.last) {k : Nat} (hk : k < run.size) :
    ∀ {runs : List CaseRun}, run.isSettled runs = true → recasedCode (run.form k) runs = run.form k
  | [], _ => rfl
  | other :: rest, h => by
      obtain ⟨hlow, hhigh⟩ := CaseRun.form_bounds hrun hk
      simp only [CaseRun.isSettled, Bool.or_eq_true, Bool.and_eq_true, Nat.blt_eq, List.all_eq_true, List.mem_range,
        Bool.not_eq_true'] at h
      unfold recasedCode
      split
      · rfl
      · rcases h with h | ⟨h, hrest⟩
        · omega
        · rw [recasedCode_form hrun hk hrest]
          rcases h with h | h
          · rw [if_neg (by omega)]
          · have hholds := h k hk
            simp only [CaseRun.holds, Bool.and_eq_false_iff, decide_eq_false_iff_not] at hholds
            split
            · rw [if_neg (by omega)]
            · rfl

/-! ## Lowered characters -/

/-- A character that is its own lower case, wherever it stands. -/
def IsLowered (c : Char) : Prop := c ≠ capitalSigma ∧ lowerChar c = [c]

instance (c : Char) : Decidable (IsLowered c) := inferInstanceAs (Decidable (_ ∧ _))

/-- The two capitals that have rules of their own, as if they were recased like others. -/
def ruledRuns : List CaseRun := [⟨304, 304, 1, 1⟩, ⟨931, 931, 1, 1⟩]

theorem isSettled_caseRuns : ∀ run ∈ caseRuns, run.isSettled caseRuns = true ∧ run.isSettled ruledRuns = true := by
  decide +kernel

/-- A number that is no code point of a character stands for the least character. -/
theorem toNat_ofNat_or (n : Nat) : (Char.ofNat n).toNat = n ∨ Char.ofNat n = Char.ofNat 0 := by
  by_cases h : n.isValidChar
  · exact .inl (congrArg Char.toNat (dif_pos h))
  · exact .inr (dif_neg h)

theorem isLowered_ofNat_form (hmem : run ∈ caseRuns) (hrun : run.first ≤ run.last) {k : Nat} (hk : k < run.size) :
    IsLowered (Char.ofNat (run.form k)) := by
  obtain ⟨hsettled, hruled⟩ := isSettled_caseRuns run hmem
  have hruled : ∀ n ∈ [304, 931], run.form k ≠ n := by
    have hrecased : ∀ n ∈ [304, 931], recasedCode n ruledRuns ≠ n := by decide
    intro n hn heq
    exact hrecased n hn (heq ▸ recasedCode_form hrun hk hruled)
  rcases toNat_ofNat_or (run.form k) with hcode | hnull
  · refine ⟨fun h => hruled 931 (by decide) ?_, ?_⟩
    · rw [← hcode, h]
      decide
    · have hdotted : Char.ofNat (run.form k) ≠ dottedCapitalI := fun h => hruled 304 (by decide) (by
        rw [← hcode, h]
        decide)
      rw [lowerChar, if_neg hdotted, hcode, recasedCode_form hrun hk hsettled]
  · rw [hnull]
    decide +kernel

theorem isLowered_of_mem_lowerChar {c d : Char} (hc : c ≠ capitalSigma) (h : d ∈ lowerChar c) : IsLowered d := by
  unfold lowerChar at h
  split at h
  · have hdotted : ∀ d ∈ ['i', Char.ofNat 775], IsLowered d :=
      List.forall_mem_cons.mpr ⟨by decide +kernel, List.forall_mem_singleton.mpr (by decide +kernel)⟩
    exact hdotted d h
  · rename_i hdotted
    rw [List.mem_singleton] at h
    subst h
    rcases recasedCode_eq_or c.toNat caseRuns with heq | ⟨run, hmem, hrun, k, hk, heq⟩
    · rw [heq, Char.ofNat_toNat]
      refine ⟨hc, ?_⟩
      rw [lowerChar, if_neg hdotted, heq, Char.ofNat_toNat]
    · rw [heq]
      exact isLowered_ofNat_form hmem hrun hk

/-! ## Lowered texts -/

theorem isLowered_of_mem_lowerFrom {d : Char} :
    ∀ {cs before : List Char}, d ∈ lowerFrom before cs → IsLowered d
  | [], _, h => by cases h
  | c :: cs, before, h => by
      have hsigmas : ∀ d ∈ [Char.ofNat 962, Char.ofNat 963], IsLowered d :=
        List.forall_mem_cons.mpr ⟨by decide +kernel, List.forall_mem_singleton.mpr (by decide +kernel)⟩
      rw [lowerFrom, List.mem_append] at h
      rcases h with h | h
      · split at h
        · refine hsigmas d ?_
          split at h <;> simp_all
        · exact isLowered_of_mem_lowerChar ‹_› h
      · exact isLowered_of_mem_lowerFrom h

theorem lowerFrom_eq_self {cs : List Char} (h : ∀ c ∈ cs, IsLowered c) (before : List Char) :
    lowerFrom before cs = cs := by
  induction cs generalizing before with
  | nil => rfl
  | cons c cs ih =>
      obtain ⟨hsigma, hlower⟩ := h c List.mem_cons_self
      rw [lowerFrom, if_neg hsigma, hlower, ih (fun d hd => h d (List.mem_cons_of_mem c hd))]
      rfl

@[simp] theorem lower_lower (s : String) : lower (lower s) = lower s := by
  rw [lower, lower, String.toList_ofList, lowerFrom_eq_self fun c hc => isLowered_of_mem_lowerFrom hc]

end RepoCensus.Text
