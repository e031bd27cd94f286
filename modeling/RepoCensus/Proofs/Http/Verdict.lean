import RepoCensus.Http.Verdict

/-!
# What answers are blamed for

An answer that is no success is blamed for a trouble that may pass, for a limit, or for a trouble that no further
request can mend.
-/

namespace RepoCensus

open RepoCensus.Calendar

variable {τ : Type}

/-- What an answer may be blamed for. -/
def Fault.IsVerdict : Fault τ → Prop
  | .transient .. | .rateLimited .. | .permanent .. => True
  | _ => False

namespace Fault.IsVerdict

variable {fault : Fault τ}

theorem isOrdinary (h : fault.IsVerdict) : fault.isOrdinary = true := by
  cases fault <;> first | rfl | exact h.elim

theorem ne_unchanged (h : fault.IsVerdict) : fault ≠ .unchanged := by
  rintro rfl
  exact h

end Fault.IsVerdict

namespace Response

variable [Seconds τ] {room : Nat} {conventions : Conventions} {now : τ} {url detail : String} {r : Response}
  {fault : Fault τ}

theorem isVerdict_of_refusal (h : r.refusal conventions now url detail = .ok fault) : fault.IsVerdict := by
  unfold refusal at h
  cases hretry : (r.retryAfter conventions now : Except Anomaly (Option τ)) with
  | error why => rw [hretry] at h; cases h
  | ok retryAfter =>
      cases hbudget : (r.budget conventions : Except Anomaly (Option (Budget τ))) with
      | error why => rw [hretry, hbudget] at h; cases h
      | ok budget =>
          rw [hretry, hbudget] at h
          simp only [bind, Except.bind] at h
          split at h <;> cases h <;> trivial

theorem isVerdict_of_troubleOf (h : r.troubleOf conventions now url detail = .ok fault) : fault.IsVerdict := by
  unfold troubleOf at h
  dsimp only at h
  split at h
  · cases h
    trivial
  · split at h
    · exact isVerdict_of_refusal h
    · repeat' split at h
      all_goals
        cases h
        trivial

/-- An answer without success is blamed as its message and its trouble say. -/
theorem verdict_eq (hr : r.isSuccess = false) :
    (r.verdict room conventions now url : Except Anomaly (Option (Fault τ))) =
      (r.detail room).bind fun detail => (r.troubleOf conventions now url detail).map some := by
  simp only [verdict, hr, Bool.false_eq_true, if_false, bind, Except.bind, pure, Except.pure]
  cases r.detail room with
  | error why => rfl
  | ok detail => cases r.troubleOf (τ := τ) conventions now url detail <;> rfl

omit [Seconds τ] in
/-- A message is found, if only an empty one, unless there is no room for the body. -/
theorem exists_detail_iff : (∃ detail, r.detail room = .ok detail) ↔ Fits room r.body := by
  unfold detail
  constructor
  · rintro ⟨_, h⟩ nest hdocument
    rw [hdocument] at h
    cases h
  · intro hfits
    split
    · exact ⟨_, rfl⟩
    · exact ⟨_, rfl⟩
    · rename_i hdocument
      exact absurd hdocument (hfits.documentOf_ne _)

/-- Whatever the status is, no verdict is reached on an answer without success whose body is too deep. -/
theorem exists_tooDeep_of_not_fits (hr : r.isSuccess = false) (h : ¬ Fits room r.body) :
    ∃ nest, (r.verdict room conventions now url : Except Anomaly (Option (Fault τ))) = .error (.tooDeep nest) := by
  obtain ⟨nest, hdocument⟩ : ∃ nest, documentOf room r.body = .error (.anomaly (.tooDeep nest)) := by
    simpa [Fits] using h
  refine ⟨nest, ?_⟩
  rw [verdict_eq hr, detail, hdocument]
  rfl

/-- What is no success ends in a fault. -/
theorem exists_fault_of_verdict (hr : r.isSuccess = false) {v : Option (Fault τ)}
    (h : r.verdict room conventions now url = .ok v) : ∃ fault, v = some fault ∧ fault.IsVerdict := by
  rw [verdict_eq hr] at h
  cases hdetail : r.detail room with
  | error why =>
      rw [hdetail] at h
      cases h
  | ok detail =>
      rw [hdetail] at h
      cases htrouble : r.troubleOf (τ := τ) conventions now url detail with
      | error why =>
          simp only [Except.bind, htrouble, Except.map] at h
          cases h
      | ok fault =>
          simp only [Except.bind, htrouble, Except.map] at h
          cases h
          exact ⟨fault, rfl, isVerdict_of_troubleOf htrouble⟩

theorem isVerdict_of_verdict (h : r.verdict room conventions now url = .ok (some fault)) : fault.IsVerdict := by
  cases hr : r.isSuccess with
  | true =>
      rw [verdict_of_isSuccess hr] at h
      cases h
  | false =>
      obtain ⟨_, ⟨⟩, hfault⟩ := exists_fault_of_verdict hr h
      exact hfault

end Response

end RepoCensus
