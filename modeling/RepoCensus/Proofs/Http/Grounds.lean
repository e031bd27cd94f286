import RepoCensus.Proofs.Http.Verdict
import RepoCensus.Proofs.Numeral.Double

/-!
# On what grounds an answer is blamed

The status of an answer and the limits that its headers tell decide what it is blamed for. Main statement: an answer is
of use, is blamed for a limit, for a trouble that may pass or for one that may not exactly under the conditions on its
status and its headers that belong to each of these; its body only adds to the text, unless it is nested so deep that
there is no verdict at all.
-/

namespace RepoCensus

open RepoCensus.Calendar RepoCensus.Numeral

/-- The fault with another text. -/
def Fault.retold {τ : Type} (text : String) : Fault τ → Fault τ
  | .transient _ status => .transient text status
  | .timedOut _ status => .timedOut text status
  | .rateLimited _ status resetAt retryAfter => .rateLimited text status resetAt retryAfter
  | .permanent _ status => .permanent text status
  | fault => fault

namespace Response

section

variable {τ : Type} [Seconds τ] {conventions : Conventions} {now : τ} {r : Response}
  {told : Option (Budget τ)} {wait : Option τ}

/-- Whether the service denies a request because of a limit, with the budget that it tells and the wait that it asks
for. -/
def isLimited (told : Option (Budget τ)) (wait : Option τ) (r : Response) : Bool :=
  r.status = 429 || (r.status = 403 && (wait.isSome || told.any fun b => b.remaining = 0))

/-- Whether an answer may be of use when the request is made again. -/
def isPassing (r : Response) : Bool := r.status = 202 || r.status = 408 || 500 ≤ r.status

/-- What an answer is blamed for, with a text that is still to be told. -/
def ground (told : Option (Budget τ)) (wait : Option τ) (r : Response) : Option (String → Fault τ) :=
  if r.isSuccess then none
  else if r.isLimited told wait then
    some fun text => .rateLimited text (some r.status) (told.map Budget.resetAt) wait
  else if r.isPassing then some fun text => .transient text (some r.status)
  else some fun text => .permanent text (some r.status)

/-- Where access is refused, a limit is told exactly if the service denies the request because of one. -/
theorem exists_refusal_eq (hbudget : r.budget conventions = .ok told)
    (hretry : r.retryAfter conventions now = .ok wait) (hstatus : r.status = 403 ∨ r.status = 429)
    (url detail : String) :
    ∃ text, r.refusal conventions now url detail = .ok (if r.isLimited told wait then
      .rateLimited text (some r.status) (told.map Budget.resetAt) wait else .permanent text (some r.status)) := by
  have hlimited : (r.status = 429 || wait.isSome || told.any fun b => b.remaining = 0) = r.isLimited told wait := by
    rcases hstatus with hstatus | hstatus <;> simp [isLimited, hstatus]
  rw [refusal, hretry, hbudget]
  by_cases hdenied : r.isLimited told wait = true
  · simp only [if_pos hdenied]
    exact ⟨_, if_pos (hlimited.trans hdenied)⟩
  · simp only [if_neg hdenied]
    exact ⟨_, if_neg (hlimited ▸ hdenied)⟩

/-- The fault of an answer without success tells its ground. -/
theorem exists_troubleOf_eq (hsuccess : ¬ r.isSuccess = true) (hbudget : r.budget conventions = .ok told)
    (hretry : r.retryAfter conventions now = .ok wait) (url detail : String) :
    ∃ text, (r.troubleOf conventions now url detail).map some =
      .ok ((r.ground told wait).map fun tell => tell text) := by
  unfold troubleOf
  dsimp only
  rw [ground, if_neg hsuccess]
  split
  · rename_i hstatus
    rw [if_neg (by simp [isLimited, hstatus]), if_pos (by simp [isPassing, hstatus])]
    exact ⟨_, rfl⟩
  rename_i hcomputing
  split
  · rename_i hstatus
    have hpassing : ¬ r.isPassing = true := by
      rcases hstatus with hstatus | hstatus <;> simp [isPassing, hstatus]
    obtain ⟨text, hrefusal⟩ := exists_refusal_eq hbudget hretry hstatus url detail
    rw [hrefusal, if_neg hpassing]
    refine ⟨text, ?_⟩
    split <;> rfl
  rename_i hstatus
  rw [not_or] at hstatus
  rw [if_neg (show ¬ r.isLimited told wait = true by simp [isLimited, hstatus])]
  split
  · rename_i hserver
    have hpassing : r.isPassing = true := by simpa [isPassing, hcomputing] using hserver
    rw [if_pos hpassing]
    exact ⟨_, rfl⟩
  · rename_i hserver
    have hpassing : ¬ r.isPassing = true := by simpa [isPassing, hcomputing] using hserver
    rw [if_neg hpassing]
    split
    · exact ⟨_, rfl⟩
    · split <;> exact ⟨_, rfl⟩

/-- Where an answer is of use or its body fits, the verdict tells its ground. -/
theorem exists_verdict_eq {room : Nat} (h : r.isSuccess = true ∨ Fits room r.body)
    (hbudget : r.budget conventions = .ok told) (hretry : r.retryAfter conventions now = .ok wait) (url : String) :
    ∃ text, r.verdict room conventions now url = .ok ((r.ground told wait).map fun tell => tell text) := by
  by_cases hsuccess : r.isSuccess = true
  · exact ⟨"", by rw [verdict_of_isSuccess hsuccess, ground, if_pos hsuccess]; rfl⟩
  · obtain ⟨detail, hdetail⟩ := exists_detail_iff.mpr (h.resolve_left hsuccess)
    obtain ⟨text, htrouble⟩ := exists_troubleOf_eq hsuccess hbudget hretry url detail
    refine ⟨text, ?_⟩
    rw [verdict_eq (Bool.eq_false_iff.mpr hsuccess), hdetail]
    exact htrouble

theorem isSuccess_iff : r.isSuccess = true ↔ r.status = 304 ∨ 200 ≤ r.status ∧ r.status < 300 ∧ r.status ≠ 202 := by
  simp [isSuccess, and_assoc]

omit [Seconds τ] in
theorem isLimited_iff : r.isLimited told wait = true ↔
    r.status = 429 ∨ r.status = 403 ∧ (wait.isSome = true ∨ ∃ b, told = some b ∧ b.remaining = 0) := by
  cases told <;> simp [isLimited]

theorem isPassing_iff : r.isPassing = true ↔ r.status = 202 ∨ r.status = 408 ∨ 500 ≤ r.status := by
  simp [isPassing, or_assoc]

omit [Seconds τ] in
/-- Each ground goes with its own condition, as no two of the conditions hold at once. -/
theorem grounds_iff (told : Option (Budget τ)) (wait : Option τ) (r : Response) (text : String) :
    ((r.ground told wait).map (fun tell => tell text) = none ↔ r.isSuccess = true) ∧
      ((∃ text', (r.ground told wait).map (fun tell => tell text) =
        some (.rateLimited text' (some r.status) (told.map Budget.resetAt) wait)) ↔ r.isLimited told wait = true) ∧
      ((∃ text', (r.ground told wait).map (fun tell => tell text) = some (.transient text' (some r.status))) ↔
        r.isPassing = true) ∧
      ((∃ text', (r.ground told wait).map (fun tell => tell text) = some (.permanent text' (some r.status))) ↔
        ¬ r.isSuccess = true ∧ ¬ r.isLimited told wait = true ∧ ¬ r.isPassing = true) := by
  have hlimited : r.isLimited told wait = true → r.isSuccess = false := by
    rw [isLimited_iff, Bool.eq_false_iff, Ne, isSuccess_iff]
    omega
  have hpassing : r.isPassing = true → r.isSuccess = false ∧ r.isLimited told wait = false := by
    rw [isPassing_iff, Bool.eq_false_iff, Bool.eq_false_iff, Ne, Ne, isSuccess_iff, isLimited_iff]
    omega
  unfold ground
  cases hs : r.isSuccess <;> cases hl : r.isLimited told wait <;> cases hp : r.isPassing <;> simp_all

omit [Seconds τ] in
theorem map_retold_ground (text text' : String) :
    ((r.ground told wait).map fun tell => tell text).map (Fault.retold text') =
      (r.ground told wait).map fun tell => tell text' := by
  unfold ground
  split
  · rfl
  · split
    · rfl
    · split <;> rfl

end

/-! ## Waits that are asked for -/

section

variable {conventions : Conventions} {now : Float} {r : Response}

theorem ofInt?_of_wholeSeconds {n : Int} {x : Float} (h : wholeSeconds n = .ok x) : Double.ofInt? n = some x := by
  unfold wholeSeconds at h
  split at h
  · cases h
    assumption
  · cases h

/-- The wait that an answer asks for is a whole number of seconds, or the time until a date. -/
theorem eq_of_retryAfter {wait : Float} (h : r.retryAfter conventions now = .ok (some wait)) :
    (∃ n : Int, 0 ≤ n ∧ Double.ofInt? n = some wait) ∨
      ∃ n date, Double.ofInt? n = some date ∧ wait = Seconds.timeUntil date now := by
  unfold retryAfter at h
  split at h
  · cases h
  · split at h
    · rename_i n hn
      cases hseconds : (wholeSeconds (max n 0) : Except Anomaly Float) with
      | error why => rw [hseconds] at h; cases h
      | ok seconds =>
          rw [hseconds] at h
          cases h
          exact .inl ⟨_, le_max_right n 0, ofInt?_of_wholeSeconds hseconds⟩
    · unfold untilDate at h
      split at h
      · rename_i n hn
        cases hdate : (wholeSeconds n : Except Anomaly Float) with
        | error why => rw [hdate] at h; cases h
        | ok date =>
            rw [hdate] at h
            cases h
            exact .inr ⟨n, date, ofInt?_of_wholeSeconds hdate, rfl⟩
      · cases h
      · cases h

theorem toRat?_value_of_nonneg {n : Int} {x : Float} (hn : 0 ≤ n) (h : Double.ofInt? n = some x) :
    ∃ a : Rat, (Double.value x).toRat? = some a ∧ 0 ≤ a := by
  obtain ⟨a, hvalue, ha⟩ := Double.exists_toRat?_of_ofInt? h
  rw [if_neg (by omega)] at hvalue
  exact ⟨a, hvalue, ha⟩

theorem timeUntil_eq_or (later now : Float) :
    Seconds.timeUntil later now = 0 ∨ Seconds.timeUntil later now = later - now ∧ ¬ later - now < 0 := by
  by_cases hpast : later - now < 0
  · exact .inl (if_pos hpast)
  · exact .inr ⟨if_neg hpast, hpast⟩

/-- An answer never asks for a wait below zero. -/
theorem not_neg_of_retryAfter {wait : Float} (h : r.retryAfter conventions now = .ok (some wait)) : ¬ wait < 0 := by
  obtain ⟨n, hn, hwhole⟩ | ⟨n, date, -, rfl⟩ := eq_of_retryAfter h
  · obtain ⟨a, hvalue, ha⟩ := toRat?_value_of_nonneg hn hwhole
    rw [Double.lt_iff hvalue Double.toRat?_value_zero]
    exact not_lt.mpr ha
  · obtain htime | ⟨htime, hahead⟩ := timeUntil_eq_or date now
    · rw [htime, Double.lt_iff Double.toRat?_value_zero Double.toRat?_value_zero]
      exact lt_irrefl 0
    · rwa [htime]

theorem nonneg_of_retryAfter {wait : Float} (hnow : now.isNaN = false)
    (h : r.retryAfter conventions now = .ok (some wait)) : 0 ≤ wait := by
  obtain ⟨n, hn, hwhole⟩ | ⟨n, date, hdate, rfl⟩ := eq_of_retryAfter h
  · obtain ⟨a, hvalue, ha⟩ := toRat?_value_of_nonneg hn hwhole
    exact (Double.le_iff Double.toRat?_value_zero hvalue).mpr ha
  · obtain htime | ⟨htime, hahead⟩ := timeUntil_eq_or date now
    · rw [htime]
      exact (Double.le_iff Double.toRat?_value_zero Double.toRat?_value_zero).mpr (le_refl 0)
    · obtain ⟨a, hvalue, -⟩ := Double.exists_toRat?_of_ofInt? hdate
      rw [htime]
      exact Double.nonneg_of_not_lt (Double.isNaN_sub hvalue hnow) hahead

end

/-! ## Verdicts and their grounds -/

/-- Where the headers of an answer can be read, its status and its headers tell which of four verdicts it has: it is of
use, it tells a limit, with the reset time and the wait that the headers tell, it tells a trouble that may pass, or one
that may not. The wait is never below zero: if the clock tells a number, it is zero or more. With whatever body the
answer comes, that verdict is reached, only its text may be another one, exactly if the answer is of use or there is
room for the body; any other body is the end, whatever the status. -/
theorem verdict_has_ground {conventions : Conventions} {now : Float} {r : Response} {told : Option (Budget Float)}
    {wait : Option Float} (hbudget : r.budget conventions = .ok told)
    (hretry : r.retryAfter conventions now = .ok wait) (url : String) :
    ∃ v : Option (Fault Float),
      (v = none ↔ r.status = 304 ∨ 200 ≤ r.status ∧ r.status < 300 ∧ r.status ≠ 202) ∧
      ((∃ text, v = some (.rateLimited text (some r.status) (told.map Budget.resetAt) wait)) ↔
        r.status = 429 ∨ r.status = 403 ∧ (wait.isSome = true ∨ ∃ b, told = some b ∧ b.remaining = 0)) ∧
      ((∃ text, v = some (.transient text (some r.status))) ↔ r.status = 202 ∨ r.status = 408 ∨ 500 ≤ r.status) ∧
      ((∃ text, v = some (.permanent text (some r.status))) ↔
        ¬ (r.status = 304 ∨ 200 ≤ r.status ∧ r.status < 300 ∧ r.status ≠ 202) ∧
        ¬ (r.status = 429 ∨ r.status = 403 ∧ (wait.isSome = true ∨ ∃ b, told = some b ∧ b.remaining = 0)) ∧
        ¬ (r.status = 202 ∨ r.status = 408 ∨ 500 ≤ r.status)) ∧
      (∀ seconds, wait = some seconds → ¬ seconds < 0 ∧ (now.isNaN = false → 0 ≤ seconds)) ∧
      ∀ room body,
        ((∃ text, ({ r with body := body } : Response).verdict room conventions now url =
          .ok (v.map (Fault.retold text))) ↔ v = none ∨ Fits room body) ∧
        ((∃ nest, ({ r with body := body } : Response).verdict room conventions now url =
          (.error (.tooDeep nest) : Except Anomaly (Option (Fault Float)))) ↔ v ≠ none ∧ ¬ Fits room body) := by
  have hgrounds := grounds_iff told wait r ""
  refine ⟨(r.ground told wait).map fun tell => tell "", ?_⟩
  rw [← isSuccess_iff, ← isLimited_iff, ← isPassing_iff]
  refine ⟨hgrounds.1, hgrounds.2.1, hgrounds.2.2.1, hgrounds.2.2.2, ?_, fun room body => ?_⟩
  · rintro seconds rfl
    exact ⟨not_neg_of_retryAfter hretry, fun hnow => nonneg_of_retryAfter hnow hretry⟩
  rw [Ne, hgrounds.1]
  have hbudget' : ({ r with body := body } : Response).budget conventions = .ok told := hbudget
  have hretry' : ({ r with body := body } : Response).retryAfter conventions now = .ok wait := hretry
  have hsame : ground told wait { r with body := body } = r.ground told wait := rfl
  by_cases h : r.isSuccess = true ∨ Fits room body
  · obtain ⟨text, hverdict⟩ := exists_verdict_eq (r := { r with body := body }) h hbudget' hretry' url
    refine ⟨iff_of_true ⟨text, ?_⟩ h, iff_of_false ?_ (fun hnot => h.elim hnot.1 hnot.2)⟩
    · rw [hverdict, hsame, map_retold_ground]
    · rintro ⟨nest, hdeep⟩
      rw [hverdict] at hdeep
      cases hdeep
  · rw [not_or] at h
    obtain ⟨nest, hdeep⟩ : ∃ nest, (({ r with body := body } : Response).verdict room conventions now url :
        Except Anomaly (Option (Fault Float))) = .error (.tooDeep nest) :=
      exists_tooDeep_of_not_fits (Bool.eq_false_iff.mpr h.1) h.2
    refine ⟨iff_of_false ?_ (fun hor => hor.elim h.1 h.2), iff_of_true ⟨nest, hdeep⟩ h⟩
    rintro ⟨text, hverdict⟩
    rw [hdeep] at hverdict
    cases hverdict

/-- A denial that asks for seven seconds. -/
def sevenSeconds : Response := ⟨403, [("retry-after", "7")], []⟩

theorem verdict_has_ground_of_sevenSeconds :
    (∃ text, sevenSeconds.verdict 960 .usual 0 "https://h" =
      .ok (some (.rateLimited text (some 403) none (some (7 : Float))))) ∧ (0 : Float) ≤ 7 := by
  have hbudget : (sevenSeconds.budget .usual : Except Anomaly (Option (Budget Float))) = .ok none := rfl
  have hretry : sevenSeconds.retryAfter .usual (0 : Float) = .ok (some 7) := rfl
  obtain ⟨v, -, hlimited, -, -, hnonneg, hbody⟩ := verdict_has_ground hbudget hretry "https://h"
  obtain ⟨text, rfl⟩ := hlimited.mpr (.inr ⟨rfl, .inl rfl⟩)
  have hfits : Fits 960 [] := fun _ => nofun
  obtain ⟨text', hverdict⟩ := (hbody 960 []).1.mpr (.inr hfits)
  exact ⟨⟨text', hverdict⟩, (hnonneg 7 rfl).2 (by decide +kernel)⟩

/-- The service is down, and says so with one array more inside of each other than there is room for. -/
def deepFailure : Response := ⟨503, [], List.replicate 961 Json.openingByte⟩

/-- That the service is down may pass, yet no such verdict is reached. -/
theorem no_verdict_on_deepFailure :
    deepFailure.verdict 960 .usual 0 "https://h" =
        (.error (.tooDeep .array) : Except Anomaly (Option (Fault Float))) ∧
      ({ deepFailure with body := [] } : Response).verdict 960 .usual 0 "https://h" =
        (.ok (some (.transient "Server error 503 on https://h" (some 503))) : Except Anomaly (Option (Fault Float))) := by
  refine ⟨?_, rfl⟩
  have hsuccess : deepFailure.isSuccess = false := rfl
  rw [verdict_eq hsuccess, detail, deepFailure, documentOf_replicate]
  rfl

end Response

end RepoCensus
