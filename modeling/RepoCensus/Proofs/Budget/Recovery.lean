import RepoCensus.Http.Limits
import RepoCensus.Proofs.Budget.Window

/-!
# The end of a window

A tracker to which no further budget is told goes on with the limit once its window is over. Without a limit it
goes on with nothing.
-/

namespace RepoCensus

open RepoCensus.Calendar

variable {τ : Type}

/-- No budget is told. -/
def Use.Silent : Use τ → Prop
  | reserve _ _ => True
  | update told => told = none

namespace Tracker

variable [Seconds τ] {t : Tracker τ} {b : Budget τ} {uses : List (Use τ)}

/-! ## One use -/

/-- Once a window is over, a permit is granted out of what was left of it or out of the next one. -/
theorem reserve_over (hb : t.budget = some b) {now : τ} (hnow : ¬ now < b.resetAt) (margin : Option Int) :
    (∃ permit, (t.reserve now margin).1 = .ok permit) ↔
      t.keep margin < b.remaining ∨ t.keep margin < b.limit := by
  unfold reserve
  simp only [hb, hnow, if_false]
  split
  · split
    · constructor
      · rintro ⟨_, ⟨⟩⟩
      · intro h
        omega
    · constructor
      · intro _
        omega
      · intro _
        exact ⟨_, rfl⟩
  · constructor
    · intro _
      omega
    · intro _
      exact ⟨_, rfl⟩

/-- A silent use takes a unit of what was left of the window, or one of the whole limit, or does nothing. -/
theorem use_silent (hb : t.budget = some b) {u : Use τ} (hu : u.Silent) :
    t.granted? u = none ∧ t.use u = t ∨
      ∃ grant whole, t.granted? u = some grant ∧ t.safetyMargin < whole ∧ (whole = b.remaining ∨ whole = b.limit) ∧
        t.use u = { t with budget := some { b with remaining := whole - 1 }, reserved := t.reserved + 1 } := by
  cases u with
  | update told =>
      cases hu
      exact .inl ⟨rfl, rfl⟩
  | reserve now margin =>
      have hkeep : t.safetyMargin ≤ t.keep margin := Int.le_max_left ..
      simp only [granted?, use]
      unfold reserve
      simp only [hb]
      split
      · split
        · exact .inl ⟨rfl, rfl⟩
        · split
          · exact .inl ⟨rfl, rfl⟩
          · exact .inr ⟨_, b.limit, rfl, by omega, .inr rfl, rfl⟩
      · exact .inr ⟨_, b.remaining, rfl, by omega, .inl rfl, rfl⟩

/-! ## Any number of uses -/

theorem after_silent (hb : t.budget = some b) (huses : ∀ u ∈ uses, u.Silent) :
    ∃ remaining, (t.after uses).budget = some { b with remaining } := by
  induction uses generalizing t b with
  | nil => exact ⟨b.remaining, hb⟩
  | cons u uses ih =>
      have hrest : ∀ v ∈ uses, v.Silent := fun v hv => huses v (List.mem_cons_of_mem _ hv)
      show ∃ remaining, ((t.use u).after uses).budget = _
      rcases use_silent hb (huses u (List.mem_cons_self ..)) with ⟨_, hsame⟩ | ⟨_, whole, _, _, _, hspent⟩
      · rw [hsame]
        exact ih hb hrest
      · rw [hspent]
        exact ih (b := { b with remaining := whole - 1 }) rfl hrest

/-- Where the limit is to be kept, nothing follows what was left of the window. -/
theorem length_grants_of_limit_le (hb : t.budget = some b) (hlimit : b.limit ≤ t.safetyMargin)
    (huses : ∀ u ∈ uses, u.Silent) : (t.grants uses).length ≤ (b.remaining - t.safetyMargin).toNat := by
  induction uses generalizing t b with
  | nil => exact Nat.zero_le _
  | cons u uses ih =>
      have hrest : ∀ v ∈ uses, v.Silent := fun v hv => huses v (List.mem_cons_of_mem _ hv)
      unfold grants
      rcases use_silent hb (huses u (List.mem_cons_self ..)) with
        ⟨hnone, hsame⟩ | ⟨grant, whole, hsome, hmore, hwhole, hspent⟩
      · rw [hnone, hsame]
        exact ih hb hlimit hrest
      · have hlater := ih (t := t.use u) (b := { b with remaining := whole - 1 }) (by rw [hspent])
          (by rw [hspent]; exact hlimit) hrest
        rw [(t.use_keeps u).2] at hlater
        rw [hsome, List.length_append, Option.toList_some, List.length_singleton]
        dsimp only at hlater
        omega

/-! ## Budgets that answers tell -/

/-- What comes of a tracker after an answer that tells what is left, the limit and the end of the window. While
nothing is left it refuses, until the end. From then on it always grants, if there is a limit; if there is none it
grants what was left and nothing after that, at whatever time it is asked. -/
structure Resumes (remaining limit : Int) (resetAt : τ) (t : Tracker τ) : Prop where
  refused : remaining ≤ 0 → ∀ now, now < resetAt → ∃ refusal, t.reserve now none = (.error refusal, t)
  leftover : 0 < remaining → ∀ now, ∃ permit, (t.reserve now none).1 = .ok permit
  granted : 0 < limit → ∀ uses : List (Use τ), (∀ u ∈ uses, u.Silent) → ∀ now, ¬ now < resetAt →
    ∃ permit, ((t.after uses).reserve now none).1 = .ok permit
  lockedOut : limit ≤ 0 → ∀ uses : List (Use τ), (∀ u ∈ uses, u.Silent) →
    (t.grants uses).length ≤ remaining.toNat

omit [Seconds τ] in
theorem keep_none (hsafety : t.safetyMargin = 0) : t.keep none = 0 := by
  rw [keep, hsafety]
  rfl

theorem resumes_update (t : Tracker τ) (hsafety : t.safetyMargin = 0) (remaining : Int) (resetAt : τ) (limit : Int)
    (resource : String) : Resumes remaining limit resetAt (t.update ⟨max remaining 0, resetAt, limit, resource⟩) := by
  generalize hb : (⟨max remaining 0, resetAt, limit, resource⟩ : Budget τ) = b
  have hremaining : b.remaining = max remaining 0 := by rw [← hb]
  have hresetAt : b.resetAt = resetAt := by rw [← hb]
  have hlimit : b.limit = limit := by rw [← hb]
  have hkeep : (t.update b).keep none = 0 := keep_none hsafety
  constructor
  case refused =>
    intro hnone now hnow
    rw [reserve_of_lt rfl (hresetAt ▸ hnow), hkeep, if_pos (by omega)]
    exact ⟨_, rfl⟩
  case leftover =>
    intro hsome now
    by_cases hnow : now < b.resetAt
    · rw [reserve_of_lt rfl hnow, hkeep, if_neg (by omega)]
      exact ⟨_, rfl⟩
    · exact (reserve_over rfl hnow none).mpr (.inl (by omega))
  case granted =>
    intro hlimit' uses huses now hnow
    obtain ⟨left, hleft⟩ := after_silent (t := t.update b) rfl huses
    have hkept : ((t.update b).after uses).keep none = 0 := keep_none ((after_keeps _ _).2.trans hsafety)
    apply (reserve_over hleft (hresetAt ▸ hnow) none).mpr
    right
    rw [hkept]
    exact hlimit ▸ hlimit'
  case lockedOut =>
    intro hlimit' uses huses
    have hsafety' : (t.update b).safetyMargin = 0 := hsafety
    have h := length_grants_of_limit_le (t := t.update b) rfl (by omega) huses
    omega

theorem budget_of_told {conventions : Conventions} {r : Response} {remaining reset : Int}
    (hremaining : r.number? conventions.remainingHeader = some remaining)
    (hreset : r.number? conventions.resetHeader = some reset) {resetAt : τ}
    (hresetAt : Seconds.ofInt? reset = some resetAt) :
    r.budget conventions = .ok (some ⟨max remaining 0, resetAt, (r.number? conventions.limitHeader).getD remaining,
      ((r.header? conventions.resourceHeader).filter (· ≠ "")).getD coreResource⟩) := by
  unfold Response.budget Response.wholeSeconds
  simp only [hremaining, hreset, hresetAt]
  rfl

/-- An answer that tells what is left and when the window ends makes a tracker without margin go on at that time,
if it tells a limit as well. Otherwise what is left stands in for the limit. -/
theorem resumes_of_told (t : Tracker τ) (hsafety : t.safetyMargin = 0) (conventions : Conventions) (r : Response)
    {remaining reset : Int} (hremaining : r.number? conventions.remainingHeader = some remaining)
    (hreset : r.number? conventions.resetHeader = some reset) {resetAt : τ}
    (hresetAt : Seconds.ofInt? reset = some resetAt) :
    ∃ b : Budget τ, r.budget conventions = .ok (some b) ∧
      Resumes remaining ((r.number? conventions.limitHeader).getD remaining) resetAt (t.update b) := by
  refine ⟨_, budget_of_told hremaining hreset hresetAt, ?_⟩
  exact resumes_update t hsafety remaining resetAt _ _

/-- An answer that tells of nothing left until 1120. -/
def spentAnswer (others : List (String × String)) : Response :=
  .make 200 ([("X-RateLimit-Remaining", "0"), ("X-RateLimit-Reset", "1120")] ++ others) []

/-- With a limit of sixty, the permits come again at 1120. -/
theorem resumes_of_sixty :
    let r := spentAnswer [("X-RateLimit-Limit", "60")]
    let t : Tracker Rat := fresh "core" 0 0
    r.number? "x-ratelimit-remaining" = some 0 ∧ r.number? "x-ratelimit-reset" = some 1120 ∧
      r.number? "x-ratelimit-limit" = some 60 ∧
      ∃ b : Budget Rat, r.budget .usual = .ok (some b) ∧
        (∃ refusal, (t.update b).reserve 1000 none = (.error refusal, t.update b)) ∧
        ∃ permit, ((t.update b).reserve 1120 none).1 = .ok permit := by
  have hremaining : (spentAnswer [("X-RateLimit-Limit", "60")]).number? "x-ratelimit-remaining" = some 0 := by
    decide +kernel
  have hreset : (spentAnswer [("X-RateLimit-Limit", "60")]).number? "x-ratelimit-reset" = some 1120 := by
    decide +kernel
  have hlimit : (spentAnswer [("X-RateLimit-Limit", "60")]).number? "x-ratelimit-limit" = some 60 := by
    decide +kernel
  refine ⟨hremaining, hreset, hlimit, ?_⟩
  obtain ⟨b, hb, hresumes⟩ := resumes_of_told (fresh "core" 0 0 : Tracker Rat) rfl .usual
    (spentAnswer [("X-RateLimit-Limit", "60")]) hremaining hreset rfl
  refine ⟨b, hb, hresumes.refused (by decide) 1000 (by decide), ?_⟩
  refine hresumes.granted ?_ [] (fun _ h => nomatch h) 1120 (by decide)
  show 0 < ((spentAnswer [("X-RateLimit-Limit", "60")]).number? "x-ratelimit-limit").getD 0
  rw [hlimit]
  decide

/-- Without a limit, the permits never come again, however late it is. -/
theorem locked_out_of_unlimited :
    ∃ b : Budget Rat, (spentAnswer []).budget .usual = .ok (some b) ∧ b.resetAt = 1120 ∧
      ∃ refusal, (((fresh "core" 0 0).update b).reserve 1000000 none).1 = .error refusal := by
  have hremaining : (spentAnswer []).number? Conventions.usual.remainingHeader = some 0 := by decide +kernel
  have hreset : (spentAnswer []).number? Conventions.usual.resetHeader = some 1120 := by decide +kernel
  have hlimit : (spentAnswer []).number? Conventions.usual.limitHeader = none := by decide +kernel
  have hb := budget_of_told (τ := Rat) hremaining hreset rfl
  rw [hlimit] at hb
  exact ⟨_, hb, rfl, ⟨_, _, _⟩, rfl⟩

end Tracker

end RepoCensus
