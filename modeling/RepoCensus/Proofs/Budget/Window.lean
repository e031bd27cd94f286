import RepoCensus.Budget.Tracker

/-!
# Dealing out a window

Between two budgets that the service tells, a tracker deals out the units of a window one by one. Nobody gets a
unit that is to be kept, and no unit is dealt out twice.
-/

namespace RepoCensus

open RepoCensus.Calendar

variable {τ : Type}

/-! ## Uses of a tracker -/

/-- What is done with a tracker: a permit is asked for at a time, or an answer is passed on that may tell a
budget. -/
inductive Use (τ : Type) where
  | reserve (now : τ) (margin : Option Int)
  | update (told : Option (Budget τ))

namespace Use

def Sound : Use τ → Prop
  | reserve _ _ => True
  | update told => ∀ b, told = some b → 0 ≤ b.remaining

/-- The clock has not come to the end of a window, and no budget is told. -/
def During [Seconds τ] (reset : τ) : Use τ → Prop
  | reserve now _ => now < reset
  | update told => told = none

instance [Seconds τ] (reset : τ) : (u : Use τ) → Decidable (u.During reset)
  | reserve now _ => inferInstanceAs (Decidable (now < reset))
  | update told => inferInstanceAs (Decidable (told = none))

end Use

/-- A permit, and the requests that its taker would have left alone. -/
structure Grant where
  keep : Int
  permit : Permit

namespace Tracker

/-- So many units of the budget are spent. -/
def spend (t : Tracker τ) (n : Nat) : Tracker τ :=
  { t with
    budget := t.budget.map fun b => { b with remaining := b.remaining - n }
    reserved := t.reserved + n }

theorem budget_spend {t : Tracker τ} {b : Budget τ} (hb : t.budget = some b) (n : Nat) :
    (t.spend n).budget = some { b with remaining := b.remaining - n } := by
  simp [spend, hb]

theorem spend_zero (t : Tracker τ) : t.spend 0 = t := by
  obtain ⟨_, _, _ | b, _, _⟩ := t
  · rfl
  · simp [spend]

theorem spend_spend (t : Tracker τ) (n m : Nat) : (t.spend n).spend m = t.spend (n + m) := by
  obtain ⟨_, _, _ | b, _, _⟩ := t
  · simp [spend, Nat.add_assoc]
  · simp only [spend, Option.map_some, Tracker.mk.injEq, true_and, and_true, Option.some.injEq, Budget.mk.injEq]
    omega

variable [Seconds τ]

def use (t : Tracker τ) : Use τ → Tracker τ
  | .reserve now margin => (t.reserve now margin).2
  | .update told => told.elim t t.update

def after (t : Tracker τ) (uses : List (Use τ)) : Tracker τ := uses.foldl use t

def granted? (t : Tracker τ) : Use τ → Option Grant
  | .reserve now margin => (t.reserve now margin).1.toOption.map fun p => ⟨t.keep margin, p⟩
  | .update _ => none

/-- The permits that are granted in the course of some uses, in order. -/
def grants (t : Tracker τ) : List (Use τ) → List Grant
  | [] => []
  | u :: uses => (t.granted? u).toList ++ (t.use u).grants uses

/-! ## What one use does -/

/-- A permit that is refused leaves the tracker alone; one that is granted leaves what is to be kept. -/
theorem reserve_cases (t : Tracker τ) (now : τ) (margin : Option Int) :
    (∃ refusal, t.reserve now margin = (.error refusal, t)) ∨
      ∃ permit budget, t.reserve now margin =
          (.ok permit, { t with budget := budget, reserved := t.reserved + 1 }) ∧
        ∀ b, budget = some b → t.keep margin ≤ b.remaining := by
  unfold reserve
  cases hb : t.budget with
  | none =>
      right
      exact ⟨_, none, rfl, fun _ h => nomatch h⟩
  | some b =>
      dsimp only
      split
      · split
        · exact .inl ⟨_, rfl⟩
        · split
          · exact .inl ⟨_, rfl⟩
          · right
            refine ⟨_, _, rfl, ?_⟩
            rintro _ ⟨⟩
            simp only
            omega
      · right
        refine ⟨_, _, rfl, ?_⟩
        rintro _ ⟨⟩
        simp only
        omega

theorem reserve_of_lt {t : Tracker τ} {b : Budget τ} (hb : t.budget = some b) {now : τ}
    (hnow : now < b.resetAt) (margin : Option Int) :
    t.reserve now margin =
      if b.remaining ≤ t.keep margin then (.error ⟨b.resetAt, b.remaining, t.resource⟩, t)
      else (.ok ⟨t.resource, some (b.remaining - 1)⟩, t.spend 1) := by
  unfold reserve spend
  simp only [hb, hnow, if_true]
  rfl

/-! ## Every state -/

theorem use_keeps (t : Tracker τ) (u : Use τ) :
    (t.use u).resource = t.resource ∧ (t.use u).safetyMargin = t.safetyMargin := by
  cases u with
  | reserve now margin =>
      rcases t.reserve_cases now margin with ⟨_, h⟩ | ⟨_, _, h, _⟩
      · rw [use, h]; exact ⟨rfl, rfl⟩
      · rw [use, h]; exact ⟨rfl, rfl⟩
  | update told => cases told <;> exact ⟨rfl, rfl⟩

theorem after_keeps (t : Tracker τ) (uses : List (Use τ)) :
    (t.after uses).resource = t.resource ∧ (t.after uses).safetyMargin = t.safetyMargin := by
  induction uses generalizing t with
  | nil => exact ⟨rfl, rfl⟩
  | cons u uses ih =>
      obtain ⟨hresource, hsafety⟩ := ih (t.use u)
      exact ⟨hresource.trans (t.use_keeps u).1, hsafety.trans (t.use_keeps u).2⟩

theorem reserved_use (t : Tracker τ) (u : Use τ) :
    (t.use u).reserved = t.reserved + (t.granted? u).toList.length := by
  cases u with
  | reserve now margin =>
      rcases t.reserve_cases now margin with ⟨_, h⟩ | ⟨_, _, h, _⟩
      · simp [use, granted?, h, Except.toOption]
      · simp [use, granted?, h, Except.toOption]
  | update told => cases told <;> rfl

theorem reserved_after (t : Tracker τ) (uses : List (Use τ)) :
    (t.after uses).reserved = t.reserved + (t.grants uses).length := by
  induction uses generalizing t with
  | nil => rfl
  | cons u uses ih =>
      show ((t.use u).after uses).reserved = _
      rw [ih, reserved_use, grants, List.length_append]
      omega

/-- What a tracker knows to be left is no negative number. -/
def Sane (t : Tracker τ) : Prop := 0 ≤ t.safetyMargin ∧ ∀ b, t.budget = some b → 0 ≤ b.remaining

theorem Sane.use {t : Tracker τ} (ht : t.Sane) {u : Use τ} (hu : u.Sound) : (t.use u).Sane := by
  obtain ⟨hsafety, hremaining⟩ := ht
  cases u with
  | reserve now margin =>
      rcases t.reserve_cases now margin with ⟨_, h⟩ | ⟨_, budget, h, hkept⟩
      · rw [Tracker.use, h]
        exact ⟨hsafety, hremaining⟩
      · rw [Tracker.use, h]
        refine ⟨hsafety, fun b hb => ?_⟩
        have hkeep : 0 ≤ t.keep margin := Int.le_trans hsafety (Int.le_max_left ..)
        exact Int.le_trans hkeep (hkept b hb)
  | update told =>
      cases told with
      | none => exact ⟨hsafety, hremaining⟩
      | some b =>
          refine ⟨hsafety, ?_⟩
          rintro _ ⟨⟩
          exact hu b rfl

theorem Sane.after {t : Tracker τ} (ht : t.Sane) {uses : List (Use τ)} (huses : ∀ u ∈ uses, u.Sound) :
    (t.after uses).Sane := by
  induction uses generalizing t with
  | nil => exact ht
  | cons u uses ih =>
      exact ih (ht.use (huses u (List.mem_cons_self ..))) fun v hv => huses v (List.mem_cons_of_mem _ hv)

/-! ## Within a window -/

/-- Within a window a use either takes one unit, if more is left than is to be kept, or does nothing. -/
theorem use_during {t : Tracker τ} {b : Budget τ} (hb : t.budget = some b) {u : Use τ}
    (hu : u.During b.resetAt) :
    t.granted? u = none ∧ t.use u = t ∨
      ∃ keep, keep < b.remaining ∧ t.granted? u = some ⟨keep, t.resource, some (b.remaining - 1)⟩ ∧
        t.use u = t.spend 1 := by
  cases u with
  | update told =>
      cases hu
      exact .inl ⟨rfl, rfl⟩
  | reserve now margin =>
      have hu : now < b.resetAt := hu
      simp only [granted?, use, reserve_of_lt hb hu]
      split
      · exact .inl ⟨rfl, rfl⟩
      · exact .inr ⟨t.keep margin, by omega, rfl, rfl⟩

variable {t : Tracker τ} {b : Budget τ} {uses : List (Use τ)}

theorem after_during (hb : t.budget = some b) (huses : ∀ u ∈ uses, u.During b.resetAt) :
    t.after uses = t.spend (t.grants uses).length := by
  induction uses generalizing t b with
  | nil => exact t.spend_zero.symm
  | cons u uses ih =>
      have hrest : ∀ v ∈ uses, v.During b.resetAt := fun v hv => huses v (List.mem_cons_of_mem _ hv)
      show (t.use u).after uses = t.spend ((t.granted? u).toList ++ (t.use u).grants uses).length
      rcases use_during hb (huses u (List.mem_cons_self ..)) with ⟨hnone, hsame⟩ | ⟨_, _, hsome, hspent⟩
      · rw [hnone, hsame, ih hb hrest]
        rfl
      · rw [hsome, hspent, ih (budget_spend hb 1) hrest, spend_spend]
        congr 1
        simp
        omega

theorem permits_during (hb : t.budget = some b) (huses : ∀ u ∈ uses, u.During b.resetAt) :
    (t.grants uses).map Grant.permit =
      (List.range (t.grants uses).length).map fun i => ⟨t.resource, some (b.remaining - 1 - i)⟩ := by
  induction uses generalizing t b with
  | nil => rfl
  | cons u uses ih =>
      have hrest : ∀ v ∈ uses, v.During b.resetAt := fun v hv => huses v (List.mem_cons_of_mem _ hv)
      unfold grants
      rcases use_during hb (huses u (List.mem_cons_self ..)) with ⟨hnone, hsame⟩ | ⟨_, _, hsome, hspent⟩
      · rw [hnone, hsame]
        exact ih hb hrest
      · rw [hsome, hspent]
        simp only [Option.toList_some, List.singleton_append, List.map_cons, List.length_cons,
          List.range_succ_eq_map, List.map_map]
        rw [ih (budget_spend hb 1) hrest]
        refine List.cons_eq_cons.mpr ⟨by simp, List.map_congr_left fun i _ => ?_⟩
        simp only [Function.comp_apply, spend, Permit.mk.injEq, Option.some.injEq, true_and]
        omega

/-- Those who would leave `k` units alone get no more than the units above them. -/
theorem countP_during (hb : t.budget = some b) (huses : ∀ u ∈ uses, u.During b.resetAt) (k : Int) :
    (t.grants uses).countP (fun g => k ≤ g.keep) ≤ (b.remaining - k).toNat := by
  induction uses generalizing t b with
  | nil => exact Nat.zero_le _
  | cons u uses ih =>
      have hrest : ∀ v ∈ uses, v.During b.resetAt := fun v hv => huses v (List.mem_cons_of_mem _ hv)
      unfold grants
      rcases use_during hb (huses u (List.mem_cons_self ..)) with ⟨hnone, hsame⟩ | ⟨keep, hkeep, hsome, hspent⟩
      · rw [hnone, hsame]
        exact ih hb hrest
      · rw [hsome, hspent]
        have h := ih (budget_spend hb 1) hrest
        simp only [Option.toList_some, List.singleton_append, List.countP_cons] at h ⊢
        split
        · rename_i hk
          simp only [decide_eq_true_eq] at hk
          omega
        · omega

/-! ## The whole run -/

/-- How a tracker has dealt out what was left of a window when a budget was told: whom it grants a permit next
and whom it refuses one, which permits it granted so far, and to whom. -/
structure DealsOut (resource : String) (safetyMargin : Int) (b : Budget τ) (granted : List Grant)
    (t : Tracker τ) : Prop where
  granted_iff : ∀ now margin, now < b.resetAt → ((∃ p, (t.reserve now margin).1 = .ok p) ↔
    max safetyMargin (margin.getD 0) < b.remaining - granted.length)
  refused : ∀ now margin refusal, now < b.resetAt → (t.reserve now margin).1 = .error refusal →
    refusal.fault = .overBudget b.resetAt (b.remaining - granted.length) resource ∧
      (t.reserve now margin).2 = t
  permits : granted.map Grant.permit =
    (List.range granted.length).map fun i => ⟨resource, some (b.remaining - 1 - i)⟩
  kept : ∀ k : Int, granted.countP (fun g => k ≤ g.keep) ≤ (b.remaining - k).toNat

theorem dealsOut_during (hb : t.budget = some b) (huses : ∀ u ∈ uses, u.During b.resetAt) :
    DealsOut t.resource t.safetyMargin b (t.grants uses) (t.after uses) := by
  have hafter := after_during hb huses
  have hbudget : (t.after uses).budget =
      some { b with remaining := b.remaining - (t.grants uses).length } := by
    rw [hafter, budget_spend hb]
  obtain ⟨hresource, hsafety⟩ := t.after_keeps uses
  have hkeep : ∀ margin, (t.after uses).keep margin = max t.safetyMargin (margin.getD 0) := by
    intro margin
    rw [keep, hsafety]
  constructor
  case granted_iff =>
    intro now margin hnow
    rw [reserve_of_lt hbudget hnow, hkeep]
    split
    · constructor
      · rintro ⟨_, ⟨⟩⟩
      · intro _
        dsimp only at *
        omega
    · constructor
      · intro _
        dsimp only at *
        omega
      · intro _
        exact ⟨_, rfl⟩
  case refused =>
    intro now margin refusal hnow h
    rw [reserve_of_lt hbudget hnow] at h ⊢
    split at h
    · cases h
      rw [if_pos ‹_›, hresource]
      exact ⟨rfl, rfl⟩
    · cases h
  case permits => exact permits_during hb huses
  case kept => exact countP_during hb huses

/-- Whatever is done with a tracker that keeps a margin, it never knows of less than nothing and counts its
permits; and from one budget that is told to the next one it deals out the window. -/
theorem tracker_deals_out (resource : String) {safetyMargin : Int} (hsafety : 0 ≤ safetyMargin) (serial : Nat) :
    (∀ uses : List (Use τ), (∀ u ∈ uses, u.Sound) →
      (∀ b, ((fresh resource safetyMargin serial).after uses).budget = some b → 0 ≤ b.remaining) ∧
      ((fresh resource safetyMargin serial).after uses).reserved =
        ((fresh resource safetyMargin serial).grants uses).length) ∧
    ∀ (before : List (Use τ)) (b : Budget τ) (during : List (Use τ)), (∀ u ∈ during, u.During b.resetAt) →
      DealsOut resource safetyMargin b
        ((((fresh resource safetyMargin serial).after before).update b).grants during)
        ((((fresh resource safetyMargin serial).after before).update b).after during) := by
  constructor
  · intro uses huses
    have hsane : (fresh resource safetyMargin serial : Tracker τ).Sane := ⟨hsafety, fun _ h => nomatch h⟩
    refine ⟨(hsane.after huses).2, ?_⟩
    rw [reserved_after]
    exact Nat.zero_add _
  · intro before b during hduring
    have hkeeps := (fresh resource safetyMargin serial : Tracker τ).after_keeps before
    generalize (fresh resource safetyMargin serial).after before = t at hkeeps ⊢
    have hresource : (t.update b).resource = resource := hkeeps.1
    have hmargin : (t.update b).safetyMargin = safetyMargin := hkeeps.2
    have h := dealsOut_during (t := t.update b) rfl hduring
    rwa [hresource, hmargin] at h

/-- Three units of which one is always kept go to two of four callers; the second one would keep two. -/
theorem deals_out_three :
    let t : Tracker Rat := ((fresh "core" 1 0).after [.reserve 0 none]).update ⟨3, 100, 60, "core"⟩
    let during : List (Use Rat) :=
      [.reserve 1 none, .update none, .reserve 2 (some 2), .reserve 3 none, .reserve 4 none]
    (0 : Int) ≤ 1 ∧ (∀ u ∈ during, u.During 100) ∧
      (t.grants during).map Grant.permit = [⟨"core", some 2⟩, ⟨"core", some 1⟩] ∧
      DealsOut "core" 1 ⟨3, 100, 60, "core"⟩ (t.grants during) (t.after during) := by
  intro t during
  have hduring : ∀ u ∈ during, u.During 100 := by decide
  refine ⟨by decide, hduring, by decide, ?_⟩
  exact (tracker_deals_out "core" (by decide) 0).2 [.reserve 0 none] ⟨3, 100, 60, "core"⟩ during hduring

end Tracker

end RepoCensus
