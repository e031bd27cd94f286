import RepoCensus.Proofs.Budget.Window

/-!
# When a window is overspent

A service that tells the truth does not know of permits whose requests have not reached it. An answer that is
passed on while there are such permits replaces the tracker's own count, and the units of those permits are dealt
out a second time. The window is safe exactly as long as every answer comes in time: with the units that it tells
there are no more units and permits about than the service has left.
-/

namespace RepoCensus

open RepoCensus.Calendar

variable {τ : Type}

/-! ## Traffic between a tracker and a service -/

/-- A tracker whose permits are on their way to a service, and the answers on their way back. -/
structure Traffic (τ : Type) where
  tracker : Tracker τ
  /-- The units that the service has left in this window. -/
  left : Nat
  /-- The permits with which nothing was sent yet. -/
  held : Nat
  /-- The requests that have not reached the service yet. -/
  sent : Nat
  /-- What the answers on their way back tell to be left. -/
  answers : List Nat
  /-- What the answers tell that have arrived and were not passed on yet. -/
  delivered : List Nat
  /-- Whether a request has reached the service when there was nothing left. -/
  overspent : Bool

namespace Traffic

/-- What may happen next. Those who take part need no names: whoever sends, sends one of the permits. -/
inductive Step (τ : Type) where
  | reserve (now : τ) (margin : Option Int)
  | send
  | process
  | deliver (answer : Nat)
  | update (answer : Nat)

namespace Step

def Before [Seconds τ] (reset : τ) : Step τ → Prop
  | reserve now _ => now < reset
  | _ => True

instance [Seconds τ] (reset : τ) : (e : Step τ) → Decidable (e.Before reset)
  | reserve now _ => inferInstanceAs (Decidable (now < reset))
  | send | process | deliver _ | update _ => .isTrue trivial

def isUpdate : Step τ → Bool
  | update _ => true
  | _ => false

end Step

/-- A window at its start, when the tracker knows what the service has left. -/
def start (t : Tracker τ) (b : Budget τ) : Traffic τ := ⟨t, b.remaining.toNat, 0, 0, [], [], false⟩

/-- A request reaches the service, which takes a unit for it or refuses it, and tells what is left. -/
def serve (s : Traffic τ) : Traffic τ :=
  { s with
    left := s.left - 1
    answers := s.answers ++ [s.left - 1]
    overspent := s.overspent || s.left = 0 }

/-- The units that the tracker would still deal out. -/
def free (t : Tracker τ) : Nat := (t.budget.elim 0 fun b => b.remaining - t.safetyMargin).toNat

theorem free_eq {t : Tracker τ} {b : Budget τ} (hb : t.budget = some b) :
    free t = (b.remaining - t.safetyMargin).toNat := by
  rw [free, hb, Option.elim_some]

variable [Seconds τ]

/-- One step within the window of a budget. A step for which there is nothing to take does nothing. -/
def step (b : Budget τ) (s : Traffic τ) : Step τ → Traffic τ
  | .reserve now margin =>
    match s.tracker.reserve now margin with
    | (.ok _, t) => { s with tracker := t, held := s.held + 1 }
    | (.error _, t) => { s with tracker := t }
  | .send => if s.held = 0 then s else { s with held := s.held - 1, sent := s.sent + 1 }
  | .process => if s.sent = 0 then s else { s with sent := s.sent - 1 }.serve
  | .deliver i =>
    match s.answers[i]? with
    | some n => { s with answers := s.answers.eraseIdx i, delivered := s.delivered ++ [n] }
    | none => s
  | .update i =>
    match s.delivered[i]? with
    | some n =>
      { s with
        tracker := s.tracker.update { b with remaining := n }
        delivered := s.delivered.eraseIdx i }
    | none => s

def run (b : Budget τ) (s : Traffic τ) (steps : List (Step τ)) : Traffic τ := steps.foldl (step b) s

/-- An answer that is passed on leaves no more units and permits about than the service has left. -/
def InTime (s : Traffic τ) : Step τ → Prop
  | .update i => ∀ n, s.delivered[i]? = some n →
      ((n : Int) - s.tracker.safetyMargin).toNat + s.held + s.sent ≤ s.left
  | _ => True

def Timely (b : Budget τ) : Traffic τ → List (Step τ) → Prop
  | _, [] => True
  | s, e :: steps => s.InTime e ∧ Timely b (s.step b e) steps

/-! ## Units and permits -/

/-- The tracker knows of the window, and keeps no negative number of units. -/
structure InWindow (b : Budget τ) (s : Traffic τ) : Prop where
  margin : 0 ≤ s.tracker.safetyMargin
  budget : ∃ b', s.tracker.budget = some b' ∧ b'.resetAt = b.resetAt

/-- The service has a unit left for each unit that may be dealt out and for each permit that was. -/
structure Covered (s : Traffic τ) : Prop where
  units : free s.tracker + s.held + s.sent ≤ s.left
  unspent : s.overspent = false

variable {b : Budget τ} {s : Traffic τ} {now : τ}

theorem reserve_free (margin : Option Int) (hs : s.InWindow b) (hnow : now < b.resetAt) :
    (∃ refusal, s.tracker.reserve now margin = (.error refusal, s.tracker)) ∨
      ∃ permit, s.tracker.reserve now margin = (.ok permit, s.tracker.spend 1) ∧
        free (s.tracker.spend 1) + 1 = free s.tracker := by
  obtain ⟨b', hb', hreset⟩ := hs.budget
  rw [Tracker.reserve_of_lt hb' (hreset ▸ hnow)]
  split
  · exact .inl ⟨_, rfl⟩
  · right
    refine ⟨_, rfl, ?_⟩
    have hkeep : s.tracker.safetyMargin ≤ s.tracker.keep margin := Int.le_max_left ..
    have hmargin := hs.margin
    rw [free_eq hb', free_eq (Tracker.budget_spend hb' 1)]
    simp only [Tracker.spend]
    omega

theorem reserve_of_free (hs : s.InWindow b) (hnow : now < b.resetAt) (hfree : 0 < free s.tracker) :
    ∃ permit, s.tracker.reserve now none = (.ok permit, s.tracker.spend 1) := by
  obtain ⟨b', hb', hreset⟩ := hs.budget
  rw [Tracker.reserve_of_lt hb' (hreset ▸ hnow)]
  have hmargin := hs.margin
  have hkeep : s.tracker.keep none = s.tracker.safetyMargin := Int.max_eq_left hmargin
  rw [free_eq hb'] at hfree
  rw [hkeep, if_neg (by omega)]
  exact ⟨_, rfl⟩

omit [Seconds τ] in
theorem InWindow.spend (hs : s.InWindow b) : InWindow b { s with tracker := s.tracker.spend 1 } := by
  obtain ⟨b', hb', hreset⟩ := hs.budget
  exact ⟨hs.margin, _, Tracker.budget_spend hb' 1, hreset⟩

theorem InWindow.step (hs : s.InWindow b) {e : Step τ} (he : e.Before b.resetAt) : (s.step b e).InWindow b := by
  obtain ⟨hmargin, hbudget⟩ := hs
  cases e with
  | reserve now margin =>
      unfold Traffic.step
      rcases reserve_free margin ⟨hmargin, hbudget⟩ he with ⟨_, h⟩ | ⟨_, h, _⟩
      · simp only [h]
        exact ⟨hmargin, hbudget⟩
      · simp only [h]
        have hspent := InWindow.spend ⟨hmargin, hbudget⟩
        exact ⟨hspent.margin, hspent.budget⟩
  | send | process | deliver _ =>
      unfold Traffic.step
      dsimp only
      split
      · exact ⟨hmargin, hbudget⟩
      · exact ⟨hmargin, hbudget⟩
  | update i =>
      unfold Traffic.step
      dsimp only
      split
      · exact ⟨hmargin, _, rfl, rfl⟩
      · exact ⟨hmargin, hbudget⟩

/-- No step but an answer that comes too late takes a unit away from a permit. -/
theorem Covered.step (hc : s.Covered) (hs : s.InWindow b) {e : Step τ} (he : e.Before b.resetAt)
    (htime : s.InTime e) : (s.step b e).Covered := by
  obtain ⟨hunits, hunspent⟩ := hc
  cases e with
  | reserve now margin =>
      unfold Traffic.step
      rcases reserve_free margin hs he with ⟨_, h⟩ | ⟨_, h, hfree⟩
      · simp only [h]
        exact ⟨hunits, hunspent⟩
      · simp only [h]
        exact ⟨by simp only; omega, hunspent⟩
  | send =>
      unfold Traffic.step
      dsimp only
      split
      · exact ⟨hunits, hunspent⟩
      · exact ⟨by simp only; omega, hunspent⟩
  | process =>
      unfold Traffic.step serve
      dsimp only
      split
      · exact ⟨hunits, hunspent⟩
      · refine ⟨by simp only; omega, ?_⟩
        have hleft : s.left ≠ 0 := by omega
        simp [hunspent, hleft]
  | deliver i =>
      unfold Traffic.step
      dsimp only
      split
      · exact ⟨hunits, hunspent⟩
      · exact ⟨hunits, hunspent⟩
  | update i =>
      unfold Traffic.step
      dsimp only
      split
      · rename_i n hn
        exact ⟨htime n hn, hunspent⟩
      · exact ⟨hunits, hunspent⟩

/-! ## Runs in time -/

variable {steps : List (Step τ)}

theorem Covered.run (hc : s.Covered) (hs : s.InWindow b) (hbefore : ∀ e ∈ steps, e.Before b.resetAt)
    (htimely : Timely b s steps) : (s.run b steps).Covered := by
  induction steps generalizing s with
  | nil => exact hc
  | cons e steps ih =>
      obtain ⟨htime, hrest⟩ := htimely
      have he : e.Before b.resetAt := hbefore e (List.mem_cons_self ..)
      have hbefore : ∀ e ∈ steps, e.Before b.resetAt := fun e h => hbefore e (List.mem_cons_of_mem _ h)
      exact ih (hc.step hs he htime) (hs.step he) hbefore hrest

theorem timely_append {done more : List (Step τ)} :
    Timely b s (done ++ more) ↔ Timely b s done ∧ Timely b (s.run b done) more := by
  induction done generalizing s with
  | nil => exact (true_and _).to_iff.symm
  | cons e done ih =>
      show s.InTime e ∧ Timely b (s.step b e) (done ++ more) ↔ _
      rw [ih, ← and_assoc]
      exact Iff.rfl

theorem timely_of_no_update (h : ∀ e ∈ steps, e.isUpdate = false) : Timely b s steps := by
  induction steps generalizing s with
  | nil => trivial
  | cons e steps ih =>
      refine ⟨?_, ih fun e he => h e (List.mem_cons_of_mem _ he)⟩
      cases e with
      | update i => cases h _ (List.mem_cons_self ..)
      | _ => trivial

/-! ## Runs that overspend -/

/-- Steps before the end of a window that pass on no answer. -/
def Unanswered (reset : τ) (steps : List (Step τ)) : Prop :=
  ∀ e ∈ steps, e.Before reset ∧ e.isUpdate = false

theorem Unanswered.cons {reset : τ} {e : Step τ} (he : e.Before reset) (hupdate : e.isUpdate = false)
    (h : Unanswered reset steps) : Unanswered reset (e :: steps) := by
  intro e' he'
  rcases List.mem_cons.mp he' with rfl | he'
  · exact ⟨he, hupdate⟩
  · exact h e' he'

theorem overspends_of_sent (h : s.left < s.sent) :
    ∃ more, Unanswered b.resetAt more ∧ (s.run b more).overspent = true := by
  generalize hn : s.left = n
  induction n generalizing s with
  | zero =>
      have hsent : s.sent ≠ 0 := by omega
      refine ⟨[.process], .cons trivial rfl (fun _ h => nomatch h), ?_⟩
      show (s.step b .process).overspent = true
      simp [step, hsent, serve, hn]
  | succ n ih =>
      have hsent : s.sent ≠ 0 := by omega
      have hstep : s.step b .process = { s with sent := s.sent - 1 }.serve := if_neg hsent
      obtain ⟨more, hmore, hover⟩ := ih (s := s.step b .process)
        (by rw [hstep]; simp only [serve]; omega) (by rw [hstep]; simp only [serve]; omega)
      exact ⟨.process :: more, hmore.cons trivial rfl, hover⟩

theorem overspends_of_held (h : s.left < s.held + s.sent) :
    ∃ more, Unanswered b.resetAt more ∧ (s.run b more).overspent = true := by
  generalize hn : s.held = n
  induction n generalizing s with
  | zero => exact overspends_of_sent (by omega)
  | succ n ih =>
      have hheld : s.held ≠ 0 := by omega
      have hstep : s.step b .send = { s with held := s.held - 1, sent := s.sent + 1 } := if_neg hheld
      obtain ⟨more, hmore, hover⟩ := ih (s := s.step b .send)
        (by rw [hstep]; simp only; omega) (by rw [hstep]; simp only; omega)
      exact ⟨.send :: more, hmore.cons trivial rfl, hover⟩

/-- More units to deal out, permits and requests than the service has left: all units are dealt out. -/
theorem overspends_of_free (hs : s.InWindow b) (hnow : now < b.resetAt)
    (h : s.left < free s.tracker + s.held + s.sent) :
    ∃ more, Unanswered b.resetAt more ∧ (s.run b more).overspent = true := by
  generalize hn : free s.tracker = n
  induction n generalizing s with
  | zero => exact overspends_of_held (by omega)
  | succ n ih =>
      obtain ⟨permit, hreserve⟩ := reserve_of_free hs hnow (by omega)
      have hfree : free (s.tracker.spend 1) + 1 = free s.tracker := by
        rcases reserve_free none hs hnow with ⟨_, h⟩ | ⟨_, _, h⟩
        · cases hreserve.symm.trans h
        · exact h
      have hstep : s.step b (.reserve now none) =
          { s with tracker := s.tracker.spend 1, held := s.held + 1 } := by
        simp only [step, hreserve]
      obtain ⟨more, hmore, hover⟩ := ih (s := s.step b (.reserve now none)) (hs.step hnow)
        (by rw [hstep]; simp only; omega) (by rw [hstep]; simp only; omega)
      exact ⟨.reserve now none :: more, hmore.cons hnow rfl, hover⟩

/-- If nothing can be overspent before the next answers, every answer has come in time. -/
theorem timely_of_safe (hs : s.InWindow b) (hnow : now < b.resetAt) (hbefore : ∀ e ∈ steps, e.Before b.resetAt)
    (hsafe : ∀ done more, done <+: steps → Unanswered b.resetAt more →
      (s.run b (done ++ more)).overspent = false) : Timely b s steps := by
  induction steps generalizing s with
  | nil => trivial
  | cons e steps ih =>
      have he : e.Before b.resetAt := hbefore e (List.mem_cons_self ..)
      refine ⟨?_, ih (hs.step he) (fun e h => hbefore e (List.mem_cons_of_mem _ h)) ?_⟩
      · cases e with
        | update i =>
            intro n hn
            refine Nat.le_of_not_lt fun hlate => ?_
            have hstep : s.step b (.update i) = { s with
                tracker := s.tracker.update { b with remaining := n }
                delivered := s.delivered.eraseIdx i } := by
              simp only [step, hn]
            obtain ⟨more, hmore, hover⟩ := overspends_of_free (s := s.step b (.update i)) (hs.step he) hnow
              (by rw [hstep]; exact hlate)
            have h := hsafe [.update i] more ⟨steps, rfl⟩ hmore
            cases hover.symm.trans h
        | _ => trivial
      · intro done more hdone hmore
        exact hsafe (e :: done) more (List.cons_prefix_cons.mpr ⟨rfl, hdone⟩) hmore

/-! ## The whole window -/

omit [Seconds τ] in
theorem inWindow_start {t : Tracker τ} (hmargin : 0 ≤ t.safetyMargin) (ht : t.budget = some b) :
    (start t b).InWindow b := ⟨hmargin, b, ht, rfl⟩

omit [Seconds τ] in
theorem covered_start {t : Tracker τ} (hmargin : 0 ≤ t.safetyMargin) (ht : t.budget = some b) :
    (start t b).Covered := by
  refine ⟨?_, rfl⟩
  show free t + 0 + 0 ≤ b.remaining.toNat
  rw [free_eq ht]
  omega

/-- A window is safe exactly as long as every answer is passed on in time. -/
theorem timely_iff_never_overspent {t : Tracker τ} (hmargin : 0 ≤ t.safetyMargin) (ht : t.budget = some b)
    (hnow : now < b.resetAt) (hbefore : ∀ e ∈ steps, e.Before b.resetAt) :
    Timely b (start t b) steps ↔ ∀ done more, done <+: steps → Unanswered b.resetAt more →
      ((start t b).run b (done ++ more)).overspent = false := by
  constructor
  · rintro htimely done more ⟨rest, rfl⟩ hmore
    have hdone := (timely_append.mp htimely).1
    have hall : Timely b (start t b) (done ++ more) :=
      timely_append.mpr ⟨hdone, timely_of_no_update fun e he => (hmore e he).2⟩
    have hallBefore : ∀ e ∈ done ++ more, e.Before b.resetAt := by
      intro e he
      rcases List.mem_append.mp he with he | he
      · exact hbefore e (List.mem_append_left _ he)
      · exact (hmore e he).1
    exact ((covered_start hmargin ht).run (inWindow_start hmargin ht) hallBefore hall).unspent
  · exact timely_of_safe (inWindow_start hmargin ht) hnow hbefore

/-- Two of two units, as a tracker without a margin knows of them. -/
def twoUnits : Tracker Rat := ⟨"core", 0, some ⟨2, 100, 60, "core"⟩, 0, 0⟩

/-- Both units are taken. The answer to the first request is passed on before the second request reaches the
service, so a third permit is granted. -/
def lateAnswer : List (Step Rat) :=
  [.reserve 0 none, .reserve 0 none, .send, .process, .deliver 0, .update 0, .reserve 0 none, .send, .send,
    .process, .process]

/-- The third request of a late answer finds nothing left, and its answer is the one that is late. -/
theorem timely_iff_of_lateAnswer :
    (0 : Int) ≤ twoUnits.safetyMargin ∧ twoUnits.budget = some ⟨2, 100, 60, "core"⟩ ∧ (0 : Rat) < 100 ∧
      (∀ e ∈ lateAnswer, e.Before 100) ∧
      (Timely ⟨2, 100, 60, "core"⟩ (start twoUnits ⟨2, 100, 60, "core"⟩) lateAnswer ↔
        ∀ done more, done <+: lateAnswer → Unanswered 100 more →
          ((start twoUnits ⟨2, 100, 60, "core"⟩).run ⟨2, 100, 60, "core"⟩ (done ++ more)).overspent = false) :=
  ⟨by decide, rfl, by decide, by decide,
    timely_iff_never_overspent (by decide) rfl (show (0 : Rat) < 100 by decide) (by decide)⟩

/-- A tracker that knows what a truthful service has left does not keep its window from being overspent. -/
theorem late_answer_overspends :
    ¬ ∀ (t : Tracker Rat) (b : Budget Rat) (steps : List (Step Rat)), 0 ≤ t.safetyMargin → t.budget = some b →
      0 ≤ b.remaining → (∀ e ∈ steps, e.Before b.resetAt) → ((start t b).run b steps).overspent = false := by
  intro h
  have hspent := h twoUnits ⟨2, 100, 60, "core"⟩ lateAnswer (by decide) rfl (by decide) (by decide)
  exact absurd hspent (by decide)

end Traffic

end RepoCensus
