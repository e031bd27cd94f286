import RepoCensus.Proofs.Calendar.OrderedSeconds
import RepoCensus.World.Basic

/-!
# How a world moves under other hands

The workers of a pool share one world. Between two steps of one of them the others may take any steps;
`World.Drift` relates two worlds between which this happened, and counts the budgets that were passed on. As long as no
budget is passed on, a tracker keeps the end of the window that it knows.
-/

namespace RepoCensus

open RepoCensus.Calendar

variable {σ τ Q R : Type}

/-! ## Punctual surroundings -/

namespace Surroundings

def now (sur : Surroundings σ τ Q R) (o : σ) : τ := (sur.clock o).1

/-- The surroundings do something, whatever it is. -/
inductive Turn (sur : Surroundings σ τ Q R) (o : σ) : σ → Prop where
  | clock : Turn sur o (sur.clock o).2
  | jitter : Turn sur o (sur.jitter o).2
  | sleep (s : τ) : Turn sur o (sur.sleep s o)
  | serve (q : Q) : Turn sur o (sur.serve q o).2
  | cancel : Turn sur o (sur.cancel o)

/-- The clock never goes back, a raised flag stays raised, and a sleep takes its time: whoever sleeps from `now` or a
later time on, for as long as it is from `now` to `later`, wakes up at `later` or after it. A sleep that is watched
over by the caller's flag may end early when that flag is raised. -/
structure Punctual [Seconds τ] (sur : Surroundings σ τ Q R) (flag : Option Flag) : Prop where
  now_le : ∀ {o o'}, sur.Turn o o' → sur.now o ≤ sur.now o'
  stays_raised : ∀ {o o'}, sur.Turn o o' → sur.cancelled o = true → sur.cancelled o' = true
  sleeps : ∀ {now} later o, now ≤ sur.now o → later ≤ sur.now (sur.sleep (later - now) o) ∨
    flag = some .callers ∧ sur.cancelled (sur.sleep (later - now) o) = true

/-- The caller's flag stays raised once it is raised. -/
def Lasting (sur : Surroundings σ τ Q R) : Prop :=
  ∀ {o o'}, sur.Turn o o' → sur.cancelled o = true → sur.cancelled o' = true

theorem Punctual.lasting [Seconds τ] {sur : Surroundings σ τ Q R} {flag : Option Flag} (h : sur.Punctual flag) :
    sur.Lasting := h.stays_raised

/-- The service never interrupts the program; all its faults are ordinary ones. -/
def Ordinary (sur : Surroundings σ τ Q R) : Prop :=
  ∀ q o fault, (sur.serve q o).1 = .error fault → fault.isOrdinary = true

/-- What a quiet place is like: the time, the requests served so far, and whether the caller's flag is raised. -/
structure Hours where
  time : Rat
  served : Nat
  stopped : Bool

/-- A quiet place, where nothing but sleeping takes time. -/
def quiet (answer : Q → Nat → Except (Fault Rat) R) : Surroundings Hours Rat Q R where
  clock o := (o.time, o)
  jitter o := (0, o)
  cancelled o := o.stopped
  sleep s o := { o with time := if 0 ≤ s then o.time + s else o.time }
  serve q o := (answer q o.served, { o with served := o.served + 1 })
  cancel o := { o with stopped := true }

theorem punctual_quiet (answer : Q → Nat → Except (Fault Rat) R) (flag : Option Flag) :
    (quiet answer).Punctual flag where
  now_le := by
    intro o o' h
    cases h with
    | sleep s =>
        show o.time ≤ if 0 ≤ s then o.time + s else o.time
        split
        · grind
        · exact Rat.le_refl
    | _ => exact Rat.le_refl
  stays_raised := by
    intro o o' h hstopped
    cases h with
    | cancel => rfl
    | _ => exact hstopped
  sleeps := by
    intro now later o hnow
    have hnow : (now : Rat) ≤ o.time := hnow
    left
    show later ≤ if 0 ≤ later - now then o.time + (later - now) else o.time
    split <;> grind

theorem ordinary_quiet {answer : Q → Nat → Except (Fault Rat) R}
    (h : ∀ q n fault, answer q n = .error fault → fault.isOrdinary = true) : (quiet answer).Ordinary :=
  fun q o => h q o.served

end Surroundings

/-! ## Trackers of a registry -/

namespace Registry

theorem get?_set (r : Registry τ) (b b' : Bucket) (t : Tracker τ) :
    (r.set b t).get? b' = if b' = b then (r.get? b).map fun _ => t else r.get? b' := by
  unfold get? set
  induction r.trackers with
  | nil => by_cases h : b' = b <;> simp [h]
  | cons e rest ih =>
      obtain ⟨k, u⟩ := e
      simp only [List.map_cons, List.find?_cons] at ih ⊢
      by_cases hk : k = b
      · by_cases hb : b' = b
        · simp [hk, hb]
        · have hb' : ¬ b = b' := fun h => hb h.symm
          simpa [hk, hb, hb'] using ih
      · by_cases hb : b' = b
        · simpa [hk, hb] using ih
        · by_cases hkb : k = b'
          · simp [hb, hkb]
          · simpa [hk, hb, hkb] using ih

theorem get?_tracker_of_some {r : Registry τ} {b : Bucket} {t : Tracker τ} (h : r.get? b = some t) :
    r.tracker b = (t, r) := by
  simp only [tracker, h]

theorem get?_tracker (r : Registry τ) (b : Bucket) : (r.tracker b).2.get? b = some (r.tracker b).1 := by
  cases h : r.get? b with
  | some t => rw [get?_tracker_of_some h]; exact h
  | none =>
      have hfind : r.trackers.find? (fun e => e.1 = b) = none := by
        simpa [get?] using h
      simp [tracker, get?, List.find?_append, hfind]

theorem get?_tracker_other {r : Registry τ} {b b' : Bucket} {t : Tracker τ} (h : r.get? b' = some t) :
    (r.tracker b).2.get? b' = some t := by
  cases hb : r.get? b with
  | some u => rw [get?_tracker_of_some hb]; exact h
  | none =>
      obtain ⟨e, he, rfl⟩ := Option.map_eq_some_iff.mp h
      simp only [tracker, hb]
      simp [get?, List.find?_append, he]

end Registry

/-! ## The end of a window -/

/-- When the window ends that the tracker knows of. -/
def Tracker.resetAt? (t : Tracker τ) : Option τ := t.budget.map Budget.resetAt

variable [Seconds τ]

theorem Tracker.resetAt?_reserve (t : Tracker τ) (now : τ) (margin : Option Int) :
    (t.reserve now margin).2.resetAt? = t.resetAt? := by
  unfold reserve
  split
  · rename_i hb
    simp [resetAt?, hb]
  · rename_i b hb
    dsimp only
    split
    · split
      · rfl
      · split
        · rfl
        · simp [resetAt?, grant, hb, Prod.map]
    · simp [resetAt?, grant, hb, Prod.map]

theorem Tracker.resetAt?_of_refusal {t : Tracker τ} {now : τ} {margin : Option Int}
    {refusal : Refusal τ} (h : (t.reserve now margin).1 = .error refusal) :
    t.resetAt? = some refusal.resetAt := by
  unfold reserve at h
  split at h
  · cases h
  · rename_i b hb
    dsimp only at h
    split at h
    · split at h
      · cases h; simp [resetAt?, hb]
      · split at h
        · cases h; simp [resetAt?, hb]
        · cases h
    · cases h

namespace World

variable {sur : Surroundings σ τ Q R}

/-- When the window of a bucket ends, as far as its tracker knows. -/
def resetAt? (w : World σ τ Q) (b : Bucket) : Option τ := (w.registry.get? b).bind Tracker.resetAt?

/-- The time at which a permit is asked for. -/
def readingFor (sur : Surroundings σ τ Q R) (w : World σ τ Q) (b : Bucket) : τ :=
  if (w.registry.tracker b).1.budget.isNone then Seconds.zero else sur.now w.outside

theorem reserve_fst (w : World σ τ Q) (b : Bucket) (margin : Option Int) :
    (w.reserve sur b margin).1 = ((w.registry.tracker b).1.reserve (w.readingFor sur b) margin).1 := by
  unfold reserve readingFor
  dsimp only
  split <;> split <;> simp_all [Surroundings.now]

theorem reserve_registry (w : World σ τ Q) (b : Bucket) (margin : Option Int) :
    (w.reserve sur b margin).2.registry = (w.registry.tracker b).2.set b
      ((w.registry.tracker b).1.reserve (w.readingFor sur b) margin).2 := by
  unfold reserve readingFor
  dsimp only
  split <;> split <;> simp_all [Surroundings.now, record, withOutside, log]
  all_goals split <;> simp_all

theorem reserve_outside (sur : Surroundings σ τ Q R) (w : World σ τ Q) (b : Bucket) (margin : Option Int) :
    (w.reserve sur b margin).2.outside = w.outside ∨
      (w.reserve sur b margin).2.outside = (sur.clock w.outside).2 := by
  unfold reserve
  dsimp only
  split <;> split <;> simp_all [record, withOutside, log]
  all_goals split <;> simp_all

theorem perform_outside (sur : Surroundings σ τ Q R) (w : World σ τ Q) (e : Effect τ Q) :
    (w.perform sur e).2.outside = w.outside ∨ sur.Turn w.outside (w.perform sur e).2.outside := by
  cases e with
  | clock => exact .inr .clock
  | jitter => exact .inr .jitter
  | cancelled f => exact .inl rfl
  | sleep s => exact .inr (.sleep s)
  | wait f s =>
      cases h : w.isRaised sur f
      · simp only [perform, h]; exact .inr (.sleep s)
      · simp only [perform, h]; exact .inl rfl
  | ask q => exact .inr (.serve q)
  | openBucket b => exact .inl rfl
  | reserve b margin =>
      rcases reserve_outside sur w b margin with h | h
      · exact .inl h
      · exact .inr (h ▸ .clock)
  | update b budget =>
      refine .inl ?_
      show (w.update b budget).2.outside = _
      unfold update
      dsimp only
      split <;> rfl
  | note n => exact .inl rfl

theorem ownFlag_perform (w : World σ τ Q) (e : Effect τ Q) :
    (w.perform sur e).2.ownFlag = w.ownFlag := by
  cases e with
  | wait f s => cases h : w.isRaised sur f <;> simp [perform, h, sleep, record, withOutside]
  | reserve b margin =>
      show (w.reserve sur b margin).2.ownFlag = _
      unfold reserve
      dsimp only
      split <;> split <;> simp_all [record, withOutside, log]
      all_goals split <;> rfl
  | update b budget =>
      show (w.update b budget).2.ownFlag = _
      unfold update
      dsimp only
      split <;> rfl
  | _ => rfl

end World

/-- How many budgets a step passes on. -/
def Effect.budgets : Effect τ Q → Nat
  | .update _ _ => 1
  | _ => 0

namespace World

variable {sur : Surroundings σ τ Q R}

/-- A tracker keeps the end of its window as long as no budget is passed on to it. -/
theorem resetAt?_perform {w : World σ τ Q} {e : Effect τ Q} {b : Bucket} {reset : τ}
    (he : e.budgets = 0) (h : w.resetAt? b = some reset) :
    (w.perform sur e).2.resetAt? b = some reset := by
  obtain ⟨t, ht, hreset⟩ := Option.bind_eq_some_iff.mp h
  cases e with
  | update b' budget => cases he
  | openBucket b' =>
      show ((w.registry.tracker b').2.get? b).bind _ = _
      rw [Registry.get?_tracker_other ht]
      exact hreset
  | reserve b' margin =>
      show ((w.reserve sur b' margin).2.registry.get? b).bind _ = _
      rw [reserve_registry, Registry.get?_set]
      split
      · rename_i hb
        subst hb
        rw [Registry.get?_tracker, Registry.get?_tracker_of_some ht]
        simpa [Tracker.resetAt?_reserve] using hreset
      · rw [Registry.get?_tracker_other ht]
        exact hreset
  | wait f s =>
      cases hf : w.isRaised sur f <;> simp only [perform, hf]
      · exact h
      · exact h
  | _ => exact h

theorem resetAt?_of_refusal {w : World σ τ Q} {b : Bucket} {margin : Option Int} {refusal : Refusal τ}
    (h : (w.reserve sur b margin).1 = .error refusal) :
    (w.reserve sur b margin).2.resetAt? b = some refusal.resetAt := by
  rw [reserve_fst] at h
  have hreset := Tracker.resetAt?_of_refusal h
  unfold resetAt?
  rw [reserve_registry, Registry.get?_set, if_pos rfl, Registry.get?_tracker]
  simpa [Tracker.resetAt?_reserve] using hreset

/-! ## Drift -/

/-- What the others who share a world may do to it, with so many budgets passed on. -/
inductive Drift (sur : Surroundings σ τ Q R) (w : World σ τ Q) : Nat → World σ τ Q → Prop where
  | refl : Drift sur w 0 w
  | step {n : Nat} {w' : World σ τ Q} (h : Drift sur w n w') (e : Effect τ Q) :
      Drift sur w (n + e.budgets) (w'.perform sur e).2
  | raise {n : Nat} {w' : World σ τ Q} (h : Drift sur w n w') (f : Flag) :
      Drift sur w n (w'.raiseFlag sur f)

namespace Drift

variable {n m : Nat} {w w' w'' : World σ τ Q}

theorem trans (h : Drift sur w n w') (h' : Drift sur w' m w'') : Drift sur w (n + m) w'' := by
  induction h' with
  | refl => exact h
  | step _ e ih => rw [← Nat.add_assoc]; exact ih.step e
  | raise _ f ih => exact ih.raise f

theorem single (w : World σ τ Q) (e : Effect τ Q) :
    Drift sur w e.budgets (w.perform sur e).2 := by
  have h : Drift sur w (0 + e.budgets) (w.perform sur e).2 := Drift.refl.step e
  rwa [Nat.zero_add] at h

/-- What the surroundings keep whatever they do is kept while a world drifts. -/
theorem outside_induction {P : σ → Prop} (hP : ∀ {o o'}, sur.Turn o o' → P o → P o')
    (h : Drift sur w n w') (hw : P w.outside) : P w'.outside := by
  induction h with
  | refl => exact hw
  | step _ e ih =>
      rcases perform_outside sur _ e with he | he
      · rw [he]; exact ih
      · exact hP he ih
  | raise _ f ih =>
      cases f with
      | callers => exact hP .cancel ih
      | own => exact ih

theorem now_le [OrderedSeconds τ] {flag : Option Flag} (hsur : sur.Punctual flag)
    (h : Drift sur w n w') : sur.now w.outside ≤ sur.now w'.outside :=
  h.outside_induction (P := fun o => sur.now w.outside ≤ sur.now o)
    (fun ht hle => OrderedSeconds.le_trans hle (hsur.now_le ht)) (OrderedSeconds.le_refl _)

theorem isRaised (hsur : sur.Lasting) (h : Drift sur w n w') {f : Flag}
    (hf : w.isRaised sur f = true) : w'.isRaised sur f = true := by
  cases f with
  | callers =>
      exact h.outside_induction (P := fun o => sur.cancelled o = true) hsur hf
  | own =>
      induction h with
      | refl => exact hf
      | step _ e ih => exact (ownFlag_perform _ e).trans ih
      | raise _ f ih =>
          cases f with
          | callers => exact ih
          | own => rfl

theorem resetAt? {b : Bucket} {reset : τ} (h : Drift sur w n w') (hn : n = 0)
    (hw : w.resetAt? b = some reset) : w'.resetAt? b = some reset := by
  induction h with
  | refl => exact hw
  | step _ e ih =>
      have hn := Nat.add_eq_zero_iff.mp hn
      exact resetAt?_perform hn.2 (ih hn.1)
  | raise _ f ih =>
      cases f with
      | callers => exact ih hn
      | own => exact ih hn

end Drift

end World

end RepoCensus
