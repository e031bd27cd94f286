import RepoCensus.World.Journal

/-!
# What the journal tells of a run

Each step adds its requests and its permits to the journal, and nothing is ever taken away from it.
-/

namespace RepoCensus

open RepoCensus.Calendar

variable {σ τ Q R : Type}

/-- The buckets from which permits were granted. -/
def Journal.permits (events : List (Event τ Q)) : List Bucket :=
  events.filterMap fun
    | .granted b => some b
    | _ => none

/-- The journal has grown, with these requests and these permits among the new entries. -/
def World.Records (w : World σ τ Q) (asked : List Q) (granted : List Bucket) (w' : World σ τ Q) : Prop :=
  ∃ new, w'.journal = new ++ w.journal ∧ Journal.requests new.reverse = asked ∧ Journal.permits new.reverse = granted

def Effect.asked : Effect τ Q → List Q
  | .ask q => [q]
  | _ => []

def Bucket.granted (b : Bucket) : Except (Refusal τ) Permit → List Bucket
  | .ok _ => [b]
  | .error _ => []

/-- The permits that a step takes, given what is learned from it. -/
def Effect.granted : (e : Effect τ Q) → e.Answer R → List Bucket
  | .reserve b _, a => b.granted a
  | _, _ => []

namespace World

variable {w w' w'' : World σ τ Q} {asked asked' : List Q} {granted granted' : List Bucket}

theorem Records.refl (w : World σ τ Q) : w.Records [] [] w := ⟨[], rfl, rfl, rfl⟩

theorem Records.of_journal_eq (h : w'.journal = w.journal) : w.Records [] [] w' := ⟨[], h, rfl, rfl⟩

theorem Records.trans (h : w.Records asked granted w') (h' : w'.Records asked' granted' w'') :
    w.Records (asked ++ asked') (granted ++ granted') w'' := by
  obtain ⟨new, hw, rfl, rfl⟩ := h
  obtain ⟨new', hw', rfl, rfl⟩ := h'
  refine ⟨new' ++ new, by rw [hw', hw, List.append_assoc], ?_, ?_⟩
  · simp [Journal.requests]
  · simp [Journal.permits]

theorem Records.requests (h : w.Records asked granted w') :
    Journal.requests (Journal.after w.journal.length w'.journal) = asked := by
  obtain ⟨new, hw, rfl, rfl⟩ := h
  simp [Journal.after, hw]

theorem Records.permits (h : w.Records asked granted w') :
    Journal.permits (Journal.after w.journal.length w'.journal) = granted := by
  obtain ⟨new, hw, rfl, rfl⟩ := h
  simp [Journal.after, hw]

/-- An entry that is neither a request nor a permit. -/
theorem Records.entry (n : Note τ) (hw : w'.journal = .noted n :: w.journal) : w.Records [] [] w' :=
  ⟨[.noted n], hw, rfl, rfl⟩

theorem records_connect {sur : Surroundings σ τ Q R} {client : Client} (h : w.connect sur client = .ok w') :
    w.Records [] [] w' := by
  unfold connect at h
  cases hconnect : sur.connect client w.outside with
  | error why =>
      rw [hconnect] at h
      cases h
  | ok outside =>
      rw [hconnect] at h
      cases h
      exact .of_journal_eq rfl

variable [Seconds τ]

theorem records_reserve (sur : Surroundings σ τ Q R) (w : World σ τ Q) (b : Bucket) (margin : Option Int) :
    w.Records [] (b.granted (w.reserve sur b margin).1) (w.reserve sur b margin).2 := by
  unfold reserve
  dsimp only
  generalize hp : (if (w.registry.tracker b).1.budget.isNone then _ else _ : τ × World σ τ Q) = p
  have hread : w.Records [] [] p.2 := by
    rw [← hp]
    split <;> exact .of_journal_eq rfl
  generalize hw : (if (w.registry.tracker b).1.rollsOver p.1 margin then _ else _ : World σ τ Q) = w'
  have hlogged : w.Records [] [] w' := by
    rw [← hw]
    split
    · exact hread.trans (.entry _ rfl)
    · exact hread
  split
  · exact hlogged.trans ⟨[.granted b], rfl, rfl, rfl⟩
  · exact hlogged.trans (.of_journal_eq rfl)

theorem records_update (w : World σ τ Q) (b : Bucket) (budget : Budget τ) : w.Records [] [] (w.update b budget).2 := by
  unfold update
  dsimp only
  split
  · exact .entry _ rfl
  · exact .of_journal_eq rfl
  · exact .of_journal_eq rfl

/-- A step adds to the journal what it asks for and what is granted to it. -/
theorem records_perform (sur : Surroundings σ τ Q R) (w : World σ τ Q) (e : Effect τ Q) :
    w.Records e.asked (e.granted (w.perform sur e).1) (w.perform sur e).2 := by
  cases e with
  | sleep s => exact ⟨[.slept s], rfl, rfl, rfl⟩
  | wait f s =>
      cases h : w.isRaised sur f <;> simp only [perform, h]
      · exact ⟨[.slept s], rfl, rfl, rfl⟩
      · exact .refl w
  | ask q => exact ⟨[.asked q], rfl, rfl, rfl⟩
  | reserve b margin => exact records_reserve sur w b margin
  | update b budget => exact records_update w b budget
  | note n => exact .entry _ rfl
  | _ => exact .of_journal_eq rfl

end World

end RepoCensus
