import RepoCensus.Proofs.Census.Pool
import RepoCensus.Proofs.Work.Deeds

/-!
# What the workers of a pool do

The deeds of a pool, each with the key of the program whose step it was. In whatever order the workers take their
steps, each program plays its own part of them.
-/

namespace RepoCensus

open RepoCensus.Calendar

variable {σ τ Q R κ α : Type}

namespace Deed

/-- The deeds of one program. -/
def of [DecidableEq κ] (k : κ) (D : List (κ × Deed τ Q R)) : List (Deed τ Q R) :=
  D.filterMap fun e => if e.1 = k then some e.2 else none

/-- The requests that were made, whoever made them. -/
def allRequests (D : List (κ × Deed τ Q R)) : List Q := requests (D.map Prod.snd)

theorem allRequests_append (D D' : List (κ × Deed τ Q R)) :
    allRequests (D ++ D') = allRequests D ++ allRequests D' := by
  unfold allRequests
  rw [List.map_append, requests_append]

variable [DecidableEq κ] {k : κ} {D D' : List (κ × Deed τ Q R)}

theorem of_append : of k (D ++ D') = of k D ++ of k D' := List.filterMap_append

theorem mem_of {d : Deed τ Q R} : d ∈ of k D ↔ (k, d) ∈ D := by
  simp only [of, List.mem_filterMap, Option.ite_none_right_eq_some, Option.some.injEq]
  constructor
  · rintro ⟨⟨_, _⟩, h, rfl, rfl⟩
    exact h
  · exact fun h => ⟨_, h, rfl, rfl⟩

theorem of_eq_nil_iff : of k D = [] ↔ k ∉ D.map Prod.fst := by
  rw [List.eq_nil_iff_forall_not_mem]
  simp [mem_of]

theorem of_map (k : κ) (ds : List (Deed τ Q R)) : of k (ds.map (k, ·)) = ds := by
  rw [of, List.filterMap_map]
  exact (congrArg (List.filterMap · ds) (funext fun _ => if_pos rfl)).trans List.filterMap_some

theorem of_map_of_ne {k' : κ} (h : k' ≠ k) (ds : List (Deed τ Q R)) : of k (ds.map (k', ·)) = [] := by
  rw [of_eq_nil_iff]
  intro hk
  obtain ⟨e, he, rfl⟩ := List.mem_map.mp hk
  obtain ⟨d, _, rfl⟩ := List.mem_map.mp he
  exact h rfl

/-- Where one program alone makes requests, they are all the requests. -/
theorem allRequests_eq (h : ∀ k', k' ≠ k → requests (of k' D) = []) : allRequests D = requests (of k D) := by
  -- on the record; each entry is either by `k` or by one whose requests there are none of
  induction D with
  | nil => rfl
  | cons e D ih =>
      obtain ⟨k', d⟩ := e
      have hsplit : ∀ k'', requests (of k'' ((k', d) :: D)) =
          requests (of k'' ([d].map (k', ·))) ++ requests (of k'' D) := by
        intro k''
        rw [← requests_append, ← of_append]
        rfl
      have hrest : allRequests D = requests (of k D) := by
        refine ih fun k'' hk => ?_
        have hnone := h k'' hk
        rw [hsplit] at hnone
        exact (List.append_eq_nil_iff.mp hnone).2
      have hall : allRequests ((k', d) :: D) = requests [d] ++ allRequests D := allRequests_append [(k', d)] D
      rw [hall, hsplit, hrest]
      by_cases hk : k' = k
      · subst hk
        rw [of_map]
      · have hnone := h k' hk
        rw [hsplit, of_map] at hnone
        rw [of_map_of_ne hk, (List.append_eq_nil_iff.mp hnone).1]
        rfl

end Deed

/-- What is left of a program in a seat. -/
def Seat.program : Seat τ Q R α → Program τ Q R α
  | .open p => p
  | .over a => Program.ended a

namespace Pool

variable [Seconds τ]

/-! ## Deeds of moves -/

/-- The deed of a program's next step, if it takes one. -/
def seatDeeds (sur : Surroundings σ τ Q R) (w : World σ τ Q) : Seat τ Q R α → List (Deed τ Q R)
  | .open (.act e _) => [⟨e, (w.perform sur e).1⟩]
  | _ => []

def workerDeeds (sur : Surroundings σ τ Q R) (w : World σ τ Q) :
    Nat → List (κ × Seat τ Q R α) → List (κ × Deed τ Q R)
  | _, [] => []
  | n, (_, .over _) :: rest => workerDeeds sur w n rest
  | 0, (k, seat) :: _ => (seatDeeds sur w seat).map (k, ·)
  | n + 1, _ :: rest => workerDeeds sur w n rest

def moveDeeds (sur : Surroundings σ τ Q R) (width : Nat) (p : Pool σ τ Q R κ α) : Move → List (κ × Deed τ Q R)
  | .step worker => if worker < width then workerDeeds sur p.world worker p.seats else []
  | .cancel | .interrupt => []

/-- What is done by a pool's moves. -/
def deeds (sur : Surroundings σ τ Q R) (flag : Flag) (interrupts : α → Bool) (width : Nat) :
    List Move → Pool σ τ Q R κ α → List (κ × Deed τ Q R)
  | [], _ => []
  | m :: moves, p =>
    moveDeeds sur width p m ++ deeds sur flag interrupts width moves (move sur flag interrupts width p m)

variable {sur : Surroundings σ τ Q R} {flag : Flag} {interrupts : α → Bool}

theorem deeds_append (width : Nat) (moves moves' : List Move) (p : Pool σ τ Q R κ α) :
    deeds sur flag interrupts width (moves ++ moves') p = deeds sur flag interrupts width moves p ++
      deeds sur flag interrupts width moves' (moves.foldl (move sur flag interrupts width) p) := by
  induction moves generalizing p with
  | nil => rfl
  | cons m moves ih => rw [List.cons_append, deeds, deeds, ih, List.append_assoc, List.foldl_cons]

/-! ## The world around the deeds -/

/-- A worker does one deed, or it does nothing but perhaps raise the flag. -/
theorem stepWorker_cases (worker : Nat) (seats : List (κ × Seat τ Q R α)) (w : World σ τ Q) :
    (∃ k e, workerDeeds sur w worker seats = [(k, ⟨e, (w.perform sur e).1⟩)] ∧
      (stepWorker sur flag interrupts worker seats w).2 = (w.perform sur e).2) ∨
    workerDeeds sur w worker seats = [] ∧ ((stepWorker sur flag interrupts worker seats w).2 = w ∨
      (stepWorker sur flag interrupts worker seats w).2 = w.raiseFlag sur flag) := by
  induction seats generalizing worker with
  | nil => exact .inr ⟨rfl, .inl rfl⟩
  | cons entry rest ih =>
      obtain ⟨k, seat⟩ := entry
      cases seat with
      | «over» a => exact ih worker
      | «open» p =>
          cases worker with
          | succ worker => exact ih worker
          | zero =>
              cases p with
              | act e next => exact .inl ⟨k, e, rfl, rfl⟩
              | stalled => exact .inr ⟨rfl, .inl rfl⟩
              | done a =>
                  refine .inr ⟨rfl, ?_⟩
                  show (if interrupts a then _ else w) = w ∨ (if interrupts a then _ else w) = _
                  split
                  · exact .inr rfl
                  · exact .inl rfl

variable (flag interrupts) in
/-- A move is one deed, or nothing but perhaps a flag that is raised. -/
theorem move_cases (width : Nat) (p : Pool σ τ Q R κ α) (m : Move) :
    (∃ k e, moveDeeds sur width p m = [(k, ⟨e, (p.world.perform sur e).1⟩)] ∧
      (move sur flag interrupts width p m).world = (p.world.perform sur e).2) ∨
    moveDeeds sur width p m = [] ∧ ((move sur flag interrupts width p m).world = p.world ∨
      ∃ f, (move sur flag interrupts width p m).world = p.world.raiseFlag sur f) := by
  cases m with
  | cancel => exact .inr ⟨rfl, .inr ⟨.callers, rfl⟩⟩
  | interrupt => exact .inr ⟨rfl, .inr ⟨flag, rfl⟩⟩
  | step worker =>
      by_cases hwidth : worker < width
      · simp only [moveDeeds, move, hwidth, if_true]
        exact (stepWorker_cases worker p.seats p.world).imp id fun h => ⟨h.1, h.2.imp id fun h => ⟨flag, h⟩⟩
      · simp only [moveDeeds, move, hwidth, if_false]
        exact .inr ⟨trivial, .inl trivial⟩

/-- What holds of the world whatever is done to it holds wherever a deed is done. -/
theorem deeds_induction {I : World σ τ Q → Prop} (hdeed : ∀ w e, I w → I (w.perform sur e).2)
    (hraise : ∀ w f, I w → I (w.raiseFlag sur f)) (width : Nat) (moves : List Move) {p : Pool σ τ Q R κ α}
    (hp : I p.world) : I (moves.foldl (move sur flag interrupts width) p).world ∧
      ∀ e ∈ deeds sur flag interrupts width moves p, ∃ w, I w ∧ e.2.answer = (w.perform sur e.2.effect).1 := by
  induction moves generalizing p with
  | nil => exact ⟨hp, fun _ he => absurd he List.not_mem_nil⟩
  | cons m moves ih =>
      rw [deeds, List.forall_mem_append, List.foldl_cons]
      rcases move_cases flag interrupts width p m with ⟨k, e, hdeeds, hworld⟩ | ⟨hdeeds, hworld⟩
      · obtain ⟨hlast, hrest⟩ := ih (hworld ▸ hdeed _ e hp)
        refine ⟨hlast, ?_, hrest⟩
        rw [hdeeds]
        exact List.forall_mem_singleton.mpr ⟨p.world, hp, rfl⟩
      · have hmoved : I (move sur flag interrupts width p m).world := by
          rcases hworld with hworld | ⟨f, hworld⟩
          · exact hworld ▸ hp
          · exact hworld ▸ hraise _ f hp
        obtain ⟨hlast, hrest⟩ := ih hmoved
        refine ⟨hlast, ?_, hrest⟩
        rw [hdeeds]
        exact List.forall_mem_nil _

/-- Once a flag is raised, whoever looks at it finds it raised. -/
theorem findsRaised_deeds (hlasting : sur.Lasting) (width : Nat) (moves : List Move) {p : Pool σ τ Q R κ α} {f : Flag}
    (hp : p.world.isRaised sur f = true) :
    ∀ e ∈ deeds sur flag interrupts width moves p, e.2.FindsRaised f := by
  let I : World σ τ Q → Prop := fun w => w.isRaised sur f = true
  have hdeed : ∀ w e, I w → I (w.perform sur e).2 := fun w e h => (World.Drift.single w e).isRaised hlasting h
  have hraise : ∀ w g, I w → I (w.raiseFlag sur g) := fun w g h => (World.Drift.refl.raise g).isRaised hlasting h
  rintro ⟨k, e, a⟩ he
  obtain ⟨w, hw, ha⟩ := (deeds_induction hdeed hraise width moves hp).2 _ he
  cases e with
  | cancelled g =>
      rintro rfl
      exact ha.trans hw
  | _ => trivial

/-- The journal tells the requests of the deeds. -/
theorem records_moves (width : Nat) (moves : List Move) (p : Pool σ τ Q R κ α) : ∃ granted,
    p.world.Records (Deed.allRequests (deeds sur flag interrupts width moves p)) granted
      (moves.foldl (move sur flag interrupts width) p).world := by
  induction moves generalizing p with
  | nil => exact ⟨[], .refl _⟩
  | cons m moves ih =>
      have hmove : ∃ granted, p.world.Records (Deed.allRequests (moveDeeds sur width p m)) granted
          (move sur flag interrupts width p m).world := by
        rcases move_cases flag interrupts width p m with ⟨k, e, hdeeds, hworld⟩ | ⟨hdeeds, hworld⟩
        · have hasked : Deed.allRequests [(k, (⟨e, (p.world.perform sur e).1⟩ : Deed τ Q R))] = e.asked := by
            simp [Deed.allRequests, Deed.requests]
          rw [hdeeds, hworld, hasked]
          exact ⟨_, World.records_perform sur p.world e⟩
        · refine ⟨[], ?_⟩
          rw [hdeeds]
          rcases hworld with hworld | ⟨f, hworld⟩
          · exact hworld ▸ .refl _
          · rw [hworld]
            cases f <;> exact .of_journal_eq rfl
      obtain ⟨granted, hmove⟩ := hmove
      obtain ⟨granted', hmoves⟩ := ih (move sur flag interrupts width p m)
      rw [deeds, Deed.allRequests_append]
      exact ⟨_, hmove.trans hmoves⟩

/-! ## The deeds of one program -/

section

variable [DecidableEq κ]

omit [DecidableEq κ] in
theorem keys_workerDeeds (worker : Nat) (seats : List (κ × Seat τ Q R α)) (w : World σ τ Q) :
    ∀ e ∈ workerDeeds sur w worker seats, e.1 ∈ seats.map Prod.fst := by
  induction seats generalizing worker with
  | nil => exact List.forall_mem_nil _
  | cons entry rest ih =>
      obtain ⟨k, seat⟩ := entry
      have hfurther : ∀ worker', ∀ e ∈ workerDeeds sur w worker' rest, e.1 ∈ k :: rest.map Prod.fst :=
        fun worker' e he => List.mem_cons_of_mem _ (ih worker' e he)
      cases seat with
      | «over» a => exact hfurther worker
      | «open» p =>
          cases worker with
          | succ worker => exact hfurther worker
          | zero =>
              intro e he
              obtain ⟨d, _, rfl⟩ := List.mem_map.mp he
              exact List.mem_cons_self ..

theorem of_workerDeeds_eq_nil {k : κ} {seats : List (κ × Seat τ Q R α)} (h : k ∉ seats.map Prod.fst) (worker : Nat)
    (w : World σ τ Q) : Deed.of k (workerDeeds sur w worker seats) = [] := by
  rw [Deed.of_eq_nil_iff]
  intro hk
  obtain ⟨e, he, rfl⟩ := List.mem_map.mp hk
  exact h (keys_workerDeeds worker seats w e he)

theorem plays_stepSeat (seat : Seat τ Q R α) (w : World σ τ Q) :
    seat.program.Plays (seatDeeds sur w seat) (stepSeat sur flag interrupts seat w).1.program := by
  cases seat with
  | «over» a => exact .refl _
  | «open» p =>
      cases p with
      | act e next => exact .act (.refl _)
      | _ => exact .refl _

/-- Whatever step a worker takes, each program plays its own part of it. -/
theorem plays_stepWorker {seats : List (κ × Seat τ Q R α)} (hnodup : (seats.map Prod.fst).Nodup) (worker : Nat)
    (w : World σ τ Q) : ∀ e' ∈ (stepWorker sur flag interrupts worker seats w).1, ∃ seat, (e'.1, seat) ∈ seats ∧
      seat.program.Plays (Deed.of e'.1 (workerDeeds sur w worker seats)) e'.2.program := by
  induction seats generalizing worker with
  | nil => exact List.forall_mem_nil _
  | cons entry rest ih =>
      obtain ⟨k, seat⟩ := entry
      rw [List.map_cons, List.nodup_cons] at hnodup
      -- a worker further on takes the step
      have hfurther : ∀ worker', ∀ e' ∈ (k, seat) :: (stepWorker sur flag interrupts worker' rest w).1,
          ∃ seat', (e'.1, seat') ∈ (k, seat) :: rest ∧
            seat'.program.Plays (Deed.of e'.1 (workerDeeds sur w worker' rest)) e'.2.program := by
        intro worker'
        refine List.forall_mem_cons.mpr ⟨⟨seat, List.mem_cons_self .., ?_⟩, fun e' he' => ?_⟩
        · rw [of_workerDeeds_eq_nil hnodup.1]
          exact .refl _
        · obtain ⟨seat', hmem, hplays⟩ := ih hnodup.2 worker' e' he'
          exact ⟨seat', List.mem_cons_of_mem _ hmem, hplays⟩
      cases seat with
      | «over» a => exact hfurther worker
      | «open» p =>
          cases worker with
          | succ worker => exact hfurther worker
          | zero =>
              refine List.forall_mem_cons.mpr ⟨⟨.open p, List.mem_cons_self .., ?_⟩, fun e' he' => ?_⟩
              · show p.Plays (Deed.of k ((seatDeeds sur w (.open p)).map (k, ·))) _
                rw [Deed.of_map]
                exact plays_stepSeat (.open p) w
              · have hne : k ≠ e'.1 := by
                  rintro rfl
                  exact hnodup.1 (List.mem_map.mpr ⟨e', he', rfl⟩)
                refine ⟨e'.2, List.mem_cons_of_mem _ he', ?_⟩
                show e'.2.program.Plays (Deed.of e'.1 ((seatDeeds sur w (.open p)).map (k, ·))) _
                rw [Deed.of_map_of_ne hne]
                exact .refl _

theorem plays_move (width : Nat) {p : Pool σ τ Q R κ α} (hnodup : (p.seats.map Prod.fst).Nodup) (m : Move) :
    ∀ e' ∈ (move sur flag interrupts width p m).seats, ∃ seat, (e'.1, seat) ∈ p.seats ∧
      seat.program.Plays (Deed.of e'.1 (moveDeeds sur width p m)) e'.2.program := by
  cases m with
  | cancel | interrupt => exact fun e' he' => ⟨e'.2, he', .refl _⟩
  | step worker =>
      by_cases hwidth : worker < width
      · simp only [move, moveDeeds, hwidth, if_true]
        exact plays_stepWorker hnodup worker p.world
      · simp only [move, moveDeeds, hwidth, if_false]
        exact fun e' he' => ⟨e'.2, he', .refl _⟩

/-- Whatever moves are made, each program plays its own deeds. -/
theorem plays_moves (width : Nat) (moves : List Move) {p : Pool σ τ Q R κ α} (hnodup : (p.seats.map Prod.fst).Nodup) :
    ∀ e' ∈ (moves.foldl (move sur flag interrupts width) p).seats, ∃ seat, (e'.1, seat) ∈ p.seats ∧
      seat.program.Plays (Deed.of e'.1 (deeds sur flag interrupts width moves p)) e'.2.program := by
  induction moves generalizing p with
  | nil => exact fun e' he' => ⟨e'.2, he', .refl _⟩
  | cons m moves ih =>
      have hkeys : (move sur flag interrupts width p m).seats.map Prod.fst = p.seats.map Prod.fst :=
        keys_moves sur width [m] p
      intro e' he'
      obtain ⟨seat', hmem', hplays'⟩ := ih (hkeys ▸ hnodup) e' he'
      obtain ⟨seat, hmem, hplays⟩ := plays_move width hnodup m _ hmem'
      refine ⟨seat, hmem, ?_⟩
      rw [deeds, Deed.of_append]
      exact hplays.trans hplays'

/-- Nothing is done for a key that no program has. -/
theorem of_deeds_eq_nil (width : Nat) (moves : List Move) {p : Pool σ τ Q R κ α} {k : κ}
    (hk : k ∉ p.seats.map Prod.fst) : Deed.of k (deeds sur flag interrupts width moves p) = [] := by
  induction moves generalizing p with
  | nil => rfl
  | cons m moves ih =>
      have hkeys : (move sur flag interrupts width p m).seats.map Prod.fst = p.seats.map Prod.fst :=
        keys_moves sur width [m] p
      rw [deeds, Deed.of_append, ih (hkeys ▸ hk), List.append_nil]
      cases m with
      | cancel | interrupt => rfl
      | step worker =>
          unfold moveDeeds
          dsimp only
          split
          · exact of_workerDeeds_eq_nil hk worker p.world
          · rfl

/-! ## One worker -/

/-- Of the programs that are not over only the first one has been begun, and the latest deed is its own. -/
def Orderly (D : List (κ × Deed τ Q R)) : List (κ × Seat τ Q R α) → Prop
  | [] => True
  | (_, .over _) :: rest => Orderly D rest
  | (k, .open _) :: rest =>
    (Deed.of k D ≠ [] → D.getLast?.map Prod.fst = some k) ∧ ∀ e ∈ rest, Deed.of e.1 D = []

omit [Seconds τ] in
theorem orderly_of_untouched {D : List (κ × Deed τ Q R)} {seats : List (κ × Seat τ Q R α)}
    (h : ∀ e ∈ seats, Deed.of e.1 D = []) : Orderly D seats := by
  induction seats with
  | nil => trivial
  | cons entry rest ih =>
      obtain ⟨hfirst, hrest⟩ := List.forall_mem_cons.mp h
      obtain ⟨k, seat⟩ := entry
      cases seat with
      | «over» a => exact ih hrest
      | «open» p => exact ⟨fun hk => absurd hfirst hk, hrest⟩

omit [Seconds τ] in
/-- A program that is neither over nor the owner of the latest deed has not been begun. -/
theorem Orderly.untouched_or_last {D : List (κ × Deed τ Q R)} {seats : List (κ × Seat τ Q R α)} (h : Orderly D seats)
    {k : κ} {seat : Seat τ Q R α} (hmem : (k, seat) ∈ seats) :
    (∃ a, seat = .over a) ∨ Deed.of k D = [] ∨ D.getLast?.map Prod.fst = some k := by
  induction seats with
  | nil => cases hmem
  | cons entry rest ih =>
      obtain ⟨k', seat'⟩ := entry
      cases seat' with
      | «over» a =>
          rcases List.mem_cons.mp hmem with heq | hmem
          · cases heq
            exact .inl ⟨a, rfl⟩
          · exact ih h hmem
      | «open» p =>
          obtain ⟨hlast, hrest⟩ := h
          rcases List.mem_cons.mp hmem with heq | hmem
          · cases heq
            exact .inr ((Decidable.em (Deed.of k D = [])).imp id hlast)
          · exact .inr (.inl (hrest _ hmem))

/-- The only worker goes on with the first program that is not over. -/
theorem orderly_stepWorker {D : List (κ × Deed τ Q R)} {seats : List (κ × Seat τ Q R α)}
    (hnodup : (seats.map Prod.fst).Nodup) (h : Orderly D seats) (w : World σ τ Q) :
    Orderly (D ++ workerDeeds sur w 0 seats) (stepWorker sur flag interrupts 0 seats w).1 := by
  induction seats with
  | nil => trivial
  | cons entry rest ih =>
      obtain ⟨k, seat⟩ := entry
      rw [List.map_cons, List.nodup_cons] at hnodup
      cases seat with
      | «over» a => exact ih hnodup.2 h
      | «open» p =>
          obtain ⟨_, hrest⟩ := h
          have hothers : ∀ ds : List (Deed τ Q R), ∀ e ∈ rest, Deed.of e.1 (D ++ ds.map (k, ·)) = [] := by
            intro ds e he
            have hne : k ≠ e.1 := by
              rintro rfl
              exact hnodup.1 (List.mem_map.mpr ⟨e, he, rfl⟩)
            rw [Deed.of_append, hrest e he, Deed.of_map_of_ne hne]
            rfl
          cases p with
          | act e next => exact ⟨fun _ => by simp [workerDeeds, seatDeeds], hothers [⟨e, (w.perform sur e).1⟩]⟩
          | done a => exact (orderly_of_untouched (hothers []) : Orderly _ rest)
          | stalled => exact (orderly_of_untouched (hothers []) : Orderly _ rest)

theorem orderly_moves {width : Nat} (hwidth : width = 1) (moves : List Move) {p : Pool σ τ Q R κ α}
    (hnodup : (p.seats.map Prod.fst).Nodup) {D : List (κ × Deed τ Q R)} (h : Orderly D p.seats) :
    Orderly (D ++ deeds sur flag interrupts width moves p) (moves.foldl (move sur flag interrupts width) p).seats := by
  induction moves generalizing p D with
  | nil =>
      rw [deeds, List.append_nil]
      exact h
  | cons m moves ih =>
      have hkeys : (move sur flag interrupts width p m).seats.map Prod.fst = p.seats.map Prod.fst :=
        keys_moves sur width [m] p
      rw [deeds, ← List.append_assoc, List.foldl_cons]
      refine ih (hkeys ▸ hnodup) ?_
      subst hwidth
      cases m with
      | cancel | interrupt =>
          rw [moveDeeds, List.append_nil]
          exact h
      | step worker =>
          cases worker with
          | zero => exact orderly_stepWorker hnodup h p.world
          | succ worker =>
              rw [moveDeeds, if_neg (by omega), List.append_nil]
              simpa only [move, Nat.add_lt_iff_lt_sub_right, Nat.sub_self, Nat.not_lt_zero, if_false] using h

end

/-! ## Finishing -/

/-- Programs that are over are passed by. -/
theorem moves_over (width : Nat) (k : κ) (a : Option α) (n : Nat) (p : Pool σ τ Q R κ α) :
    (List.replicate n (.step 0)).foldl (move sur flag interrupts width) ⟨(k, .over a) :: p.seats, p.world⟩ =
      ⟨(k, .over a) :: ((List.replicate n (.step 0)).foldl (move sur flag interrupts width) p).seats,
        ((List.replicate n (.step 0)).foldl (move sur flag interrupts width) p).world⟩ := by
  induction n generalizing p with
  | zero => rfl
  | succ n ih =>
      rw [List.replicate_succ, List.foldl_cons, List.foldl_cons, ← ih]
      congr 1
      unfold move
      dsimp only
      split <;> rfl

section

variable {width : Nat} (hwidth : 0 < width)

include hwidth

variable (sur flag interrupts) in
theorem exists_finish_seat (k : κ) (p : Program τ Q R α) (rest : List (κ × Seat τ Q R α)) (w : World σ τ Q) :
    ∃ n, (List.replicate n (.step 0)).foldl (move sur flag interrupts width) ⟨(k, .open p) :: rest, w⟩ =
      ⟨(k, .over (finishSeat sur flag interrupts (.open p) w).1) :: rest,
        (finishSeat sur flag interrupts (.open p) w).2⟩ := by
  have hstep : ∀ p w, move sur flag interrupts width ⟨(k, .open p) :: rest, w⟩ (.step 0) =
      ⟨(k, (stepSeat sur flag interrupts (.open p) w).1) :: rest, (stepSeat sur flag interrupts (.open p) w).2⟩ := by
    intro p w
    simp only [move, hwidth, if_true]
    rfl
  induction p generalizing w with
  | done a => exact ⟨1, hstep (.done a) w⟩
  | stalled => exact ⟨1, hstep .stalled w⟩
  | act e next ih =>
      obtain ⟨n, h⟩ := ih (w.perform sur e).1 (w.perform sur e).2
      refine ⟨n + 1, ?_⟩
      rw [List.replicate_succ, List.foldl_cons, hstep]
      exact h

/-- To run all programs to their ends is to go on with the first worker until they are over. -/
theorem exists_finish (seats : List (κ × Seat τ Q R α)) (w : World σ τ Q) :
    ∃ n, (List.replicate n (.step 0)).foldl (move sur flag interrupts width) ⟨seats, w⟩ =
      ⟨(finishAll sur flag interrupts seats w).1.map fun e => (e.1, .over e.2),
        (finishAll sur flag interrupts seats w).2⟩ := by
  induction seats generalizing w with
  | nil => exact ⟨0, rfl⟩
  | cons entry rest ih =>
      obtain ⟨k, seat⟩ := entry
      cases seat with
      | «over» a =>
          obtain ⟨n, h⟩ := ih w
          refine ⟨n, (moves_over width k a n ⟨rest, w⟩).trans ?_⟩
          rw [h]
          rfl
      | «open» p =>
          obtain ⟨n, hseat⟩ := exists_finish_seat sur flag interrupts hwidth k p rest w
          obtain ⟨n', hrest⟩ := ih (finishSeat sur flag interrupts (.open p) w).2
          refine ⟨n + n', ?_⟩
          rw [← List.replicate_append_replicate, List.foldl_append, hseat]
          refine (moves_over width k _ n' ⟨rest, _⟩).trans ?_
          rw [hrest]
          rfl

end

end Pool

end RepoCensus
