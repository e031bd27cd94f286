import RepoCensus.Proofs.Census.Deeds
import RepoCensus.Proofs.Census.Outcomes
import RepoCensus.Proofs.Snapshot.Merge

/-!
# The course of a census

A census is a pool of programs, one for each category that was requested. Main statement: whatever moves are made first,
the census then runs its course until all work is over, and its report joins the ends of the work, unless whoever waits
for them is interrupted.
-/

namespace RepoCensus

open RepoCensus.Calendar

variable {σ τ : Type}

namespace Census

open Work

/-- What an inquiry has of a category from before. -/
def earlier (i : Inquiry τ) (category : Category) : Option (Finding τ) :=
  (i.previous.filter fun s => s.repository = i.repository).bind fun s => s.results category

theorem comparable_fst (i : Inquiry τ) (w : ServiceWorld σ τ) :
    (comparable i w).1 = i.previous.filter fun s => s.repository = i.repository := by
  unfold comparable
  cases i.previous with
  | none => rfl
  | some s => by_cases h : s.repository = i.repository <;> simp [h, Option.filter]

variable [Seconds τ]

/-- The program of a category. -/
def program (i : Inquiry τ) (category : Category) : Program τ Request Reply (TaskEnd τ) :=
  taskProgram i (i.previous.filter fun s => s.repository = i.repository) category

/-- How many workers there are. -/
def staff (i : Inquiry τ) (most : Amount) : Nat :=
  (workers most (Category.distinct i.categories).length).ceiling.toNat

/-- A census before its first move. -/
def opening (i : Inquiry τ) (most : Amount) (w : ServiceWorld σ τ) :
    Pool σ τ Request Reply Category (TaskEnd τ) :=
  let count := (Category.distinct i.categories).length
  { seats := (Category.distinct i.categories).map fun c => (c, .open (program i c))
    world := (comparable i w).2.log .info (s!"Fetching {count} categories for " ++ i.repository.fullName ++ " with " ++
      (workers most count).text ++ " workers") }

/-- A census after some moves. -/
def standing (sur : Service σ τ) (i : Inquiry τ) (most : Amount) (w : ServiceWorld σ τ) (moves : List Move) :
    Pool σ τ Request Reply Category (TaskEnd τ) :=
  moves.foldl (Pool.move sur i.flag interrupts (staff i most)) (opening i most w)

/-- What a census does by some moves after others. -/
def deeds (sur : Service σ τ) (i : Inquiry τ) (most : Amount) (w : ServiceWorld σ τ) (before moves : List Move) :
    List (Category × Deed τ Request Reply) :=
  Pool.deeds sur i.flag interrupts (staff i most) moves (standing sur i most w before)

section

variable (sur : Service σ τ) (i : Inquiry τ) (most : Amount) (w : ServiceWorld σ τ)

theorem keys_standing (moves : List Move) :
    (standing sur i most w moves).seats.map Prod.fst = Category.distinct i.categories :=
  (Pool.keys_moves sur (staff i most) moves _).trans ((List.map_map ..).trans (List.map_id _))

theorem nodup_standing (moves : List Move) : ((standing sur i most w moves).seats.map Prod.fst).Nodup := by
  rw [keys_standing]
  exact Category.nodup_distinct i.categories

theorem of_deeds_eq_nil {c : Category} (hc : c ∉ i.categories) (before moves : List Move) :
    Deed.of c (deeds sur i most w before moves) = [] := by
  refine Pool.of_deeds_eq_nil (staff i most) moves ?_
  rwa [keys_standing, Category.mem_distinct]

theorem deeds_append (before later : List Move) : deeds sur i most w [] (before ++ later) =
    deeds sur i most w [] before ++ deeds sur i most w before later :=
  Pool.deeds_append (staff i most) before later _

omit [Seconds τ] in
theorem records_comparable : w.Records [] [] (comparable i w).2 := by
  unfold comparable
  split
  · exact .refl w
  · split
    · exact .refl w
    · exact .entry (.log .warning _) rfl

/-- The journal tells the requests of the deeds. -/
theorem records_standing (moves : List Move) : ∃ granted,
    w.Records (Deed.allRequests (deeds sur i most w [] moves)) granted (standing sur i most w moves).world := by
  have hopening : w.Records [] [] (opening i most w).world :=
    (records_comparable i w).trans (.entry (.log .info _) rfl)
  obtain ⟨granted, hmoves⟩ : ∃ granted, (opening i most w).world.Records
      (Deed.allRequests (deeds sur i most w [] moves)) granted (standing sur i most w moves).world :=
    Pool.records_moves (staff i most) moves _
  exact ⟨granted, hopening.trans hmoves⟩

end

section

variable {sur : Service σ τ} {i : Inquiry τ} {most : Amount} {w : ServiceWorld σ τ} {c : Category}
  {before later : List Move} {seat seat' : Seat τ Request Reply (TaskEnd τ)}

/-- The work on a category goes on from where it stands. -/
theorem exists_plays_later (h : (c, seat') ∈ (standing sur i most w (before ++ later)).seats) :
    ∃ seat, (c, seat) ∈ (standing sur i most w before).seats ∧
      seat.program.Plays (Deed.of c (deeds sur i most w before later)) seat'.program := by
  unfold standing at h
  rw [List.foldl_append] at h
  exact Pool.plays_moves (staff i most) later (nodup_standing sur i most w before) _ h

/-- The work on a category has come as far as its deeds tell. -/
theorem plays_of_mem (h : (c, seat) ∈ (standing sur i most w before).seats) :
    (program i c).Plays (Deed.of c (deeds sur i most w [] before)) seat.program := by
  obtain ⟨seat', hmem, hplays⟩ : ∃ seat', (c, seat') ∈ (standing sur i most w []).seats ∧
      seat'.program.Plays (Deed.of c (deeds sur i most w [] before)) seat.program := exists_plays_later h
  obtain ⟨_, _, heq⟩ := List.mem_map.mp hmem
  cases heq
  exact hplays

/-- Where the work on a category stands, and how it goes on. -/
theorem exists_seat (hc : c ∈ i.categories) (before later : List Move) :
    ∃ seat seat' : Seat τ Request Reply (TaskEnd τ), (c, seat) ∈ (standing sur i most w before).seats ∧
      seat.program.Plays (Deed.of c (deeds sur i most w before later)) seat'.program := by
  rw [← Category.mem_distinct, ← keys_standing sur i most w (before ++ later)] at hc
  obtain ⟨⟨_, seat'⟩, hmem, rfl⟩ := List.mem_map.mp hc
  obtain ⟨seat, hmem, hplays⟩ := exists_plays_later hmem
  exact ⟨seat, seat', hmem, hplays⟩

end

/-! ## Reports -/

omit [Seconds τ] in
/-- The snapshot that is reported, if there is one, joins the ends of the workers. -/
theorem close_eq_ok {sur : Service σ τ} {i : Inquiry τ} {ends : List (Category × Option (TaskEnd τ))}
    {w : ServiceWorld σ τ} {s : Snapshot τ} (h : (close sur i ends w).1.outcome = .ok s) :
    firstFault ends = none ∧ s.repository = i.repository ∧ s.results = results ends ∧ s.failures = failures ends := by
  unfold close at h
  split at h
  · cases h
  · rename_i hfault
    dsimp only at h
    split at h
    · cases h
    · rename_i hmake
      cases h
      obtain ⟨-, rfl⟩ := Snapshot.make_eq_ok_iff.mp hmake
      exact ⟨hfault, rfl, rfl, rfl⟩

omit [Seconds τ] in
/-- Findings and failures of different categories make a snapshot. -/
theorem close_eq (sur : Service σ τ) (i : Inquiry τ) {ends : List (Category × Option (TaskEnd τ))}
    (w : ServiceWorld σ τ) (hdisjoint : ∀ c, (results ends c).isSome → (failures ends c).isSome → False)
    (hfault : firstFault ends = none) : (close sur i ends w).1 =
      ⟨.ok ⟨i.repository, results ends, failures ends, (sur.clock w.outside).1⟩, tasks ends⟩ := by
  have hmake : ∀ now, Snapshot.make i.repository (results ends) (failures ends) now =
      .ok ⟨i.repository, results ends, failures ends, now⟩ := fun _ => Snapshot.make_eq_ok_iff.mpr ⟨hdisjoint, rfl⟩
  unfold close
  rw [hfault]
  simp only [hmake]

omit [Seconds τ] in
theorem tasks_close (sur : Service σ τ) (i : Inquiry τ) (ends : List (Category × Option (TaskEnd τ)))
    (w : ServiceWorld σ τ) : (close sur i ends w).1.tasks = tasks ends := by
  unfold close
  split
  · rfl
  · dsimp only
    split <;> rfl

omit [Seconds τ] in
theorem records_close (sur : Service σ τ) (i : Inquiry τ) (ends : List (Category × Option (TaskEnd τ)))
    (w : ServiceWorld σ τ) : w.Records [] [] (close sur i ends w).2 := by
  unfold close
  split
  · exact .refl w
  · dsimp only
    split
    · exact .of_journal_eq rfl
    · exact .entry (.log _ _) rfl

omit [Seconds τ] in
theorem records_conclude (sur : Service σ τ) (moves : List Move) (i : Inquiry τ)
    (ends : List (Category × Option (TaskEnd τ))) (w : ServiceWorld σ τ) :
    w.Records [] [] (conclude sur moves i ends w).2 := by
  unfold conclude
  split
  · exact .refl w
  · exact records_close sur i ends w

/-! ## Whole censuses -/

/-- What is done until all work is over is done step by step. -/
theorem not_mem_later {m : Move} (hm : m ≠ .step 0) {moves : List Move} (h : m ∉ moves) (n : Nat) :
    m ∉ moves ++ List.replicate n (.step 0) := by
  rw [List.mem_append]
  rintro (hmem | hmem)
  · exact h hmem
  · exact hm (List.eq_of_mem_replicate hmem)

/-- What came of a census that made these moves, until all work was over with these ends. -/
structure Ran (sur : Service σ τ) (i : Inquiry τ) (most : Amount) (w : ServiceWorld σ τ) (course : List Move)
    (ends : List (Category × Option (TaskEnd τ))) (r : Report τ) (w' : ServiceWorld σ τ) : Prop where
  ended : (standing sur i most w course).seats = ends.map fun e => (e.1, .over e.2)
  records : ∃ granted, w.Records (Deed.allRequests (deeds sur i most w [] course)) granted w'
  /-- The report joins the ends, unless whoever waited for them was interrupted. -/
  report : (∃ u, r = (close sur i ends u).1) ∨ .interrupt ∈ course ∧ r = ⟨.error (.interrupt ""), tasks ends⟩
  interrupted : .interrupt ∈ course → Category.distinct i.categories ≠ [] →
    r = ⟨.error (.interrupt ""), tasks ends⟩

section

variable {sur : Service σ τ} {i : Inquiry τ} {most : Amount} {w w' : ServiceWorld σ τ} {course : List Move}
  {ends : List (Category × Option (TaskEnd τ))} {r : Report τ} {c : Category}

namespace Ran

variable (h : Ran sur i most w course ends r w')

include h

theorem keys : ends.map Prod.fst = Category.distinct i.categories := by
  rw [← keys_standing sur i most w course, h.ended, List.map_map]
  rfl

theorem nodup : (ends.map Prod.fst).Nodup := h.keys ▸ Category.nodup_distinct i.categories

theorem mem_iff : c ∈ i.categories ↔ ∃ e, (c, e) ∈ ends := by
  rw [← Category.mem_distinct, ← h.keys]
  simp

theorem all_over : ∀ e ∈ (standing sur i most w course).seats, ∃ a, e.2 = .over a := by
  rw [h.ended]
  exact List.forall_mem_map.mpr fun e _ => ⟨e.2, rfl⟩

theorem mem_standing {e : Option (TaskEnd τ)} (he : (c, e) ∈ ends) :
    (c, .over e) ∈ (standing sur i most w course).seats := by
  rw [h.ended]
  exact List.mem_map.mpr ⟨_, he, rfl⟩

/-- The work on a category did the deeds that were done for it. -/
theorem does {e : TaskEnd τ} (he : (c, some e) ∈ ends) :
    (runTask i.fetcher i.flag i.repository c (earlier i c)).Does ⟨none, some (.start c)⟩
      (Deed.of c (deeds sur i most w [] course)) e.1 e.2 :=
  plays_of_mem (h.mem_standing he)

theorem tasks : r.tasks = tasks ends := by
  rcases h.report with ⟨u, rfl⟩ | ⟨-, rfl⟩
  · exact tasks_close sur i ends u
  · rfl

theorem told {s : Snapshot τ} (hs : r.outcome = .ok s) :
    firstFault ends = none ∧ s.repository = i.repository ∧ s.results = results ends ∧ s.failures = failures ends := by
  rcases h.report with ⟨u, rfl⟩ | ⟨-, rfl⟩
  · exact close_eq_ok hs
  · cases hs

end Ran

omit [Seconds τ] in
theorem staff_pos (hmost : most.isBelow 1 = false) (hrequested : Category.distinct i.categories ≠ []) :
    0 < staff i most := by
  have hlength := List.length_pos_iff.mpr hrequested
  unfold staff workers
  split
  · have hceiling := Amount.le_ceiling hmost ‹_›
    omega
  · rw [Amount.ceiling_number]
    omega

omit [Seconds τ] in
theorem width_eq_ok (hgiven : i.concurrency.getD (.ok i.fetcher.options.concurrency) = .ok most)
    (hmost : most.isBelow 1 = false) : width i = .ok most := by
  unfold width
  rw [hgiven]
  exact Amount.atLeast_eq_ok_iff.mpr ⟨rfl, hmost⟩

variable (hwidth : width i = .ok most)

include hwidth

theorem take_eq (hrequested : Category.distinct i.categories ≠ []) (moves : List Move) (w : ServiceWorld σ τ) :
    take sur moves i w = conclude sur moves i
      (Pool.finishAll sur i.flag interrupts (standing sur i most w moves).seats (standing sur i most w moves).world).1
      (Pool.finishAll sur i.flag interrupts (standing sur i most w moves).seats
        (standing sur i most w moves).world).2 := by
  unfold take
  rw [hwidth]
  dsimp only
  rw [if_neg (by simpa using hrequested), comparable_fst]
  unfold Pool.gather standing opening
  rw [List.map_map]
  rfl

/-- A census of no category has nothing to do, whatever moves are made. -/
theorem ran_of_nothing (sur : Service σ τ) (hrequested : Category.distinct i.categories = []) (moves : List Move)
    (w : ServiceWorld σ τ) : Ran sur i most w moves [] (take sur moves i w).1 (take sur moves i w).2 := by
  have hnone : ∀ c, Deed.of c (deeds sur i most w [] moves) = [] := fun c =>
    of_deeds_eq_nil sur i most w (by rw [← Category.mem_distinct, hrequested]; exact List.not_mem_nil) [] moves
  obtain ⟨outside, htake⟩ : ∃ outside, take sur moves i w =
      ((close sur i [] (comparable i w).2).1, (comparable i w).2.withOutside outside) := by
    have hdisjoint : ∀ c, (results (τ := τ) [] c).isSome → (failures (τ := τ) [] c).isSome → False :=
      fun _ hresult => nomatch hresult
    rw [close_eq sur i _ hdisjoint rfl]
    unfold take
    rw [hwidth, hrequested]
    exact ⟨_, rfl⟩
  rw [htake]
  constructor
  case ended => exact List.map_eq_nil_iff.mp ((keys_standing sur i most w moves).trans hrequested)
  case records =>
    rw [Deed.allRequests_eq (k := .stars) fun c _ => by rw [hnone]; rfl, hnone]
    exact ⟨[], (records_comparable i w).trans (.of_journal_eq rfl)⟩
  case report => exact .inl ⟨_, rfl⟩
  case interrupted => exact fun _ hnot => absurd hrequested hnot

theorem exists_ran (sur : Service σ τ) (hmost : most.isBelow 1 = false) (moves : List Move) (w : ServiceWorld σ τ) :
    ∃ n ends, Ran sur i most w (moves ++ List.replicate n (.step 0)) ends (take sur moves i w).1
      (take sur moves i w).2 := by
  by_cases hrequested : Category.distinct i.categories = []
  · refine ⟨0, [], ?_⟩
    rw [List.replicate_zero, List.append_nil]
    exact ran_of_nothing hwidth sur hrequested moves w
  -- the first worker goes on until all work is over
  · obtain ⟨n, hfinish⟩ := Pool.exists_finish (staff_pos hmost hrequested) (standing sur i most w moves).seats
      (standing sur i most w moves).world
    let course := moves ++ List.replicate n (.step 0)
    have hstanding : standing sur i most w course = _ := List.foldl_append.trans hfinish
    obtain ⟨granted, hmoves⟩ := records_standing sur i most w course
    rw [hstanding] at hmoves
    refine ⟨n, _, congrArg Pool.seats hstanding, ?_, ?_, fun hinterrupt _ => ?_⟩
    · rw [take_eq hwidth hrequested, ← List.append_nil (Deed.allRequests _)]
      exact ⟨_, hmoves.trans (records_conclude sur moves i _ _)⟩
    · rw [take_eq hwidth hrequested]
      unfold conclude
      split
      · exact .inr ⟨List.mem_append_left _ ‹_›, rfl⟩
      · exact .inl ⟨_, rfl⟩
    · have hmoves : .interrupt ∈ moves := by
        by_contra hnot
        exact not_mem_later (by decide) hnot n hinterrupt
      rw [take_eq hwidth hrequested]
      unfold conclude
      rw [if_pos hmoves]

end

end Census

end RepoCensus
