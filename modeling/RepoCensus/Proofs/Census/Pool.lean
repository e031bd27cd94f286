import RepoCensus.Census.Pool
import RepoCensus.Proofs.World.Run

/-!
# Pools

The programs of a pool share one world. Each of them was shown to come to its end whatever the others do, as
long as these pass on no more budgets than they can pay; so all of them come to their ends, in whatever order
the workers take their steps and whenever flags are raised.
-/

namespace RepoCensus

open RepoCensus.Calendar

variable {σ τ Q R κ α : Type} [Seconds τ] {c : Crew σ τ Q R} {flag : Flag} {interrupts : α → Bool}

/-! ## Seats -/

/-- What is left of a program always ends as wished; its result, if it is over, is as wished. -/
def Seat.Fits (c : Crew σ τ Q R) (post : α → Prop) (g : Standing σ τ Q) : Seat τ Q R α → Prop
  | .open p => p.Always c.behaviour (fun a _ => post a) g
  | .over (some a) => post a
  | .over none => c.stalls

/-- An end of a program that is as wished; only who may stall has none. -/
def Crew.Reached (c : Crew σ τ Q R) (post : α → Prop) : Option α → Prop
  | some a => post a
  | none => c.stalls

namespace Seat

variable {post : α → Prop} {g g' : Standing σ τ Q} {seat : Seat τ Q R α}

theorem fits_over {a : Option α} :
    (Seat.over a : Seat τ Q R α).Fits c post g ↔ c.Reached post a := by
  cases a <;> exact Iff.rfl

theorem Fits.drift (h : seat.Fits c post g) (hg : c.behaviour.drifts g g') : seat.Fits c post g' := by
  cases seat with
  | «open» p =>
      refine Program.Always.of_drifts ?_ (fun h _ => h) h hg
      rintro g₁ g₂ g₃ ⟨hc, n, hn, hd⟩ ⟨hc', m, hm, hd'⟩
      exact ⟨hc'.trans hc, n + m, by omega, hd.trans hd'⟩
  | «over» a => exact fits_over.mpr (fits_over.mp h)

theorem exists_raiseFlag (w : World σ τ Q) (p : Prop) [Decidable p] :
    World.Drift c.sur w 0 (if p then w.raiseFlag c.sur flag else w) := by
  split
  · exact .raise .refl flag
  · exact .refl

/-- A step of a program is paid for out of its own credit. -/
theorem fits_stepSeat (hprice : c.prices.update = 1) (h : seat.Fits c post g) :
    ∃ credit told, credit + told ≤ g.credit ∧
      World.Drift c.sur g.world told (Pool.stepSeat c.sur flag interrupts seat g.world).2 ∧
      (Pool.stepSeat c.sur flag interrupts seat g.world).1.Fits c post
        ⟨credit, g.others, (Pool.stepSeat c.sur flag interrupts seat g.world).2⟩ := by
  cases seat with
  | «over» a => exact ⟨g.credit, 0, Nat.le_refl _, .refl, fits_over.mpr (fits_over.mp h)⟩
  | «open» p =>
      cases p with
      | done a => exact ⟨g.credit, 0, Nat.le_refl _, exists_raiseFlag _ _, h⟩
      | stalled => exact ⟨g.credit, 0, Nat.le_refl _, .refl, h⟩
      | act e next =>
          obtain ⟨⟨credit, others, world⟩, rfl, hpays, hnext⟩ := Program.Always.perform h
          obtain ⟨told, hdrift, hcredit⟩ := hpays.exists_drift hprice
          have hothers : others = g.others := hpays.others
          exact ⟨credit, told, hcredit, hdrift, hothers ▸ hnext⟩

end Seat

/-! ## Rows of seats -/

namespace Pool

/-- Programs that fit beside each other: each of them has a credit of its own, all of them together have `n`,
and those elsewhere have `elsewhere`. -/
def Fits (c : Crew σ τ Q R) (post : κ → α → Prop) (w : World σ τ Q) :
    (elsewhere n : Nat) → List (κ × Seat τ Q R α) → Prop
  | _, _, [] => True
  | elsewhere, n, (k, seat) :: rest => ∃ credit m, credit + m ≤ n ∧
      seat.Fits c (post k) ⟨credit, elsewhere + m, w⟩ ∧ Fits c post w (elsewhere + credit) m rest

variable {post : κ → α → Prop} {w w' : World σ τ Q} {seats : List (κ × Seat τ Q R α)}

theorem Fits.drift {elsewhere elsewhere' told n : Nat} (h : Fits c post w elsewhere n seats)
    (hd : World.Drift c.sur w told w') (hle : elsewhere' + told ≤ elsewhere) :
    Fits c post w' elsewhere' n seats := by
  induction seats generalizing elsewhere elsewhere' n with
  | nil => trivial
  | cons entry rest ih =>
      obtain ⟨k, seat⟩ := entry
      obtain ⟨credit, m, hcredit, hseat, hrest⟩ := h
      refine ⟨credit, m, hcredit, hseat.drift ⟨rfl, told, ?_, hd⟩, ih hrest ?_⟩
      · show elsewhere' + m + told ≤ elsewhere + m
        omega
      · omega

/-- A step of any worker keeps the programs fitting, and is paid for out of what they have together. -/
theorem fits_stepWorker (hprice : c.prices.update = 1) (worker : Nat) {elsewhere n : Nat}
    (h : Fits c post w elsewhere n seats) :
    ∃ n' told, n' + told ≤ n ∧
      World.Drift c.sur w told (stepWorker c.sur flag interrupts worker seats w).2 ∧
      Fits c post (stepWorker c.sur flag interrupts worker seats w).2 elsewhere n'
        (stepWorker c.sur flag interrupts worker seats w).1 := by
  induction seats generalizing worker elsewhere n with
  | nil => exact ⟨n, 0, Nat.le_refl _, .refl, trivial⟩
  | cons entry rest ih =>
      obtain ⟨k, seat⟩ := entry
      obtain ⟨credit, m, hcredit, hseat, hrest⟩ := h
      -- a worker further on takes the step
      have hfurther : ∀ worker', ∃ n' told, n' + told ≤ n ∧
          World.Drift c.sur w told (stepWorker c.sur flag interrupts worker' rest w).2 ∧
          Fits c post (stepWorker c.sur flag interrupts worker' rest w).2 elsewhere n'
            ((k, seat) :: (stepWorker c.sur flag interrupts worker' rest w).1) := by
        intro worker'
        obtain ⟨m', told, hm, hdrift, hfits⟩ := ih worker' hrest
        refine ⟨credit + m', told, by omega, hdrift, credit, m', Nat.le_refl _, ?_, hfits⟩
        refine hseat.drift ⟨rfl, told, ?_, hdrift⟩
        show elsewhere + m' + told ≤ elsewhere + m
        omega
      cases seat with
      | «over» a => exact hfurther worker
      | «open» p =>
          cases worker with
          | succ worker => exact hfurther worker
          | zero =>
              obtain ⟨credit', told, hpaid, hdrift, hfits⟩ :=
                Seat.fits_stepSeat hprice hseat
              have hpaid : credit' + told ≤ credit := hpaid
              exact ⟨credit' + m, told, by omega, hdrift, credit', m, Nat.le_refl _, hfits,
                hrest.drift hdrift (by omega)⟩

theorem fits_move (hprice : c.prices.update = 1) (width : Nat) (m : Move) {n : Nat}
    {p : Pool σ τ Q R κ α} (h : Fits c post p.world 0 n p.seats) :
    ∃ n', Fits c post (move c.sur flag interrupts width p m).world 0 n'
      (move c.sur flag interrupts width p m).seats := by
  cases m with
  | cancel => exact ⟨n, h.drift (.raise .refl .callers) (Nat.le_refl _)⟩
  | interrupt => exact ⟨n, h.drift (.raise .refl flag) (Nat.le_refl _)⟩
  | step worker =>
      by_cases hwidth : worker < width
      · obtain ⟨n', told, _, _, hfits⟩ :=
          fits_stepWorker hprice worker h
        simp only [move, hwidth, if_true]
        exact ⟨n', hfits⟩
      · simp only [move, hwidth, if_false]
        exact ⟨n, h⟩

theorem fits_moves (hprice : c.prices.update = 1) (width : Nat) (moves : List Move) {n : Nat}
    {p : Pool σ τ Q R κ α} (h : Fits c post p.world 0 n p.seats) :
    ∃ n', Fits c post (moves.foldl (move c.sur flag interrupts width) p).world 0 n'
      (moves.foldl (move c.sur flag interrupts width) p).seats := by
  induction moves generalizing p n with
  | nil => exact ⟨n, h⟩
  | cons m moves ih =>
      obtain ⟨n', h'⟩ := fits_move hprice width m h
      exact ih h'

/-! ## Gathering -/

/-- What the programs with these keys cost together. -/
def totalCost (cost : κ → Nat) : List κ → Nat
  | [] => 0
  | k :: keys => cost k + totalCost cost keys

theorem fits_open {cost : κ → Nat} {total : Nat} {programs : List (κ × Program τ Q R α)}
    (h : ∀ e ∈ programs, ∀ others, others + cost e.1 ≤ total →
      e.2.Always c.behaviour (fun a _ => post e.1 a) ⟨cost e.1, others, w⟩) {elsewhere : Nat}
    (htotal : elsewhere + totalCost cost (programs.map Prod.fst) ≤ total) :
    Fits c post w elsewhere (totalCost cost (programs.map Prod.fst))
      (programs.map fun (k, p) => (k, .open p)) := by
  induction programs generalizing elsewhere with
  | nil => trivial
  | cons entry rest ih =>
      obtain ⟨k, p⟩ := entry
      simp only [List.map_cons, totalCost] at htotal ⊢
      refine ⟨cost k, totalCost cost (rest.map Prod.fst), Nat.le_refl _, ?_, ?_⟩
      · exact h (k, p) (List.mem_cons_self ..) _ (by simp only; omega)
      · exact ih (fun e he => h e (List.mem_cons_of_mem _ he)) (by omega)

theorem keys_stepWorker (sur : Surroundings σ τ Q R) (worker : Nat) (seats : List (κ × Seat τ Q R α))
    (w : World σ τ Q) :
    (stepWorker sur flag interrupts worker seats w).1.map Prod.fst = seats.map Prod.fst := by
  induction seats generalizing worker with
  | nil => rfl
  | cons entry rest ih =>
      obtain ⟨k, seat⟩ := entry
      cases seat with
      | «over» a => exact congrArg (k :: ·) (ih worker)
      | «open» p =>
          cases worker with
          | zero => rfl
          | succ worker => exact congrArg (k :: ·) (ih worker)

theorem keys_moves (sur : Surroundings σ τ Q R) (width : Nat) (moves : List Move) (p : Pool σ τ Q R κ α) :
    (moves.foldl (move sur flag interrupts width) p).seats.map Prod.fst = p.seats.map Prod.fst := by
  induction moves generalizing p with
  | nil => rfl
  | cons m moves ih =>
      rw [List.foldl_cons, ih]
      cases m with
      | cancel | interrupt => rfl
      | step worker =>
          by_cases hwidth : worker < width
          · simp only [move, hwidth, if_true]
            exact keys_stepWorker sur worker p.seats p.world
          · simp only [move, hwidth, if_false]

theorem Fits.exists_of_mem {elsewhere n : Nat} (h : Fits c post w elsewhere n seats) {e : κ × Seat τ Q R α}
    (he : e ∈ seats) : ∃ g, e.2.Fits c (post e.1) g := by
  induction seats generalizing elsewhere n with
  | nil => cases he
  | cons entry rest ih =>
      obtain ⟨k, seat⟩ := entry
      obtain ⟨credit, m, -, hseat, hrest⟩ := h
      rcases List.mem_cons.mp he with rfl | he
      · exact ⟨_, hseat⟩
      · exact ih hrest he

/-- Whatever moves are made, a program that is over has come to an end that is as wished. -/
theorem reached_of_moves (hprice : c.prices.update = 1) (cost : κ → Nat) {programs : List (κ × Program τ Q R α)}
    (h : ∀ e ∈ programs, ∀ others, others + cost e.1 ≤ totalCost cost (programs.map Prod.fst) →
      e.2.Always c.behaviour (fun a _ => post e.1 a) ⟨cost e.1, others, w⟩)
    (width : Nat) (moves : List Move) {k : κ} {a : Option α}
    (ha : (k, .over a) ∈ (moves.foldl (move c.sur flag interrupts width)
      ⟨programs.map fun (k, p) => (k, .open p), w⟩).seats) : c.Reached (post k) a := by
  have hfits : Fits c post w 0 _ _ := fits_open h (by omega)
  obtain ⟨n, hmoved⟩ := fits_moves (p := ⟨_, w⟩) hprice width moves hfits
  obtain ⟨g, hover⟩ := hmoved.exists_of_mem ha
  exact Seat.fits_over.mp hover

end Pool

end RepoCensus
