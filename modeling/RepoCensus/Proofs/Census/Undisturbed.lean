import RepoCensus.Census.Pool
import RepoCensus.Proofs.World.Shown

/-!
# Undisturbed pools

Programs that share a world which keeps answering each of them as foreseen all come to the ends that were
foreseen, in whatever order they take their steps.
-/

namespace RepoCensus

open RepoCensus.Calendar

variable {σ τ Q R κ α : Type} [Seconds τ]

/-! ## Pools -/

section

variable {sur : Surroundings σ τ Q R} {c : Conduct τ Q R Unit} {flag : Flag} {I : World σ τ Q → Prop}
  {interrupts : α → Bool}

/-- What is left of a program always ends as foreseen; its result, if it is over, is as foreseen. -/
def Seat.Heads (c : Conduct τ Q R Unit) (flag : Flag) (post : α → Prop) : Seat τ Q R α → Prop
  | .open p => p.Always (c.behaviour (some flag)) (fun a _ => post a) ()
  | .over a => ∃ b, a = some b ∧ post b

variable (hshown : c.Shown sur (some flag) (fun _ _ => True) fun w _ => I w)

include hshown

namespace Seat

variable {post : α → Prop} (hpost : ∀ a, post a → interrupts a = false) {seat : Seat τ Q R α} {w : World σ τ Q}

include hpost

theorem heads_stepSeat (h : seat.Heads c flag post) (hw : I w) :
    (Pool.stepSeat sur flag interrupts seat w).1.Heads c flag post ∧
      I (Pool.stepSeat sur flag interrupts seat w).2 := by
  cases seat with
  | «over» a => exact ⟨h, hw⟩
  | «open» p =>
      cases p with
      | done a =>
          have ha : post a := h
          refine ⟨⟨a, rfl, ha⟩, ?_⟩
          simpa [Pool.stepSeat, hpost a ha] using hw
      | stalled => exact h.elim
      | act e next =>
          obtain ⟨_, hnext, hw'⟩ := hshown.perform h hw trivial
          exact ⟨hnext, hw'⟩

end Seat

namespace Pool

variable {post : κ → α → Prop} (hpost : ∀ k a, post k a → interrupts a = false) {w : World σ τ Q}

include hpost

theorem heads_stepWorker {seats : List (κ × Seat τ Q R α)} (worker : Nat)
    (h : ∀ e ∈ seats, e.2.Heads c flag (post e.1)) (hw : I w) :
    (∀ e ∈ (stepWorker sur flag interrupts worker seats w).1, e.2.Heads c flag (post e.1)) ∧
      I (stepWorker sur flag interrupts worker seats w).2 := by
  induction seats generalizing worker with
  | nil => exact ⟨h, hw⟩
  | cons entry rest ih =>
      obtain ⟨k, seat⟩ := entry
      obtain ⟨hseat, hrest⟩ := List.forall_mem_cons.mp h
      -- a worker further on takes the step
      have hfurther : ∀ worker',
          (∀ e ∈ (k, seat) :: (stepWorker sur flag interrupts worker' rest w).1, e.2.Heads c flag (post e.1)) ∧
            I (stepWorker sur flag interrupts worker' rest w).2 := by
        intro worker'
        obtain ⟨hrest', hw'⟩ := ih worker' hrest
        exact ⟨List.forall_mem_cons.mpr ⟨hseat, hrest'⟩, hw'⟩
      cases seat with
      | «over» a => exact hfurther worker
      | «open» p =>
          cases worker with
          | succ worker => exact hfurther worker
          | zero =>
              obtain ⟨hseat', hw'⟩ := Seat.heads_stepSeat hshown (hpost k) hseat hw
              exact ⟨List.forall_mem_cons.mpr ⟨hseat', hrest⟩, hw'⟩

theorem heads_moves (width : Nat) {moves : List Move} (hcancel : Move.cancel ∉ moves)
    (hinterrupt : Move.interrupt ∉ moves) {p : Pool σ τ Q R κ α}
    (h : ∀ e ∈ p.seats, e.2.Heads c flag (post e.1)) (hw : I p.world) :
    (∀ e ∈ (moves.foldl (move sur flag interrupts width) p).seats, e.2.Heads c flag (post e.1)) ∧
      I (moves.foldl (move sur flag interrupts width) p).world := by
  induction moves generalizing p with
  | nil => exact ⟨h, hw⟩
  | cons m moves ih =>
      obtain ⟨hm, hcancel'⟩ := not_or.mp fun h => hcancel (List.mem_cons.mpr h)
      obtain ⟨hm', hinterrupt'⟩ := not_or.mp fun h => hinterrupt (List.mem_cons.mpr h)
      cases m with
      | cancel => exact absurd rfl hm
      | interrupt => exact absurd rfl hm'
      | step worker =>
          rw [List.foldl_cons]
          by_cases hwidth : worker < width
          · obtain ⟨h', hw'⟩ := heads_stepWorker hshown hpost worker h hw
            refine ih hcancel' hinterrupt' ?_ ?_
            · simpa only [move, hwidth, if_true] using h'
            · simpa only [move, hwidth, if_true] using hw'
          · refine ih hcancel' hinterrupt' ?_ ?_
            · simpa only [move, hwidth, if_false] using h
            · simpa only [move, hwidth, if_false] using hw

end Pool

end

end RepoCensus
