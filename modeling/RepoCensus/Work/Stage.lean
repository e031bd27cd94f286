import RepoCensus.Fault.Failure

/-!
# Stages of work

How far the fetch of a category and the attempts at one request have come.
-/

namespace RepoCensus

/-- How far a piece of work has come. -/
inductive Stage where
  | pending
  | inProgress
  | retrying
  | succeeded
  | failed
deriving Repr, DecidableEq

namespace Stage

def name : Stage → String
  | pending => "pending"
  | inProgress => "in_progress"
  | retrying => "retrying"
  | succeeded => "succeeded"
  | failed => "failed"

def isDone : Stage → Bool
  | succeeded | failed => true
  | _ => false

end Stage

structure Attempts (τ : Type) where
  stage : Stage
  count : Nat
  /-- The waits that were worked out, without their random part. -/
  baseDelays : List τ
  delays : List τ
  lastFault : Option (Fault τ)
deriving Repr

def Attempts.start {τ : Type} : Attempts τ := ⟨.pending, 0, [], [], none⟩

structure Task (τ : Type) where
  category : Category
  stage : Stage
  attempts : Nat
  failure : Option (Failure τ)
deriving Repr

namespace Task

variable {τ : Type}

def start (category : Category) : Task τ := ⟨category, .pending, 0, none⟩

def isDone (t : Task τ) : Bool := t.stage.isDone

def fail (t : Task τ) (f : Failure τ) : Task τ := { t with stage := .failed, failure := some f }

end Task

end RepoCensus
