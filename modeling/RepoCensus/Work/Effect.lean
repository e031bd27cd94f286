import RepoCensus.Budget.Registry
import RepoCensus.Work.Stage

/-!
# Effects

What a piece of work does to its surroundings, one step at a time, and what it learns from each step.
-/

namespace RepoCensus

/-- How important an entry of the log is. -/
inductive Level where
  | debug
  | info
  | warning
  | error
  | critical
deriving Repr, DecidableEq

namespace Level

def name : Level → String
  | debug => "DEBUG"
  | info => "INFO"
  | warning => "WARNING"
  | error => "ERROR"
  | critical => "CRITICAL"

/-- The number of a level; a log that is set to a number shows the levels from it on. -/
def number : Level → Nat
  | debug => 10
  | info => 20
  | warning => 30
  | error => 40
  | critical => 50

def all : List Level := [debug, info, warning, error, critical]

end Level

inductive Note (τ : Type) where
  | log (level : Level) (text : String)
  | task (t : Task τ)
  | attempts (a : Attempts τ)
  | again (attempt : Nat) (delay : τ) (fault : Fault τ)
deriving Repr

/-- Whose flag tells that the work is to stop. -/
inductive Flag where
  | callers
  | own
deriving Repr, DecidableEq

/-- One step of a piece of work. Requests are of type `Q`. -/
inductive Effect (τ Q : Type) where
  | clock
  /-- Draws a number for the random part of a wait. -/
  | jitter
  | cancelled (f : Flag)
  | sleep (s : τ)
  | wait (f : Flag) (s : τ)
  | ask (q : Q)
  | openBucket (b : Bucket)
  | reserve (b : Bucket) (margin : Option Int)
  | update (b : Bucket) (budget : Budget τ)
  | note (n : Note τ)

/-- What is learned from a step. Answers to requests are of type `R`. -/
def Effect.Answer {τ Q : Type} (R : Type) : Effect τ Q → Type
  | clock => τ
  | jitter => τ
  | cancelled _ => Bool
  | sleep _ => Unit
  | wait _ _ => Unit
  | ask _ => Except (Fault τ) R
  | openBucket _ => Unit
  | reserve _ _ => Except (Refusal τ) Permit
  | update _ _ => Except Anomaly Unit
  | note _ => Unit

end RepoCensus
