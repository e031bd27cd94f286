import RepoCensus.Budget.Tracker
import RepoCensus.Digest.Sha256

/-!
# All budgets

The trackers of all credentials and resources; all requests of one bucket share its tracker. A credential itself is
not kept: a digest stands for it.
-/

namespace RepoCensus

open RepoCensus.Digest

def anonymousKey : String := "anonymous"

/-- The key of a credential: the first sixteen digits of its digest. -/
def credentialKey : Option String → String
  | none => anonymousKey
  | some token =>
    if token = "" then anonymousKey
    else String.ofList ((hexText token.toUTF8.toList).take 16)

/-- A bucket: the key of a credential and the name of a resource. -/
structure Bucket where
  credential : String
  resource : String
deriving Repr, DecidableEq

def Bucket.of (token : Option String) (resource : String) : Bucket := ⟨credentialKey token, resource⟩

structure Registry (τ : Type) where
  /-- The safety margin of the trackers that are made. -/
  safetyMargin : Int
  trackers : List (Bucket × Tracker τ)
  made : Nat

namespace Registry

variable {τ : Type}

def empty (safetyMargin : Int) : Registry τ := ⟨safetyMargin, [], 0⟩

def get? (r : Registry τ) (b : Bucket) : Option (Tracker τ) :=
  (r.trackers.find? fun e => e.1 = b).map Prod.snd

def set (r : Registry τ) (b : Bucket) (t : Tracker τ) : Registry τ :=
  { r with trackers := r.trackers.map fun e => if e.1 = b then (b, t) else e }

/-- The tracker of a bucket, which is made when it is asked for first. -/
def tracker (r : Registry τ) (b : Bucket) : Tracker τ × Registry τ :=
  match r.get? b with
  | some t => (t, r)
  | none =>
    let t := Tracker.fresh b.resource r.safetyMargin r.made
    (t, { r with trackers := r.trackers ++ [(b, t)], made := r.made + 1 })

def clear (r : Registry τ) : Registry τ := { r with trackers := [] }

end Registry

end RepoCensus
