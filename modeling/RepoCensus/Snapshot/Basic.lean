import RepoCensus.Fault.Failure
import RepoCensus.Fetch.Finding
import RepoCensus.Repository

/-!
# Snapshots

What is known of a repository at one time: for each category that was asked for a finding or a failure,
and never both. Snapshots of one repository can be merged, the newer one taking precedence.
-/

namespace RepoCensus

open RepoCensus.Calendar

structure Snapshot (τ : Type) where
  repository : Repository
  results : Category → Option (Finding τ)
  failures : Category → Option (Failure τ)
  fetchedAt : τ

namespace Snapshot

variable {τ : Type}

/-- The categories that satisfy a condition, in the order of their names. -/
def sortedWhere (p : Category → Bool) : List Category := Category.alphabetical.filter p

def overlap (results : Category → Option (Finding τ)) (failures : Category → Option (Failure τ)) :
    List Category :=
  sortedWhere fun c => (results c).isSome && (failures c).isSome

/-- A snapshot, if no category has both a finding and a failure. -/
def make (repository : Repository) (results : Category → Option (Finding τ))
    (failures : Category → Option (Failure τ)) (fetchedAt : τ) : Except Invalid (Snapshot τ) :=
  if (overlap results failures).isEmpty then .ok ⟨repository, results, failures, fetchedAt⟩
  else .error (.overlap (overlap results failures))

def failedCategories (s : Snapshot τ) : List Category := sortedWhere fun c => (s.failures c).isSome

def foundCategories (s : Snapshot τ) : List Category := sortedWhere fun c => (s.results c).isSome

def categories (s : Snapshot τ) : List Category :=
  sortedWhere fun c => (s.results c).isSome || (s.failures c).isSome

def isComplete (s : Snapshot τ) : Bool := s.failedCategories.isEmpty

/-- The results after a merge: those of the newer snapshot, and those of the older one for categories
that did not fail since. -/
def mergedResults (old new : Snapshot τ) (c : Category) : Option (Finding τ) :=
  (new.results c).or (if (new.failures c).isSome then none else old.results c)

/-- The failures after a merge: those of the newer snapshot, and those of the older one for categories
that did not succeed since. -/
def mergedFailures (old new : Snapshot τ) (c : Category) : Option (Failure τ) :=
  (new.failures c).or (if (new.results c).isSome then none else old.failures c)

/-- Merges a newer snapshot of the same repository into an older one. -/
def merge (old new : Snapshot τ) : Except Invalid (Snapshot τ) :=
  if new.repository = old.repository then
    make old.repository (old.mergedResults new) (old.mergedFailures new) new.fetchedAt
  else .error (.differentRepositories old.repository.fullName new.repository.fullName)

end Snapshot

end RepoCensus
