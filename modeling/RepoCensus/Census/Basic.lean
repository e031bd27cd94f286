import RepoCensus.Census.Pool
import RepoCensus.Fetch.Basic
import RepoCensus.Snapshot.Basic

/-!
# Taking a snapshot

All categories are fetched by a number of workers. A category that fails does not keep the others from
being fetched: each of them ends up among the results or among the failures.
-/

namespace RepoCensus

open RepoCensus.Calendar

abbrev Outcome (τ : Type) := Except (Failure τ) (Finding τ)

/-- How the work of one worker on a category ended, with its record. -/
abbrev TaskEnd (τ : Type) := Except (Fault τ) (Outcome τ) × Session τ

/-- The surroundings of a census: requests go to the service. -/
abbrev Service (σ τ : Type) := Surroundings σ τ Request Reply

abbrev ServiceWorld (σ τ : Type) := World σ τ Request

structure Inquiry (τ : Type) where
  fetcher : Fetcher τ
  flag : Flag
  repository : Repository
  categories : List Category
  /-- How many workers there may be, if it is not what the options say. -/
  concurrency : Option (Given Amount)
  previous : Option (Snapshot τ)

/-- The result of an inquiry: a snapshot or a fault, and how far each category came. -/
structure Report (τ : Type) where
  outcome : Except (Fault τ) (Snapshot τ)
  tasks : List (Category × Task τ)

namespace Census

variable {σ τ : Type} [Seconds τ]

open Work

/-! ## One category -/

/-- The work on a category. When the flag is raised before it begins nothing is requested; a fault
that was not to be expected counts as a failure of the transport. A failure that the service itself tells
is handed on as it is, and the task does not hear of it. -/
def runTask (fetcher : Fetcher τ) (flag : Flag) (r : Repository) (category : Category)
    (earlier : Option (Finding τ)) : Fetch τ (Outcome τ) := do
  if ← cancelled flag then
    let failure : Failure τ := ⟨category, .cancelled, none, 0⟩
    updateTask fun t => t.fail failure
    return .error failure
  else
    match ← result ({ fetcher with flag := some flag }.fetch r category earlier) with
    | .ok outcome => return outcome
    | .error (.failed category reason cause attempts) => return .error ⟨category, reason, cause, attempts⟩
    | .error fault =>
      if fault.isOrdinary then
        log .error ("Unexpected error fetching " ++ category.name)
        let attempts := ((← session).task.map Task.attempts).getD 0
        let failure : Failure τ := ⟨category, .transport, some fault, attempts⟩
        updateTask fun t => t.fail failure
        return .error failure
      else throw fault

def taskProgram (i : Inquiry τ) (previous : Option (Snapshot τ)) (category : Category) :
    Program τ Request Reply (TaskEnd τ) :=
  (runTask i.fetcher i.flag i.repository category (previous.bind fun s => s.results category)).start
    ⟨none, some (.start category)⟩

/-! ## Joining the outcomes -/

def interrupts (e : TaskEnd τ) : Bool :=
  match e.1 with
  | .error _ => true
  | .ok _ => false

def results (ends : List (Category × Option (TaskEnd τ))) (c : Category) : Option (Finding τ) :=
  ends.findSome? fun
    | (d, some (.ok (.ok finding), _)) => if d = c then some finding else none
    | _ => none

def failures (ends : List (Category × Option (TaskEnd τ))) (c : Category) : Option (Failure τ) :=
  ends.findSome? fun
    | (d, some (.ok (.error failure), _)) => if d = c then some failure else none
    | _ => none

/-- The first fault among the ends; a worker that stalled counts as one. -/
def firstFault (ends : List (Category × Option (TaskEnd τ))) : Option (Fault τ) :=
  ends.findSome? fun
    | (_, some (.error fault, _)) => some fault
    | (_, none) => some (.unexpected "A worker stalled")
    | _ => none

def tasks (ends : List (Category × Option (TaskEnd τ))) : List (Category × Task τ) :=
  ends.map fun (c, e) => (c, (e.bind fun e => e.2.task).getD (.start c))

def closingNote (s : Snapshot τ) : Level × String :=
  let name := s.repository.fullName
  if s.isComplete then
    let n := s.foundCategories.length
    (.info, s!"Snapshot of {name} complete ({n} categories)")
  else
    (.warning, s!"Snapshot of {name} partially failed: " ++
      ", ".intercalate (s.failedCategories.map Category.name))

/-- An earlier snapshot that can be compared with: one of the same repository. -/
def comparable (i : Inquiry τ) (w : ServiceWorld σ τ) : Option (Snapshot τ) × ServiceWorld σ τ :=
  match i.previous with
  | none => (none, w)
  | some s =>
    if s.repository = i.repository then (some s, w)
    else
      (none, w.log .warning ("Ignoring previous snapshot of " ++ s.repository.fullName ++ " for " ++
        i.repository.fullName))

def close (sur : Service σ τ) (i : Inquiry τ) (ends : List (Category × Option (TaskEnd τ)))
    (w : ServiceWorld σ τ) : Report τ × ServiceWorld σ τ :=
  match firstFault ends with
  | some fault => (⟨.error fault, tasks ends⟩, w)
  | none =>
    let (now, outside) := sur.clock w.outside
    let w := w.withOutside outside
    match Snapshot.make i.repository (results ends) (failures ends) now with
    | .error why => (⟨.error (.invalid why), tasks ends⟩, w)
    | .ok s =>
      let (level, text) := closingNote s
      (⟨.ok s, tasks ends⟩, w.log level text)

/-- The number of workers that an inquiry asks for. -/
def width (i : Inquiry τ) : Except (Fault τ) Amount :=
  Amount.atLeast "concurrency" 1 (i.concurrency.getD (.ok i.fetcher.options.concurrency))

/-- The lesser of the number of workers that is asked for and the number of categories. -/
def workers (width : Amount) (count : Nat) : Amount :=
  if width.isAtMost count then width else .number count

/-- What comes of the ends of the workers, unless whoever waited for them was interrupted. -/
def conclude (sur : Service σ τ) (moves : List Move) (i : Inquiry τ) (ends : List (Category × Option (TaskEnd τ)))
    (w : ServiceWorld σ τ) : Report τ × ServiceWorld σ τ :=
  if .interrupt ∈ moves then (⟨.error (.interrupt ""), tasks ends⟩, w) else close sur i ends w

/-- Takes a snapshot. The workers first make the given moves; what is left is done one category after
another. -/
def take (sur : Service σ τ) (moves : List Move) (i : Inquiry τ) (w : ServiceWorld σ τ) :
    Report τ × ServiceWorld σ τ :=
  match width i with
  | .error fault => (⟨.error fault, []⟩, w)
  | .ok width =>
    let (previous, w) := comparable i w
    let requested := Category.distinct i.categories
    if requested.isEmpty then
      let (now, outside) := sur.clock w.outside
      (⟨.ok ⟨i.repository, fun _ => none, fun _ => none, now⟩, []⟩, w.withOutside outside)
    else
      let count := requested.length
      let workers := workers width count
      let w := w.log .info (s!"Fetching {count} categories for " ++ i.repository.fullName ++
        " with " ++ workers.text ++ " workers")
      let programs := requested.map fun c => (c, taskProgram i previous c)
      let (ends, w) :=
        Pool.gather sur i.flag interrupts workers.ceiling.toNat moves programs w
      conclude sur moves i ends w

end Census

end RepoCensus
