import RepoCensus.Work.Program

/-!
# Work

A program that may end in a fault, and that keeps a record of its attempts and of its task. The record
survives a fault.
-/

namespace RepoCensus

open RepoCensus.Calendar

/-- What a piece of work remembers. -/
structure Session (τ : Type) where
  attempts : Option (Attempts τ)
  task : Option (Task τ)

def Session.start {τ : Type} : Session τ := ⟨none, none⟩

/-- A program with a record that may end in a fault. -/
abbrev Work (τ Q R : Type) := ExceptT (Fault τ) (StateT (Session τ) (Program τ Q R))

namespace Work

variable {τ Q R α : Type}

def act (e : Effect τ Q) : Work τ Q R (e.Answer R) :=
  ExceptT.lift (StateT.lift (Program.act e Program.done))

def stall : Work τ Q R α := ExceptT.lift (StateT.lift Program.stalled)

def start (w : Work τ Q R α) (s : Session τ) : Program τ Q R (Except (Fault τ) α × Session τ) :=
  (ExceptT.run w).run s

def result (w : Work τ Q R α) : Work τ Q R (Except (Fault τ) α) :=
  tryCatch (Except.ok <$> w) fun fault => pure (.error fault)

/-! ## Single steps -/

def clock : Work τ Q R τ := act .clock

def jitter : Work τ Q R τ := act .jitter

def cancelled (f : Flag) : Work τ Q R Bool := act (.cancelled f)

def sleep (s : τ) : Work τ Q R Unit := act (.sleep s)

def wait (f : Flag) (s : τ) : Work τ Q R Unit := act (.wait f s)

def answer (q : Q) : Work τ Q R (Except (Fault τ) R) := act (.ask q)

def ask (q : Q) : Work τ Q R R := do ofExcept (← answer q)

def openBucket (b : Bucket) : Work τ Q R Unit := act (.openBucket b)

def reserve (b : Bucket) (margin : Option Int) : Work τ Q R (Except (Refusal τ) Permit) :=
  act (.reserve b margin)

def update (b : Bucket) (budget : Budget τ) : Work τ Q R (Except Anomaly Unit) :=
  act (.update b budget)

def note (n : Note τ) : Work τ Q R Unit := act (.note n)

def log (level : Level) (text : String) : Work τ Q R Unit := note (.log level text)

/-- Whether a flag is raised; without a flag the work is never stopped. -/
def isStopped : Option Flag → Work τ Q R Bool
  | none => pure false
  | some f => cancelled f

def check (flag : Option Flag) : Work τ Q R Unit := do
  if ← isStopped flag then throw Fault.stopped

/-- Waits for some time, and stops if the flag is raised. -/
def pause [Seconds τ] (f : Flag) (s : τ) : Work τ Q R Unit := do
  if Seconds.zero < s then wait f s
  check (some f)

def sleepWatching [Seconds τ] (flag : Option Flag) (s : τ) : Work τ Q R Unit :=
  match flag with
  | some f => pause f s
  | none => sleep s

/-! ## The record -/

def session : Work τ Q R (Session τ) := get

def setAttempts (a : Attempts τ) : Work τ Q R Unit := do
  modify fun s => { s with attempts := some a }
  note (.attempts a)

def updateAttempts (f : Attempts τ → Attempts τ) : Work τ Q R Unit := do
  match (← session).attempts with
  | some a => setAttempts (f a)
  | none => pure ()

def attemptCount : Work τ Q R Nat := do return ((← session).attempts.map Attempts.count).getD 0

def updateTask (f : Task τ → Task τ) : Work τ Q R Unit := do
  match (← session).task with
  | some t =>
    modify fun s => { s with task := some (f t) }
    note (.task (f t))
  | none => pure ()

def setStage (stage : Stage) : Work τ Q R Unit := updateTask fun t => { t with stage := stage }

end Work

end RepoCensus
