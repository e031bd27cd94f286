import RepoCensus.Http.Message
import RepoCensus.Work.Basic

/-!
# The world of a program

What answers the steps of a program: the surroundings, which tell the time, sleep and serve requests, and the
registry of budgets. The world keeps a journal of what happened.
-/

namespace RepoCensus

open RepoCensus.Calendar

/-- What lies outside of a program; its state is of type `σ`. -/
structure Surroundings (σ τ Q R : Type) where
  clock : σ → τ × σ
  /-- Draws a number for the random part of a wait. -/
  jitter : σ → τ × σ
  cancelled : σ → Bool
  sleep : τ → σ → σ
  serve : Q → σ → Except (Fault τ) R × σ
  cancel : σ → σ
  /-- Makes a client, if its headers are such as can be sent. -/
  connect : Client → σ → Except Anomaly σ := fun _ outside => .ok outside

inductive Event (τ Q : Type) where
  | slept (s : τ)
  | asked (q : Q)
  | granted (b : Bucket)
  | noted (n : Note τ)

structure World (σ τ Q : Type) where
  outside : σ
  registry : Registry τ
  ownFlag : Bool
  journal : List (Event τ Q)

namespace World

variable {σ τ Q R α : Type}

def start (outside : σ) (registry : Registry τ) : World σ τ Q := ⟨outside, registry, false, []⟩

def record (w : World σ τ Q) (e : Event τ Q) : World σ τ Q := { w with journal := e :: w.journal }

def withOutside (w : World σ τ Q) (outside : σ) : World σ τ Q := { w with outside := outside }

/-- The world with a client for its requests, if there can be one. -/
def connect (sur : Surroundings σ τ Q R) (client : Client) (w : World σ τ Q) : Except Anomaly (World σ τ Q) :=
  (sur.connect client w.outside).map w.withOutside

def isRaised (sur : Surroundings σ τ Q R) (w : World σ τ Q) : Flag → Bool
  | .callers => sur.cancelled w.outside
  | .own => w.ownFlag

def raiseFlag (sur : Surroundings σ τ Q R) (w : World σ τ Q) : Flag → World σ τ Q
  | .callers => w.withOutside (sur.cancel w.outside)
  | .own => { w with ownFlag := true }

def sleep (sur : Surroundings σ τ Q R) (w : World σ τ Q) (s : τ) : World σ τ Q :=
  (w.record (.slept s)).withOutside (sur.sleep s w.outside)

def log (w : World σ τ Q) (level : Level) (text : String) : World σ τ Q :=
  w.record (.noted (.log level text))

variable [Seconds τ]

/-- Asks a bucket's tracker for a permit. The clock is looked at only if a budget is known. -/
def reserve (sur : Surroundings σ τ Q R) (w : World σ τ Q) (b : Bucket) (margin : Option Int) :
    Except (Refusal τ) Permit × World σ τ Q :=
  let (t, registry) := w.registry.tracker b
  let w := { w with registry := registry }
  let (now, w) :=
    if t.budget.isNone then (Seconds.zero, w)
    else
      let (now, outside) := sur.clock w.outside
      (now, w.withOutside outside)
  let w := if t.rollsOver now margin then w.log .debug t.rollOverNote else w
  match t.reserve now margin with
  | (.ok permit, t) =>
    (.ok permit, { w with registry := w.registry.set b t }.record (.granted b))
  | (.error refusal, t) => (.error refusal, { w with registry := w.registry.set b t })

/-- Passes a budget on to a bucket's tracker, with a warning if it is low. -/
def update (w : World σ τ Q) (b : Bucket) (budget : Budget τ) :
    Except Anomaly Unit × World σ τ Q :=
  let (t, registry) := w.registry.tracker b
  let w := { w with registry := registry.set b (t.update budget) }
  match t.lowWarning budget with
  | .ok (some text) => (.ok (), w.log .warning text)
  | .ok none => (.ok (), w)
  | .error why => (.error why, w)

/-- One step of a program in a world. A sleep always comes to an end: what the system says to a sleep of less than
nothing, or of more than it can count, is not told here. -/
def perform (sur : Surroundings σ τ Q R) (w : World σ τ Q) :
    (e : Effect τ Q) → e.Answer R × World σ τ Q
  | .clock =>
    let (now, outside) := sur.clock w.outside
    (now, w.withOutside outside)
  | .jitter =>
    let (u, outside) := sur.jitter w.outside
    (u, w.withOutside outside)
  | .cancelled f => (w.isRaised sur f, w)
  | .sleep s => ((), w.sleep sur s)
  | .wait f s => ((), if w.isRaised sur f then w else w.sleep sur s)
  | .ask q =>
    let (answer, outside) := sur.serve q w.outside
    (answer, (w.record (.asked q)).withOutside outside)
  | .openBucket b => ((), { w with registry := (w.registry.tracker b).2 })
  | .reserve b margin => w.reserve sur b margin
  | .update b budget => w.update b budget
  | .note n => ((), w.record (.noted n))

end World

/-- Runs a program in a world. A program that stalls has no result. -/
def Program.run {σ τ Q R α : Type} [Seconds τ] (sur : Surroundings σ τ Q R) :
    Program τ Q R α → World σ τ Q → Option α × World σ τ Q
  | done a, w => (some a, w)
  | stalled, w => (none, w)
  | act e next, w =>
    let (answer, w) := w.perform sur e
    (next answer).run sur w

def Work.run {σ τ Q R α : Type} [Seconds τ] (sur : Surroundings σ τ Q R) (work : Work τ Q R α)
    (s : Session τ) (w : World σ τ Q) :
    Option (Except (Fault τ) α × Session τ) × World σ τ Q :=
  (work.start s).run sur w

end RepoCensus
