import RepoCensus.World.Basic

/-!
# Workers

A pool runs programs with a number of workers. Each worker takes the first program that nobody has
begun; the workers take their steps in any order. A program that ends with an interruption raises the flag for the
others, and so does an interruption of the one who waits for them.
-/

namespace RepoCensus

open RepoCensus.Calendar

/-- A program in a pool: what is left of it, or its result if it ran to its end. -/
inductive Seat (τ Q R α : Type) where
  | open (p : Program τ Q R α)
  | over (a : Option α)

/-- A pool: the programs in the order in which they are taken, each with a key. -/
structure Pool (σ τ Q R κ α : Type) where
  seats : List (κ × Seat τ Q R α)
  world : World σ τ Q

inductive Move where
  | step (worker : Nat)
  | cancel
  /-- Whoever waits for the workers is interrupted. They go on to their ends. -/
  | interrupt
deriving Repr, DecidableEq

namespace Pool

variable {σ τ Q R κ α : Type} [Seconds τ]

/-- One step of a program. A result for which `interrupts` holds raises the flag. -/
def stepSeat (sur : Surroundings σ τ Q R) (flag : Flag) (interrupts : α → Bool) :
    Seat τ Q R α → World σ τ Q → Seat τ Q R α × World σ τ Q
  | .open (.done a), w => (.over (some a), if interrupts a then w.raiseFlag sur flag else w)
  | .open .stalled, w => (.over none, w)
  | .open (.act e next), w =>
    let (answer, w) := w.perform sur e
    (.open (next answer), w)
  | .over a, w => (.over a, w)

/-- A step of the worker with a number: the programs that are over are passed by, and the next ones
have a worker each. -/
def stepWorker (sur : Surroundings σ τ Q R) (flag : Flag) (interrupts : α → Bool) :
    Nat → List (κ × Seat τ Q R α) → World σ τ Q → List (κ × Seat τ Q R α) × World σ τ Q
  | _, [], w => ([], w)
  | n, (k, .over a) :: rest, w =>
    let (rest, w) := stepWorker sur flag interrupts n rest w
    ((k, .over a) :: rest, w)
  | 0, (k, seat) :: rest, w =>
    let (seat, w) := stepSeat sur flag interrupts seat w
    ((k, seat) :: rest, w)
  | n + 1, seat :: rest, w =>
    let (rest, w) := stepWorker sur flag interrupts n rest w
    (seat :: rest, w)

/-- One move of a pool with so many workers; there is no worker beyond their number. -/
def move (sur : Surroundings σ τ Q R) (flag : Flag) (interrupts : α → Bool) (width : Nat)
    (p : Pool σ τ Q R κ α) : Move → Pool σ τ Q R κ α
  | .step worker =>
    if worker < width then
      let (seats, world) := stepWorker sur flag interrupts worker p.seats p.world
      ⟨seats, world⟩
    else p
  | .cancel => { p with world := p.world.raiseFlag sur .callers }
  | .interrupt => { p with world := p.world.raiseFlag sur flag }

def finishSeat (sur : Surroundings σ τ Q R) (flag : Flag) (interrupts : α → Bool) :
    Seat τ Q R α → World σ τ Q → Option α × World σ τ Q
  | .over a, w => (a, w)
  | .open p, w =>
    let (a, w) := p.run sur w
    (a, if a.any interrupts then w.raiseFlag sur flag else w)

/-- Runs all programs to their ends, one after another. -/
def finishAll (sur : Surroundings σ τ Q R) (flag : Flag) (interrupts : α → Bool) :
    List (κ × Seat τ Q R α) → World σ τ Q → List (κ × Option α) × World σ τ Q
  | [], w => ([], w)
  | (k, seat) :: rest, w =>
    let (a, w) := finishSeat sur flag interrupts seat w
    let (results, w) := finishAll sur flag interrupts rest w
    ((k, a) :: results, w)

/-- Runs programs with so many workers: first the moves that are given, then one program after
another. -/
def gather (sur : Surroundings σ τ Q R) (flag : Flag) (interrupts : α → Bool) (width : Nat)
    (moves : List Move) (programs : List (κ × Program τ Q R α)) (w : World σ τ Q) :
    List (κ × Option α) × World σ τ Q :=
  let start : Pool σ τ Q R κ α := ⟨programs.map fun (k, p) => (k, .open p), w⟩
  let p := moves.foldl (move sur flag interrupts width) start
  finishAll sur flag interrupts p.seats p.world

end Pool

end RepoCensus
