import RepoCensus.World.Basic

/-!
# Reading the journal

What a journal tells about the sleeps, the requests and the log of a run, and how far the work had come
at each sleep and each request.
-/

namespace RepoCensus.Journal

variable {τ Q : Type}

/-- The events of a journal after its first `n`, in order. -/
def after (n : Nat) (journal : List (Event τ Q)) : List (Event τ Q) :=
  (journal.take (journal.length - n)).reverse

def sleeps (events : List (Event τ Q)) : List τ :=
  events.filterMap fun
    | .slept s => some s
    | _ => none

def requests (events : List (Event τ Q)) : List Q :=
  events.filterMap fun
    | .asked q => some q
    | _ => none

/-- The entries of the log from a level on, without what is wrong with the bodies of answers. -/
def entries (least : Level) (events : List (Event τ Q)) : List (Level × String) :=
  events.filterMap fun
    | .noted (.log level text) =>
      if least.number ≤ level.number then some (level, Undecodable.shortened text) else none
    | _ => none

def repetitions (events : List (Event τ Q)) : List (Nat × τ × Fault τ) :=
  events.filterMap fun
    | .noted (.again attempt delay fault) => some (attempt, delay, fault)
    | _ => none

/-- A sleep or a request, with the stage and the number of attempts at that time. -/
structure Mark where
  isRequest : Bool
  stage : Stage
  attempts : Nat
deriving Repr, DecidableEq

/-- The marks of events, given how an event changes stage and number. -/
def marks (change : Event τ Q → Option (Stage × Nat)) :
    Stage × Nat → List (Event τ Q) → List Mark
  | _, [] => []
  | now, e :: rest =>
    let now := (change e).getD now
    match e with
    | .slept _ => ⟨false, now.1, now.2⟩ :: marks change now rest
    | .asked _ => ⟨true, now.1, now.2⟩ :: marks change now rest
    | _ => marks change now rest

/-- The marks of a task that begins with the events. -/
def taskMarks (events : List (Event τ Q)) : List Mark :=
  marks (fun
    | .noted (.task t) => some (t.stage, t.attempts)
    | _ => none) (.pending, 0) events

/-- The marks of attempts that begin with the events. -/
def attemptMarks (events : List (Event τ Q)) : List Mark :=
  marks (fun
    | .noted (.attempts a) => some (a.stage, a.count)
    | _ => none) (.pending, 0) events

end RepoCensus.Journal
