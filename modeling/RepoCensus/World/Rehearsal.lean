import RepoCensus.Client.CookieJar
import RepoCensus.Text.Entries
import RepoCensus.World.Basic

/-!
# Rehearsals

Surroundings that follow a script: a clock that only sleeping and serving move, numbers for the random
parts of waits in a fixed order, and prepared answers.
-/

namespace RepoCensus

open RepoCensus.Calendar

structure Cue (τ R : Type) where
  answer : Except (Fault τ) R
  elapsed : τ
  /-- Whether the caller's flag is raised meanwhile. -/
  cancels : Bool

structure Rehearsal (τ R : Type) where
  now : τ
  /-- The numbers for random parts, and those of them that are still to come. -/
  jitters : List τ
  coming : List τ
  sleepScale : τ
  cancelled : Bool
  /-- The sleep and the request, counted from one, during which the caller's flag is raised. -/
  cancelAtSleep : Option Nat
  cancelAtRequest : Option Nat
  sleeps : Nat
  requests : Nat
  /-- The prepared answers by the key of a request; the last one is repeated. -/
  cues : List (String × List (Cue τ R))
  /-- The requests that the client has put on the network, the latest one first, and the cookies that it keeps. -/
  sent : List Request := []
  cookies : CookieJar := .empty

namespace Rehearsal

variable {τ Q R : Type} [Seconds τ]

/-- Draws a number; after the last one the first comes again. -/
def draw (r : Rehearsal τ R) : τ × Rehearsal τ R :=
  match r.coming with
  | u :: rest => (u, { r with coming := rest })
  | [] =>
    match r.jitters with
    | u :: rest => (u, { r with coming := rest })
    | [] => (Seconds.zero, r)

def elapse (r : Rehearsal τ R) (s : τ) : Rehearsal τ R := { r with now := r.now + s }

def cancel (r : Rehearsal τ R) : Rehearsal τ R := { r with cancelled := true }

/-- Raises the caller's flag if a number has come up. -/
def cancelIf (r : Rehearsal τ R) (at? : Option Nat) (count : Nat) : Rehearsal τ R :=
  if at? = some count then r.cancel else r

def sleep (s : τ) (r : Rehearsal τ R) : Rehearsal τ R :=
  let r := { r with sleeps := r.sleeps + 1 }
  (r.cancelIf r.cancelAtSleep r.sleeps).elapse (s * r.sleepScale)

def next? (r : Rehearsal τ R) (key : String) : Option (Cue τ R × Rehearsal τ R) :=
  match Entries.get? key r.cues with
  | some (cue :: c :: rest) => some (cue, { r with cues := Entries.put key (c :: rest) r.cues })
  | some [cue] => some (cue, r)
  | _ => none

/-- Serves a request: the next prepared answer for its key, or else what `otherwise` says, which also
knows how many requests there were. -/
def serve (key : Q → String) (otherwise : Q → Nat → Except (Fault τ) R) (q : Q)
    (r : Rehearsal τ R) : Except (Fault τ) R × Rehearsal τ R :=
  let r := { r with requests := r.requests + 1 }
  let r := r.cancelIf r.cancelAtRequest r.requests
  match r.next? (key q) with
  | some (cue, r) =>
    let r := r.elapse cue.elapsed
    (cue.answer, if cue.cancels then r.cancel else r)
  | none => (otherwise q r.requests, r)

def surroundings (key : Q → String) (otherwise : Q → Nat → Except (Fault τ) R) :
    Surroundings (Rehearsal τ R) τ Q R where
  clock := fun r => (r.now, r)
  jitter := draw
  cancelled := fun r => r.cancelled
  sleep := sleep
  serve := serve key otherwise
  cancel := cancel

end Rehearsal

end RepoCensus
