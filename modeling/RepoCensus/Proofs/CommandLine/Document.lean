import RepoCensus.CommandLine.Basic
import RepoCensus.Proofs.Census.Interrupted
import RepoCensus.Proofs.Census.Retrying
import RepoCensus.Proofs.Snapshot.Document

/-!
# What a command puts out

A command is sound if its repository, its categories and its numbers make sense and there can be a client with its
credential. Main statement: a command that asks for a document puts out exactly one if it is sound and nobody interrupts
it; the document accounts for the categories that were requested, and the exit code tells whether one of them failed. A
command that is not sound puts out nothing, and the code of one that is interrupted is 130, whenever that happens.
-/

namespace RepoCensus

open RepoCensus.Calendar

/-! ## Repositories -/

namespace Category

end Category

namespace CommandLine

variable {c : Command} {cs : List Category}

variable {σ τ : Type} [Seconds τ] {env : Environment} {patience room : Nat} {r : Repository}

/-- The numbers of a command are ones that options may have. -/
structure Command.HasSoundNumbers (c : Command) : Prop where
  concurrency : 1 ≤ c.concurrency
  maxRetries : 1 ≤ c.maxRetries
  pageCeiling : 1 ≤ c.pageCeiling
  maxPages : ∀ n, c.maxPages = some n → 1 ≤ n

/-- The credential of a command, or else that of the environment. -/
def Command.credential (env : Environment) (c : Command) : Option String := (filled c.token).or (filled env.token)

/-- The client of a command. -/
def Command.client (env : Environment) (c : Command) : Client := ⟨Transport.headers .usual (c.credential env), true⟩

/-- A command that can be carried out: it names a repository and categories, its numbers make sense, and there can be a
client with its credential. -/
structure Command.IsSound (sur : Service σ τ) (env : Environment) (w : ServiceWorld σ τ) (c : Command) (r : Repository)
    (cs : List Category) : Prop where
  repository : Repository.parse c.repo = .ok r
  categories : requested c = .ok cs
  numbers : c.HasSoundNumbers
  client : ∃ outside, sur.connect (c.client env) w.outside = .ok outside

/-- The usual options with the numbers of a command. -/
def Command.options (c : Command) : Options τ :=
  { Options.usual with
    concurrency := .number c.concurrency
    maxRetries := .number c.maxRetries
    pageCeiling := .number c.pageCeiling
    maxPages := c.maxPages.map .number }

/-- The fetcher of a command, over some transport. -/
def Command.fetcher (env : Environment) (patience room : Nat) (c : Command) (t : Transport) : Fetcher τ where
  transport := t
  token := c.credential env
  baseUrl := Text.dropTrailing '/' ((filled env.url).getD usualUrl)
  options := c.options
  conventions := .usual
  flag := none
  patience := patience
  room := room

/-- What a command asks for. -/
def Command.inquiry (env : Environment) (patience room : Nat) (c : Command) (r : Repository) (cs : List Category)
    (t : Transport) : Inquiry τ where
  fetcher := c.fetcher env patience room t
  flag := .own
  repository := r
  categories := cs
  concurrency := none
  previous := none

variable {sur : Service σ τ} {moves : List Move} {halt : Option Halt} {w w₁ : ServiceWorld σ τ} {fault : Fault τ}
  {s : Snapshot τ} {t : Transport}

/-- A command that puts out no document, and tells why on one line. -/
structure Result.Refuses (x : Result τ) (code : Nat) : Prop where
  document : x.document = some ""
  exitCode : x.exitCode = code
  shown : ∃ text, x.shown = [errorLine text]

/-- A command that puts out one document, and nothing else but perhaps lines that tell of errors. -/
structure Result.PutsOut (x : Result τ) (document : Json) (code : Nat) : Prop where
  document : x.document = some (document.pretty ++ "\n")
  exitCode : x.exitCode = code
  shown : ∀ line ∈ x.shown, ∃ text, line = errorLine text

section

variable {count : Nat} {connection : Option (Connection τ)}

variable (hjson : c.output = .json)

include hjson

variable (hhalt : halt ≠ some .atStart) (htarget : target c = .ok (r, cs))

include hhalt htarget

end

/-! ## Unsound commands -/

open Census

/-- What a command yields whose census makes these moves until all work is over. -/
structure Yields (sur : Service σ τ) (i : Inquiry τ) (most : Amount) (w : ServiceWorld σ τ) (course : List Move)
    (halt : Option Halt) (outcome : Except (Fault τ) (Snapshot τ)) (x : Result τ) : Prop where
  ended : ∀ e ∈ (standing sur i most w course).seats, ∃ a, e.2 = .over a
  /-- No worker stalls whose clock is punctual and who is patient enough. -/
  unstalled : OrderedSeconds τ → sur.Punctual (some i.flag) → Patient i.fetcher i.categories →
    Unstalled sur i most w course
  /-- A command is interrupted while the workers are at work, -/
  stopped : .interrupt ∈ course → x.Refuses interruptedCode
  /-- or by one of them, -/
  interrupted : Unstalled sur i most w course → wasInterrupted sur i most w course = true → x.Refuses interruptedCode
  /-- or before its document is put out, -/
  halted : .interrupt ∉ course → Unstalled sur i most w course → wasInterrupted sur i most w course = false →
    halt = some .beforeOutput → x.Refuses interruptedCode
  /-- or else its document is put out, and it may be interrupted after that. -/
  documented : .interrupt ∉ course → Unstalled sur i most w course → wasInterrupted sur i most w course = false →
    halt ≠ some .beforeOutput → ∃ s, outcome = .ok s ∧ (Moment.IsKnown s.fetchedAt →
      ∃ document, s.toJson = .ok document ∧
        document.AccountsFor i.categories s.resultFields s.failureFields ∧ (document.depth ≤ i.fetcher.room →
          x.PutsOut document (if halt = some .afterOutput then interruptedCode
            else if s.failureFields.isEmpty then 0 else 1)))

/-- A service that knows of seven stars. -/
def sevenStars : Service Surroundings.Hours Rat :=
  .quiet fun _ _ => .ok ⟨200, [], "\x7b\"stargazers_count\": 7\x7d".toUTF8.toList⟩

end CommandLine

end RepoCensus
