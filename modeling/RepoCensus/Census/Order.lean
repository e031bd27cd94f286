import RepoCensus.Census.Basic
import RepoCensus.Settings.Options

/-!
# Ordering a snapshot

What a caller orders, from names and numbers that may make no sense, and what is done about it.
-/

namespace RepoCensus

open RepoCensus.Calendar

structure Order (τ : Type) where
  owner : String
  name : String
  categories : List String
  changes : Changes τ
  previous : Option (Snapshot τ)
  token : Option String
  /-- Whether requests are handed over as they are instead of going over the wire. -/
  direct : Bool
  flag : Flag
  config : Config τ
  patience : Nat
  room : Nat

/-- An order for all categories that leaves everything else to the configuration. -/
def Order.of {τ : Type} (owner name : String) (config : Config τ) (patience room : Nat) : Order τ :=
  ⟨owner, name, Category.all.map Category.name, {}, none, none, false, .own, config, patience, room⟩

structure Connection (τ : Type) where
  timeout : τ
deriving Repr

namespace Order

variable {σ τ : Type} [Seconds τ]

/-- The credential of an order: its own, or that of the configuration. -/
def credential (o : Order τ) : Option String := (filled o.token).or o.config.token

/-- What an order asks for over a transport, if it makes sense. -/
def inquiry (o : Order τ) : Except (Fault τ) (Transport → Inquiry τ) := do
  let options ← o.config.options.changed o.changes
  let repository ← Fault.refuse (Repository.make o.owner o.name)
  let categories ← Fault.refuse (Category.parseAll o.categories)
  return fun transport => {
    fetcher := {
      transport := transport
      token := o.credential
      baseUrl := o.config.baseUrl
      options := options
      conventions := o.config.conventions
      flag := none
      patience := o.patience
      room := o.room }
    flag := o.flag
    repository := repository
    categories := categories
    concurrency := none
    previous := o.previous }

/-- The client that makes the requests of an order which go over the wire. -/
def client (o : Order τ) : Client := ⟨Transport.headers o.config.conventions o.credential, true⟩

end Order

/-- A report, and the connection that was opened and closed for it. -/
structure OrderReport (τ : Type) where
  report : Report τ
  connection : Option (Connection τ)

namespace Census

variable {σ τ : Type} [Seconds τ]

def fetchSnapshot (sur : Service σ τ) (moves : List Move) (o : Order τ) (w : ServiceWorld σ τ) :
    OrderReport τ × ServiceWorld σ τ :=
  match o.inquiry with
  | .error fault => (⟨⟨.error fault, []⟩, none⟩, w)
  | .ok inquiry =>
    if o.direct then
      let (report, w) := take sur moves (inquiry .direct) w
      (⟨report, none⟩, w)
    else
      let (level, text) := Transport.openingNote o.credential
      let w := w.log level text
      match w.connect sur o.client with
      | .error why => (⟨⟨.error (.anomaly why), []⟩, none⟩, w)
      | .ok w =>
        let i := inquiry (.wire o.client)
        let (report, w) := take sur moves i w
        (⟨report, some ⟨i.fetcher.options.timeout⟩⟩, w)

def mergeOutcome (old : Snapshot τ) : Except (Fault τ) (Snapshot τ) → Except (Fault τ) (Snapshot τ)
  | .ok new => Fault.refuse (old.merge new)
  | .error fault => .error fault

/-- Fetches the categories of a snapshot that failed once more, and merges the outcome into it. A
complete snapshot stays as it is. Repository and categories of the order do not count. -/
def retryFailed (sur : Service σ τ) (moves : List Move) (s : Snapshot τ) (o : Order τ)
    (w : ServiceWorld σ τ) : OrderReport τ × ServiceWorld σ τ :=
  if s.isComplete then (⟨⟨.ok s, []⟩, none⟩, w)
  else
    let count := s.failedCategories.length
    let w := w.log .info (s!"Retrying {count} failed categories for " ++ s.repository.fullName)
    let o := { o with
      owner := s.repository.owner
      name := s.repository.name
      categories := s.failedCategories.map Category.name }
    let (r, w) := fetchSnapshot sur moves o w
    (⟨⟨mergeOutcome s r.report.outcome, r.report.tasks⟩, r.connection⟩, w)

end Census

end RepoCensus
