import RepoCensus.Fault.Basic
import RepoCensus.Settings.Amount
import RepoCensus.Settings.Conventions
import RepoCensus.Text.Blank

/-!
# Options

What a caller may choose: how many workers, how many attempts, how many pages, how long to wait. What is
chosen is looked at in a fixed order, and the first choice that makes no sense is refused.
-/

namespace RepoCensus

open RepoCensus.Calendar

structure Options (τ : Type) where
  concurrency : Amount
  /-- How many attempts a request is given, the first one included. -/
  maxRetries : Amount
  pageCeiling : Amount
  /-- After how many pages a collection is cut off. -/
  maxPages : Option Amount
  perPage : Amount
  /-- The wait before the second attempt, which doubles from one attempt to the next. -/
  baseDelay : τ
  maxDelay : τ
  maxResetWait : τ
  timeout : τ
  /-- The requests of a budget that are never made. -/
  safetyMargin : Amount

/-- A value as it is given, or what is wrong with it. -/
abbrev Given (α : Type) := Except Anomaly α

/-- Choices that were not looked at yet. -/
structure Draft (τ : Type) where
  concurrency : Given Amount
  maxRetries : Given Amount
  pageCeiling : Given Amount
  maxPages : Option (Given Amount)
  perPage : Given Amount
  baseDelay : Given τ
  maxDelay : Given τ
  maxResetWait : Given τ
  timeout : Given τ
  safetyMargin : Given Amount

/-- Changes to options; what is not given stays as it is. -/
structure Changes (τ : Type) where
  concurrency : Option (Given Amount) := none
  maxRetries : Option (Given Amount) := none
  pageCeiling : Option (Given Amount) := none
  maxPages : Option (Given Amount) := none
  perPage : Option (Given Amount) := none
  baseDelay : Option (Given τ) := none
  maxDelay : Option (Given τ) := none
  maxResetWait : Option (Given τ) := none
  timeout : Option (Given τ) := none
  safetyMargin : Option (Given Amount) := none

/-! ## Single choices -/

def Amount.atLeast {τ : Type} (option : String) (least : Int) (given : Given Amount) :
    Except (Fault τ) Amount := do
  let a ← Fault.lift given
  if a.isBelow least then .error (.invalid (.below option least a.text))
  return a

def Amount.between {τ : Type} (option : String) (least most : Int) (given : Given Amount) :
    Except (Fault τ) Amount := do
  let a ← Fault.lift given
  if a.isAtLeast least && a.isAtMost most then return a
  .error (.invalid (.outside option least most a.text))

namespace Draft

variable {τ : Type} [Seconds τ]

def delay (given : Given τ) : Except (Fault τ) τ := do
  let s ← Fault.lift given
  if s < Seconds.zero then .error (.invalid .negativeDelay)
  return s

def timeLimit (option : String) (given : Given τ) : Except (Fault τ) τ := do
  let s ← Fault.lift given
  if s ≤ Seconds.zero then .error (.invalid (.noTime option (Seconds.text s)))
  return s

/-- The options of a draft if all of them make sense, or else what is wrong with the first that does
not. -/
def checked (d : Draft τ) : Except (Fault τ) (Options τ) := do
  let concurrency ← Amount.atLeast "concurrency" 1 d.concurrency
  let maxRetries ← Amount.atLeast "max_retries" 1 d.maxRetries
  let pageCeiling ← Amount.atLeast "page_ceiling" 1 d.pageCeiling
  let maxPages ← d.maxPages.mapM (Amount.atLeast "max_pages" 1)
  let perPage ← Amount.between "per_page" 1 Conventions.mostPerPage d.perPage
  let baseDelay ← delay d.baseDelay
  let maxDelay ← delay d.maxDelay
  let maxResetWait ← delay d.maxResetWait
  let timeout ← timeLimit "timeout" d.timeout
  let safetyMargin ← Amount.atLeast "safety_margin" 0 d.safetyMargin
  return ⟨concurrency, maxRetries, pageCeiling, maxPages, perPage, baseDelay, maxDelay, maxResetWait,
    timeout, safetyMargin⟩

end Draft

/-! ## Options -/

namespace Options

variable {τ : Type} [Seconds τ]

/-- What is chosen for a caller who makes no choice. -/
def usual : Options τ where
  concurrency := 4
  maxRetries := 5
  pageCeiling := 10000
  maxPages := none
  perPage := 100
  baseDelay := Seconds.whole 1
  maxDelay := Seconds.whole 60
  maxResetWait := Seconds.whole 900
  timeout := Seconds.whole 10
  safetyMargin := 0

omit [Seconds τ] in
/-- Options with changes, before they are looked at. -/
def draft (o : Options τ) (c : Changes τ) : Draft τ where
  concurrency := c.concurrency.getD (.ok o.concurrency)
  maxRetries := c.maxRetries.getD (.ok o.maxRetries)
  pageCeiling := c.pageCeiling.getD (.ok o.pageCeiling)
  maxPages := c.maxPages.or (o.maxPages.map .ok)
  perPage := c.perPage.getD (.ok o.perPage)
  baseDelay := c.baseDelay.getD (.ok o.baseDelay)
  maxDelay := c.maxDelay.getD (.ok o.maxDelay)
  maxResetWait := c.maxResetWait.getD (.ok o.maxResetWait)
  timeout := c.timeout.getD (.ok o.timeout)
  safetyMargin := c.safetyMargin.getD (.ok o.safetyMargin)

/-- Options with changes, as long as they make sense. -/
def changed (o : Options τ) (c : Changes τ) : Except (Fault τ) (Options τ) := (o.draft c).checked

end Options

/-! ## Configuration

Credential, address, conventions and options, as far as the environment tells them.
-/

def usualUrl : String := "https://api.github.com"

structure Environment where
  token : Option String
  url : Option String

def filled (s : Option String) : Option String := s.filter (· ≠ "")

structure Config (τ : Type) where
  token : Option String
  baseUrl : String
  conventions : Conventions
  options : Options τ

namespace Config

variable {τ : Type}

/-- The configuration that follows from the environment; a credential that is given wins. -/
def ofEnvironment (env : Environment) (token : Option String) (options : Options τ) : Config τ where
  token := (filled token).or (filled env.token)
  baseUrl := Text.dropTrailing '/' ((filled env.url).getD usualUrl)
  conventions := .usual
  options := options

end Config

end RepoCensus
