import RepoCensus.CommandLine.Basic
import RepoCensus.Numeral.Whole

/-!
# Command lines of rehearsals

A reader of command lines, to try commands with: long options such as `--repo x` and `--repo=x`, and short ones such
as `-r x` and `-rx`, of which several that take no value may share a hyphen. There are no other arguments, and no
option that asks for help. Results about commands begin where a command line has been read.
-/

namespace RepoCensus.CommandLine

open RepoCensus.Numeral RepoCensus.Text

inductive Opt where
  | repo
  | category
  | concurrency
  | maxRetries
  | pageCeiling
  | maxPages
  | limit
  | output
  | token
  | verbose
deriving Repr, DecidableEq

namespace Opt

def longNames : List (String × Opt) :=
  [("--repo", repo), ("--category", category), ("--concurrency", concurrency),
   ("--max-retries", maxRetries), ("--page-ceiling", pageCeiling), ("--max-pages", maxPages),
   ("--limit", limit), ("--output", output), ("--token", token), ("--verbose", verbose)]

def letters : List (Char × Opt) :=
  [('r', repo), ('c', category), ('o', output), ('v', verbose)]

def ofLong? (name : String) : Option Opt := (longNames.find? fun o => o.1 = name).map Prod.snd

def ofLetter? (c : Char) : Option Opt := (letters.find? fun o => o.1 = c).map Prod.snd

def takesValue : Opt → Bool
  | verbose => false
  | _ => true

end Opt

structure Given where
  option : Opt
  value : String
deriving Repr, DecidableEq

/-! ## Options and their values -/

/-- What a word of the command line begins. -/
inductive Word where
  | options (given : List Given)
  /-- Options, the last of which takes the next word as its value. -/
  | needsValue (given : List Given) (option : Opt)
deriving Repr, DecidableEq

/-- The options that share a hyphen; the first one that takes a value takes all that follows it. -/
def readLetters? (given : List Given) : List Char → Option Word
  | [] => some (.options given)
  | c :: rest => do
    let option ← Opt.ofLetter? c
    if option.takesValue then
      if rest.isEmpty then return .needsValue given option
      else return .options (given ++ [⟨option, String.ofList rest⟩])
    else readLetters? (given ++ [⟨option, ""⟩]) rest

def readWord? (word : String) : Option Word :=
  let cs := word.toList
  let name := cs.takeWhile (· ≠ '=')
  let value? : Option String :=
    if name.length < cs.length then some (String.ofList (cs.drop (name.length + 1))) else none
  match Opt.ofLong? (String.ofList name), value? with
  | some option, some value => if option.takesValue then some (.options [⟨option, value⟩]) else none
  | some option, none =>
    if option.takesValue then some (.needsValue [] option) else some (.options [⟨option, ""⟩])
  | none, _ => if cs.take 2 = ['-', '-'] then none else readLetters? [] (cs.drop 1)

/-- Whether a word is an option: a hyphen and something else. -/
def isOptionWord (word : String) : Bool :=
  match word.toList with
  | '-' :: _ :: _ => true
  | _ => false

/-- The options of a command line, in order. There must be nothing else on it. -/
def readOptions? : List String → Option (List Given)
  | [] => some []
  | "--" :: rest => if rest.isEmpty then some [] else none
  | word :: rest =>
    if isOptionWord word then
      match readWord? word, rest with
      | some (.options given), rest => (readOptions? rest).map (given ++ ·)
      | some (.needsValue given option), value :: rest =>
        (readOptions? rest).map (given ++ ⟨option, value⟩ :: ·)
      | _, _ => none
    else none

/-! ## Reading a command -/

/-- The form of a text in which case does not count. -/
def folded (c : Char) : List Char :=
  if c.toNat = 0x212a then ['k']
  else if c.toNat = 0x17f then ['s']
  else if c.toNat = 0xdf ∨ c.toNat = 0x1e9e then ['s', 's']
  else if c.toNat = 0xfb00 then ['f', 'f']
  else if c.toNat = 0xfb01 then ['f', 'i']
  else if c.toNat = 0xfb02 then ['f', 'l']
  else if c.toNat = 0xfb03 then ['f', 'f', 'i']
  else if c.toNat = 0xfb04 then ['f', 'f', 'l']
  else if c.toNat = 0xfb05 ∨ c.toNat = 0xfb06 then ['s', 't']
  else [c.toLower]

def foldCase (s : String) : String := String.ofList (s.toList.flatMap folded)

/-- A category that is chosen by its name, whatever its case. -/
def chooseCategory? (s : String) : Option Category := Category.ofName? (foldCase s)

/-- A form of output that is chosen by its name, whatever its case. -/
def chooseOutput? (s : String) : Option Output :=
  if foldCase s = "rich" then some .rich else if foldCase s = "json" then some .json else none

def valuesOf (option : Opt) (given : List Given) : List String :=
  (given.filter fun g => g.option = option).map Given.value

def lastOf? (option : Opt) (given : List Given) : Option String := (valuesOf option given).getLast?

/-- The number that an option is given, or else a usual one. -/
def numberOf? (option : Opt) (usual : Option Int) (given : List Given) : Option (Option Int) :=
  match lastOf? option given with
  | none => some usual
  | some s => (whole? s).map some

/-- The command that a command line asks for, if its options can be read. -/
def Command.ofGiven? (given : List Given) : Option Command := do
  let repo ← lastOf? .repo given
  let categories ← (valuesOf .category given).mapM chooseCategory?
  let concurrency ← numberOf? .concurrency (some 4) given
  let maxRetries ← numberOf? .maxRetries (some 5) given
  let pageCeiling ← numberOf? .pageCeiling (some 10000) given
  let maxPages ← numberOf? .maxPages none given
  let limit ← numberOf? .limit (some 10) given
  let output ← ((lastOf? .output given).map chooseOutput?).getD (some .rich)
  return {
    repo := repo
    categories := categories.map Category.name
    concurrency := concurrency.getD 4
    maxRetries := maxRetries.getD 5
    pageCeiling := pageCeiling.getD 10000
    maxPages := maxPages
    limit := limit.getD 10
    output := output
    token := lastOf? .token given
    verbose := given.any fun g => g.option = .verbose }

def Command.ofArguments? (args : List String) : Option Command := do
  Command.ofGiven? (← readOptions? args)

/-! ## Running a command line -/

/-- The code of a command line that cannot be read. -/
def usageCode : Nat := 2

/-- Runs the command that a list of arguments asks for. -/
def runArguments {σ τ : Type} [Calendar.Seconds τ] (sur : Service σ τ) (moves : List Move) (env : Environment)
    (patience room : Nat) (args : List String) (w : ServiceWorld σ τ) : Result τ × ServiceWorld σ τ :=
  match Command.ofArguments? args with
  | some c => run sur moves none env patience room c w
  | none => (⟨[], none, usageCode, none⟩, w)

end RepoCensus.CommandLine
