import RepoCensus.Calendar.MomentReader
import RepoCensus.Fault.Undecodable
import RepoCensus.Json.Reader
import RepoCensus.Numeral.Whole
import RepoCensus.Record.Basic
import RepoCensus.Text.Blank

/-!
# Reading bodies

From the body of an answer to a count or to the records of one page.
-/

namespace RepoCensus

open RepoCensus.Calendar RepoCensus.Numeral RepoCensus.Text

/-- Why a body could not be read: it is not as it should be, or a number in it is out of reach. -/
inductive Misread where
  | undecodable (why : Undecodable)
  | anomaly (why : Anomaly)
deriving Repr, DecidableEq

/-- Why a record could not be read. -/
inductive RecordFault where
  | flaw (why : Flaw)
  | anomaly (why : Anomaly)
deriving Repr, DecidableEq

abbrev Reading := Except Misread

/-- A reading that ends with the body's being unreadable. -/
def Reading.fail {α : Type} (why : Undecodable) : Reading α := .error (.undecodable why)

def isBlankByte (b : UInt8) : Bool := b = 32 || (9 ≤ b && b ≤ 13)

/-- The document of a body, with room for so many arrays and objects inside of each other; a body of blanks
holds nothing. -/
def documentOf (room : Nat) (body : List UInt8) : Reading Json :=
  if body.all isBlankByte then .ok .null
  else
    match Json.readBytes room body with
    | .ok v => .ok v
    | .error .malformed => .fail .notADocument
    | .error (.tooDeep nest) => .error (.anomaly (.tooDeep nest))

/-- There is room for the arrays and objects of a body inside of each other. -/
def Fits (room : Nat) (body : List UInt8) : Prop :=
  ∀ nest, documentOf room body ≠ .error (.anomaly (.tooDeep nest))

/-- Nothing but its depth puts a document out of reach. -/
theorem exists_nest_of_documentOf {room : Nat} {body : List UInt8} {why : Anomaly}
    (h : documentOf room body = .error (.anomaly why)) : ∃ nest, why = .tooDeep nest := by
  unfold documentOf at h
  split at h
  · cases h
  · split at h
    · cases h
    · cases h
    · cases h
      exact ⟨_, rfl⟩

theorem Fits.documentOf_ne {room : Nat} {body : List UInt8} (h : Fits room body) (why : Anomaly) :
    documentOf room body ≠ .error (.anomaly why) := by
  intro hdocument
  obtain ⟨nest, rfl⟩ := exists_nest_of_documentOf hdocument
  exact h nest hdocument

/-- Every body fits where there is room enough. -/
theorem exists_fits (body : List UInt8) : ∃ least, ∀ room, least ≤ room → Fits room body := by
  obtain ⟨least, hleast⟩ := Json.exists_room body
  refine ⟨least, fun room hroom nest hdocument => ?_⟩
  unfold documentOf at hdocument
  split at hdocument
  · cases hdocument
  · split at hdocument
    · cases hdocument
    · cases hdocument
    · rename_i hread
      exact hleast room hroom _ hread

/-- A body of opening brackets, one more than there is room for. -/
theorem documentOf_replicate (room : Nat) :
    documentOf room (List.replicate (room + 1) Json.openingByte) = .error (.anomaly (.tooDeep .array)) := by
  have hblank : ¬ (List.replicate (room + 1) Json.openingByte).all isBlankByte := by simp [Json.openingByte, isBlankByte]
  rw [documentOf, if_neg hblank, Json.readBytes_replicate]

def objectOf (expected : String) : Json → Reading (List (String × Json))
  | .obj fields => .ok fields
  | v => .fail (.otherKind expected v.kind)

def arrayOf (expected : String) : Json → Reading (List Json)
  | .arr items => .ok items
  | v => .fail (.otherKind expected v.kind)

/-! ## Counts -/

def readRepositoryField (name : String) (room : Nat) (body : List UInt8) : Reading Tally := do
  let fields ← objectOf "repository object" (← documentOf room body)
  match (Entries.get? name fields).bind Tally.ofJson? with
  | some t => .ok t
  | none => .fail (.noWholeField name)

def readTotal (room : Nat) (body : List UInt8) : Reading Tally := do
  let fields ← objectOf "search result" (← documentOf room body)
  match (Entries.get? "total_count" fields).bind Tally.ofJson? with
  | some t =>
    if (Entries.get? "incomplete_results" fields).any Json.isSomething then .fail .incompleteSearch
    else .ok t
  | none => .fail .noTotal

/-! ## Parts of records -/

abbrev RecordReading := Except RecordFault

def RecordReading.fail {α : Type} (why : Flaw) : RecordReading α := .error (.flaw why)

/-- A part of a value that is looked up by name, null if it is missing. -/
def partOf (name : String) : Json → RecordReading Json
  | .obj fields => .ok ((Entries.get? name fields).getD .null)
  | _ => .fail .noParts

def requiredOf (name : String) : Json → RecordReading Json
  | .obj fields =>
    match Entries.get? name fields with
    | some v => .ok v
    | none => .fail .missingField
  | _ => .fail .wrongKind

/-- A value, or another one where it is not something. -/
def orElse (v other : Json) : Json := if v.isSomething then v else other

def numberOfText (s : String) : RecordReading Int :=
  match whole? s with
  | some n => .ok n
  | none => .fail .badValue

/-- The whole number that a value stands for; doubles lose their decimals. -/
def numberOf : Json → RecordReading Int
  | .int n => .ok n
  | .bool b => .ok (Tally.flag b).toInt
  | .float x =>
    match Double.value x with
    | .undefined => .fail .badValue
    | .infinite _ => .error (.anomaly (.tooLarge .whole))
    | v => .ok (v.truncate?.getD 0)
  | .str s => numberOfText s
  | _ => .fail .wrongKind

/-- The whole numbers of a sequence: the elements of an array, the characters of a text, or the names
of an object's fields. -/
def numbersOf : Json → RecordReading (List Int)
  | .arr items => items.mapM numberOf
  | .str s => s.toList.mapM fun c => numberOfText (String.singleton c)
  | .obj fields => fields.mapM fun f => numberOfText f.1
  | _ => .fail .wrongKind

/-- The moment of a value that may be a time stamp, if it is something. -/
def readTimestamp (v : Json) : Except Anomaly (Option Moment) :=
  if v.isSomething then
    match v with
    | .str s =>
      match Moment.ofStamp? s with
      | some m => .ok (some m)
      | none => .error .badValue
    | _ => .error .noParts
  else .ok none

/-- An anomaly of a part of a record is a flaw of the record, unless something is too large. -/
def ofAnomaly {α : Type} : Except Anomaly α → RecordReading α
  | .ok a => .ok a
  | .error .badValue | .error (.badYear _) => .fail .badValue
  | .error .noParts => .fail .noParts
  | .error why => .error (.anomaly why)

def firstLineOf (v : Json) : RecordReading String :=
  if v.isSomething then
    match v with
    | .str s => .ok (firstLine s)
    | _ => .fail .noParts
  else .ok ""

/-! ## Records -/

def readContributor (item : Json) : RecordReading Record := do
  let login ← partOf "login" item
  let name ← partOf "name" item
  let email ← partOf "email" item
  let contributions ← numberOf (← requiredOf "contributions" item)
  let kind := (Json.get? "type" item).getD (.str "User")
  return .contributor (orElse login (orElse name (orElse email (.str "anonymous"))))
    contributions kind

def readCommit (item : Json) : RecordReading Record := do
  let detail := orElse (← partOf "commit" item) (.obj [])
  let author := orElse (← partOf "author" detail) (.obj [])
  let login ← partOf "login" (orElse (← partOf "author" item) (.obj []))
  let message ← partOf "message" detail
  let sha ← requiredOf "sha" item
  let name ← if login.isSomething then pure login else partOf "name" author
  let authoredAt ← ofAnomaly (readTimestamp (← partOf "date" author))
  let line ← firstLineOf message
  return .commit sha name authoredAt line

def readWeek (item : Json) : RecordReading Record := do
  let start ← numberOf (← requiredOf "week" item)
  let start ← ofAnomaly (Moment.ofSeconds start)
  let total ← numberOf (← requiredOf "total" item)
  let days ← numbersOf ((Json.get? "days" item).getD (.arr []))
  return .week start total days

/-- The reading of a body whose records are of a sort. -/
def ofRecords (sort : RecordSort) {α : Type} : RecordReading α → Reading α
  | .ok rs => .ok rs
  | .error (.flaw why) => .fail (.malformed sort why)
  | .error (.anomaly why) => .error (.anomaly why)

/-- The records of a body that holds an array of them; nothing holds none. -/
def readArray (expected : String) (sort : RecordSort) (read : Json → RecordReading Record)
    (room : Nat) (body : List UInt8) : Reading (List Record) := do
  match ← documentOf room body with
  | .null => return []
  | document => ofRecords sort ((← arrayOf expected document).mapM read)

def readContributors : Nat → List UInt8 → Reading (List Record) :=
  readArray "contributor list" .contributor readContributor

def readCommits : Nat → List UInt8 → Reading (List Record) := readArray "commit list" .commit readCommit

def readWeeks : Nat → List UInt8 → Reading (List Record) :=
  readArray "weekly activity list" .activity readWeek

/-- Whether one language comes before another one: the larger first, of equal ones by name. -/
def languageBefore (a b : String × Tally) : Bool :=
  if a.2.toInt = b.2.toInt then decide (a.1 ≤ b.1) else decide (b.2.toInt < a.2.toInt)

def readShare (field : String × Json) : Reading (String × Tally) :=
  match Tally.ofJson? field.2 with
  | some t => .ok (field.1, t)
  | none => .fail (.unsized field.1)

def readLanguages (room : Nat) (body : List UInt8) : Reading (List Record) := do
  match ← documentOf room body with
  | .null => return []
  | document =>
    let fields ← objectOf "language map" document
    let shares ← fields.mapM readShare
    return (shares.mergeSort languageBefore).map fun s => .language s.1 s.2

end RepoCensus
