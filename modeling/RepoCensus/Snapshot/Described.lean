import RepoCensus.Fault.Described
import RepoCensus.Record.Reader
import RepoCensus.Snapshot.Basic

/-!
# Snapshots that are described

A snapshot can be described by its repository, its findings and its failures, so that a script can start
from it.
-/

namespace RepoCensus

def Freshness.described? : Json → Option Freshness
  | .null => none
  | v => some ⟨v.textAt? "etag", v.textAt? "last_modified"⟩

def Tally.described (v : Json) : Tally := (ofJson? v).getD (.number 0)

def Record.described (c : Category) (v : Json) : Except Anomaly Record :=
  match c with
  | .contributors =>
    .ok (.contributor (v.part "login") (v.wholeAt "contributions" 0)
      ((v.get? "kind").getD (.str "User")))
  | .commits => do
    let authored ← readTimestamp (v.part "authored_at")
    return .commit (v.part "sha") (v.part "author") authored (v.textAt "message" "")
  | .commitActivity => do
    let start ← Calendar.Moment.ofSeconds (v.wholeAt "week" 0)
    return .week start (v.wholeAt "total" 0) ((v.itemsAt "days").map fun n => n.whole?.getD 0)
  | _ => .ok (.language (v.textAt "language" "") (.described (v.part "bytes")))

def Value.described (c : Category) : Json → Except Anomaly Value
  | .arr rs => do return .records (← rs.mapM (Record.described c))
  | v => .ok (.count (.described v))

/-- The finding about a category that is described. -/
def Finding.described (c : Category) (v : Json) : Except Anomaly (Finding Float) := do
  return ⟨c, ← Value.described c (v.part "value"), Freshness.described? (v.part "freshness"),
    v.doubleAt "fetched_at" 0, v.wholeAt "pages" 1, v.flagAt "truncated" false⟩

def Failure.described (c : Category) (v : Json) : Failure Float :=
  let cause := match v.part "cause" with
    | .null => none
    | fault => some (.described fault)
  ⟨c, .named (v.textAt "reason" ""), cause, v.wholeAt "attempts" 0⟩

def Category.find? {α : Type} (xs : List (Category × α)) (c : Category) : Option α :=
  (xs.find? fun x => x.1 = c).map Prod.snd

/-- What is described for each category; fields that are not named for one are left out. -/
def Category.described {α : Type} (read : Category → Json → Except Anomaly α) (v : Json) :
    Except Anomaly (List (Category × α)) :=
  v.fields.filterMapM fun f =>
    match ofName? f.1 with
    | some c => do return some (c, ← read c f.2)
    | none => return none

def Snapshot.described (v : Json) : Except (Fault Float) (Snapshot Float) := do
  let repository ← Fault.refuse (Repository.make (v.textAt "owner" "") (v.textAt "name" ""))
  let results ← Fault.lift (Category.described Finding.described (v.part "results"))
  let failures ← Fault.lift
    (Category.described (fun c d => .ok (Failure.described c d)) (v.part "failures"))
  Fault.refuse (make repository (Category.find? results) (Category.find? failures)
    (v.doubleAt "fetched_at" 0))

end RepoCensus
