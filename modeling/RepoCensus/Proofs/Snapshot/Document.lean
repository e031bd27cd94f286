import RepoCensus.Proofs.Calendar.Moment
import RepoCensus.Proofs.Record.Reach
import RepoCensus.Proofs.Snapshot.Merge
import RepoCensus.Snapshot.Document

/-!
# The document of a snapshot

The document has a finding's part under the name of its category, and it accounts for the categories that were
requested. Main statement: what it says of the time stamp of a record that was read is read as the same moment, and the
moment of a week is as far from the epoch as the week's number says.
-/

namespace RepoCensus

open RepoCensus.Calendar

/-! ## Fields named for categories -/

namespace Category

variable {α : Type} {l : List Category} {v : Category → Option α} {c : Category}

/-- Fields for the categories that have a value, in the order of a list. -/
def fieldsOf (l : List Category) (v : Category → Option α) : List (String × α) :=
  l.filterMap fun c => (v c).map fun a => (c.name, a)

theorem fieldsOf_cons (d : Category) :
    fieldsOf (d :: l) v = ((v d).map fun a => (d.name, a)).toList ++ fieldsOf l v := by
  unfold fieldsOf
  cases h : v d <;> simp [h]

theorem get?_fieldsOf : Entries.get? c.name (fieldsOf l v) = if c ∈ l then v c else none := by
  induction l with
  | nil => rfl
  | cons d l ih =>
      rw [fieldsOf_cons]
      by_cases hd : d = c
      · subst hd
        cases h : v d <;> simp [h, Entries.get?_cons, ih]
      · have hname : d.name ≠ c.name := fun h => hd (name_injective h)
        cases v d <;> simp [Entries.get?_cons, hname, Ne.symm hd, ih]

end Category

namespace Snapshot

variable {τ : Type}

theorem resultFields_eq (s : Snapshot τ) :
    s.resultFields = Category.fieldsOf Category.alphabetical fun c => (s.results c).map Finding.toJson := by
  simp [resultFields, Category.fieldsOf, Function.comp_def]

theorem get?_resultFields (s : Snapshot τ) (c : Category) :
    Entries.get? c.name s.resultFields = (s.results c).map Finding.toJson := by
  rw [resultFields_eq, Category.get?_fieldsOf, if_pos (Category.mem_alphabetical c)]

variable [Seconds τ]

/-- What stands in the document of a snapshot. -/
theorem toJson_eq_ok_iff {s : Snapshot τ} {document : Json} :
    s.toJson = .ok document ↔ ∃ moment, Moment.ofTime s.fetchedAt = .ok moment ∧
      document = .obj [("repository", .str s.repository.fullName), ("status", .str s.status),
        ("fetched_at", .str moment.text), ("results", .obj s.resultFields), ("failures", .obj s.failureFields)] := by
  rw [toJson, bind_eq_ok]
  refine exists_congr fun moment => and_congr_right fun _ => ?_
  exact ⟨fun h => (Except.ok.inj h).symm, fun h => congrArg Except.ok h.symm⟩

end Snapshot

/-! ## What a document accounts for -/

/-- A time that the calendar knows. -/
def Calendar.Moment.IsKnown {τ : Type} [Seconds τ] (x : τ) : Prop :=
  ∃ n, Seconds.micros x = .ok n ∧ firstSecond ≤ n / 1000000 ∧ n / 1000000 ≤ lastSecond

/-- A document that accounts for the categories that were requested: each of them has its part among the results or
among the failures, and none has both. -/
structure Json.AccountsFor (document : Json) (requested : List Category) (found failed : List (String × Json)) :
    Prop where
  results : document.get? "results" = some (.obj found)
  failures : document.get? "failures" = some (.obj failed)
  status : document.get? "status" = some (.str (if failed.isEmpty then "complete" else "partial_failure"))
  nodup : ((found ++ failed).map Prod.fst).Nodup
  names : ∀ name, name ∈ (found ++ failed).map Prod.fst ↔ ∃ c ∈ requested, c.name = name

namespace Snapshot

variable {τ : Type} [Seconds τ] {s : Snapshot τ}

end Snapshot

section

variable {v item : Json} {m : Moment} {r : Record} {c : Category} {key : String} {n : Int}

/-! ## Time stamps -/

theorem readTimestamp_eq_ok (hread : readTimestamp v = .ok (some m)) :
    ∃ text, v = .str text ∧ Moment.ofStamp? text = some m := by
  unfold readTimestamp at hread
  split at hread
  · split at hread
    · split at hread
      · cases hread
        exact ⟨_, rfl, ‹_›⟩
      · cases hread
    · cases hread
  · cases hread

theorem readTimestamp_text (hm : m.IsLegible) : readTimestamp (.str m.text) = .ok (some m) := by
  have hstamp := Moment.ofStamp?_text hm
  have hsome : (Json.str m.text).isSomething = true := by
    rw [Json.isSomething, bne_iff_ne]
    intro hempty
    rw [hempty] at hstamp
    cases hstamp
  unfold readTimestamp
  simp [hsome, hstamp]

/-! ## Records -/

/-- The moments of a record, by the names of their fields. -/
def Record.stamps : Record → List (String × Moment)
  | .commit _ _ authoredAt _ => authoredAt.toList.map fun m => ("authored_at", m)
  | .week start _ _ => [("week_start", start)]
  | _ => []

theorem Record.get?_toJson (hm : (key, m) ∈ r.stamps) : r.toJson.get? key = some (.str m.text) := by
  cases r with
  | commit sha author authoredAt message =>
      obtain ⟨m', hm', heq⟩ := List.mem_map.mp hm
      cases heq
      rw [Option.mem_toList.mp hm']
      rfl
  | week start total days =>
      obtain heq := List.mem_singleton.mp hm
      cases heq
      rfl
  | contributor login contributions kind => cases hm
  | language name bytes => cases hm

theorem ofAnomaly_eq_ok {α : Type} {x : Except Anomaly α} {a : α} (h : ofAnomaly x = .ok a) : x = .ok a := by
  unfold ofAnomaly at h
  split at h <;> cases h
  rfl

theorem readCommit_eq_ok (hread : readCommit item = .ok r) :
    ∃ sha author authoredAt message v,
      r = .commit sha author authoredAt message ∧ readTimestamp v = .ok authoredAt := by
  unfold readCommit at hread
  simp only [bind_eq_ok] at hread
  obtain ⟨_, _, _, _, _, _, _, _, _, _, sha, _, hread⟩ := hread
  -- the name comes from one of two places, and all else is the same
  split at hread <;>
    · simp only [bind_eq_ok] at hread
      obtain ⟨name, _, date, _, authoredAt, hdate, line, _, hr⟩ := hread
      cases hr
      exact ⟨sha, name, authoredAt, line, date, rfl, ofAnomaly_eq_ok hdate⟩

theorem readWeek_eq_ok (hread : readWeek item = .ok r) :
    ∃ n start total days, r = .week start total days ∧ item.NumberAt "week" n ∧ Moment.ofSeconds n = .ok start := by
  unfold readWeek at hread
  simp only [bind_eq_ok, requiredOf_eq_ok] at hread
  obtain ⟨v, hv, n, hn, start, hstart, _, _, total, _, days, _, hr⟩ := hread
  cases hr
  exact ⟨n, start, total, days, rfl, ⟨v, hv, hn⟩, ofAnomaly_eq_ok hstart⟩

theorem readContributor_eq_ok (hread : readContributor item = .ok r) : r.stamps = [] := by
  unfold readContributor at hread
  simp only [bind_eq_ok] at hread
  obtain ⟨_, _, _, _, _, _, _, _, _, _, hr⟩ := hread
  cases hr
  rfl

/-! ## Bodies -/

theorem getElem?_of_mapM {ε α β : Type} {f : α → Except ε β} {l : List α} {bs : List β} {i : Nat} {a : α} {b : β}
    (h : l.mapM f = .ok bs) (ha : l[i]? = some a) (hb : bs[i]? = some b) : f a = .ok b := by
  induction l generalizing bs i with
  | nil => cases ha
  | cons x l ih =>
      simp only [List.mapM_cons, bind_eq_ok] at h
      obtain ⟨y, hy, ys, hys, h⟩ := h
      cases h
      cases i with
      | zero =>
          cases ha
          cases hb
          exact hy
      | succ i => exact ih hys ha hb

/-- A record at some place among those of a body, and the element at this place of the body's array. -/
def Category.Decodes (c : Category) (item : Json) (r : Record) : Prop :=
  ∃ (room : Nat) (body : List UInt8) (items : List Json) (rs : List Record) (i : Nat),
    documentOf room body = .ok (.arr items) ∧ c.read room body = .ok (.records rs) ∧ items[i]? = some item ∧
      rs[i]? = some r

theorem read_of_readArray {expected : String} {sort : RecordSort} {read : Json → RecordReading Record}
    {room : Nat} {body : List UInt8} {items : List Json} {rs : List Record} {i : Nat}
    (hdocument : documentOf room body = .ok (.arr items))
    (hread : (readArray expected sort read room body).map Value.records = .ok (.records rs)) (hitem : items[i]? = some item)
    (hr : rs[i]? = some r) : read item = .ok r := by
  obtain ⟨_, hread, ⟨⟩⟩ := map_eq_ok.mp hread
  rw [readArray, hdocument] at hread
  replace hread : ofRecords sort (items.mapM read) = .ok rs := hread
  unfold ofRecords at hread
  split at hread <;> cases hread
  exact getElem?_of_mapM ‹_› hitem hr

theorem Category.Decodes.read (h : c.Decodes item r) :
    c = .contributors ∧ readContributor item = .ok r ∨ c = .commits ∧ readCommit item = .ok r ∨
      c = .commitActivity ∧ readWeek item = .ok r := by
  obtain ⟨room, body, items, rs, i, hdocument, hread, hitem, hr⟩ := h
  cases c with
  | contributors => exact .inl ⟨rfl, read_of_readArray hdocument hread hitem hr⟩
  | commits => exact .inr (.inl ⟨rfl, read_of_readArray hdocument hread hitem hr⟩)
  | commitActivity => exact .inr (.inr ⟨rfl, read_of_readArray hdocument hread hitem hr⟩)
  | languages =>
      obtain ⟨_, hread, _⟩ := map_eq_ok.mp hread
      rw [readLanguages, hdocument] at hread
      cases hread
  | _ =>
      obtain ⟨_, _, ⟨⟩⟩ := map_eq_ok.mp hread

/-- The moments of a record that was read can be told by a text. -/
theorem Category.Decodes.isLegible (h : c.Decodes item r) (hm : (key, m) ∈ r.stamps) : m.IsLegible := by
  rcases h.read with ⟨-, hread⟩ | ⟨-, hread⟩ | ⟨-, hread⟩
  · rw [readContributor_eq_ok hread] at hm
    cases hm
  · obtain ⟨sha, author, authoredAt, message, v, rfl, hv⟩ := readCommit_eq_ok hread
    obtain ⟨m', hm', ⟨⟩⟩ := List.mem_map.mp hm
    obtain rfl := Option.mem_toList.mp hm'
    obtain ⟨text, -, htext⟩ := readTimestamp_eq_ok hv
    exact Moment.isLegible_of_read? htext
  · obtain ⟨n, start, total, days, rfl, -, hstart⟩ := readWeek_eq_ok hread
    obtain ⟨⟩ := List.mem_singleton.mp hm
    exact Moment.isLegible_of_ofMicros hstart

theorem Json.NumberAt.unique {name : String} {n' : Int} (hn : item.NumberAt name n) (hn' : item.NumberAt name n') :
    n = n' := by
  obtain ⟨v, hv, hn⟩ := hn
  obtain ⟨v', hv', hn'⟩ := hn'
  obtain rfl := Option.some.inj (hv.symm.trans hv')
  exact Except.ok.inj (hn.symm.trans hn')

/-- The moment of a week that was read is as far from the epoch as its number says. -/
theorem Category.Decodes.micros (h : Category.commitActivity.Decodes item r) (hn : item.NumberAt "week" n)
    (hm : (key, m) ∈ r.stamps) : m.offset = some 0 ∧ m.micros = n * 1000000 := by
  rcases h.read with ⟨⟨⟩, -⟩ | ⟨⟨⟩, -⟩ | ⟨-, hread⟩
  obtain ⟨n', start, total, days, rfl, hn', hstart⟩ := readWeek_eq_ok hread
  obtain ⟨⟩ := List.mem_singleton.mp hm
  obtain rfl := hn.unique hn'
  exact (Moment.ofMicros_spec hstart).2

namespace Snapshot

variable {τ : Type} [Seconds τ]

/-- In the document of a snapshot the time stamps of records that were read are read as the same moments, and those of
weeks are as far from the epoch as the numbers of the weeks say. A time stamp is read from any text that spells a
moment, and a week from any number of seconds from the year 1 to the year 9999. -/
theorem stamps_read_back {s : Snapshot τ} {document : Json} {c : Category} {f : Finding τ} {rs : List Record}
    (hdocument : s.toJson = .ok document) (hf : s.results c = some f) (hrs : f.value = .records rs) :
    ((document.get? "results").bind (Json.get? c.name)).bind (Json.get? "records") =
        some (.arr (rs.map Record.toJson)) ∧
      (∀ r ∈ rs, ∀ item, c.Decodes item r → ∀ key m, (key, m) ∈ r.stamps →
        r.toJson.get? key = some (.str m.text) ∧ readTimestamp (.str m.text) = .ok (some m) ∧
          ∀ n, c = .commitActivity → item.NumberAt "week" n → m.offset = some 0 ∧ m.micros = n * 1000000) ∧
      (∀ text m, readTimestamp (.str text) = .ok (some m) → readTimestamp (.str m.text) = .ok (some m)) ∧
      ∀ n, (∃ m, Moment.ofSeconds n = .ok m ∧ readTimestamp (.str m.text) = .ok (some m) ∧ m.micros = n * 1000000) ↔
        Moment.firstSecond ≤ n ∧ n ≤ Moment.lastSecond := by
  obtain ⟨moment, -, rfl⟩ := toJson_eq_ok_iff.mp hdocument
  refine ⟨?_, fun r _ item hitem key m hm => ?_, ?_, ?_⟩
  · have hpart : Entries.get? c.name s.resultFields = some f.toJson := by rw [get?_resultFields, hf, Option.map_some]
    simp [Json.get?, Entries.get?_cons, hpart, Finding.toJson, hrs]
  · refine ⟨Record.get?_toJson hm, readTimestamp_text (hitem.isLegible hm), ?_⟩
    rintro n rfl hn
    exact hitem.micros hn hm
  · intro text m hread
    obtain ⟨_, ⟨⟩, htext⟩ := readTimestamp_eq_ok hread
    exact readTimestamp_text (Moment.isLegible_of_read? htext)
  · intro n
    rw [← Moment.exists_ofSeconds_iff]
    constructor
    · rintro ⟨m, hm, -⟩
      exact ⟨m, hm⟩
    · rintro ⟨m, hm⟩
      exact ⟨m, hm, readTimestamp_text (Moment.isLegible_of_ofMicros hm), (Moment.ofMicros_spec hm).2.2⟩

/-- The first week of the calendar. -/
def firstWeek : Record := .week ⟨⟨1, 1, 1⟩, 0, 0, 0, 0, some 0⟩ 3 [1, 2]

def firstWeekItem : Json := .obj [("week", .int (-62135596800)), ("total", .int 3), ("days", .arr [.int 1, .int 2])]

def firstWeekBody : List UInt8 := "[\x7b\"week\": -62135596800, \"total\": 3, \"days\": [1, 2]\x7d]".toUTF8.toList

theorem decodes_firstWeek : Category.commitActivity.Decodes firstWeekItem firstWeek := by
  have hdocument : documentOf 3 firstWeekBody = .ok (.arr [firstWeekItem]) := by with_unfolding_all rfl
  have hread : Category.commitActivity.read 3 firstWeekBody = .ok (.records [firstWeek]) := by
    show (readArray "weekly activity list" .activity readWeek 3 firstWeekBody).map Value.records = _
    rw [readArray, hdocument]
    rfl
  exact ⟨3, firstWeekBody, [firstWeekItem], [firstWeek], 0, hdocument, hread, rfl, rfl⟩

def firstWeekSnapshot : Snapshot Rat where
  repository := ⟨"acme", "widgets"⟩
  results
    | .commitActivity => some ⟨.commitActivity, .records [firstWeek], none, 0, 1, false⟩
    | _ => none
  failures := fun _ => none
  fetchedAt := 0

theorem first_week_read_back : ∃ document, firstWeekSnapshot.toJson = .ok document ∧
    firstWeek.toJson.get? "week_start" = some (.str "0001-01-01T00:00:00+00:00") ∧
    readTimestamp (.str "0001-01-01T00:00:00+00:00") = .ok (some ⟨⟨1, 1, 1⟩, 0, 0, 0, 0, some 0⟩) := by
  have hmicros : Seconds.micros (0 : Rat) = .ok 0 := by
    show Except.ok (nearestInt (0 * 1000000)) = _
    rw [Rat.zero_mul]
    rfl
  have htime : Moment.ofTime firstWeekSnapshot.fetchedAt = .ok ⟨⟨1970, 1, 1⟩, 0, 0, 0, 0, some 0⟩ := by
    rw [Moment.ofTime, firstWeekSnapshot, hmicros]
    rfl
  obtain ⟨document, hdocument⟩ : ∃ document, firstWeekSnapshot.toJson = .ok document :=
    ⟨_, toJson_eq_ok_iff.mpr ⟨_, htime, rfl⟩⟩
  obtain ⟨-, hstamps, -⟩ := stamps_read_back (c := .commitActivity) hdocument rfl rfl
  obtain ⟨htext, hread, -⟩ := hstamps firstWeek (List.mem_singleton_self _) firstWeekItem decodes_firstWeek
    "week_start" _ (List.mem_singleton_self _)
  exact ⟨document, hdocument, htext, hread⟩

end Snapshot

end

end RepoCensus
