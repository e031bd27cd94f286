import RepoCensus.Fault.Failure
import RepoCensus.Fetch.Basic

/-!
# Numbers out of reach

A body is read, or it is undecodable, unless a whole number in one of its records is out of reach or it is nested deeper
than there is room for.
-/

namespace RepoCensus

open RepoCensus.Calendar RepoCensus.Numeral

/-! ## Results one after another -/

section Results

variable {ε α β : Type}

theorem bind_eq_ok {x : Except ε α} {f : α → Except ε β} {b : β} :
    (x >>= f) = .ok b ↔ ∃ a, x = .ok a ∧ f a = .ok b := by
  cases x with
  | error e => exact ⟨nofun, fun ⟨_, h, _⟩ => by cases h⟩
  | ok a => exact ⟨fun h => ⟨a, rfl, h⟩, fun ⟨_, h, hf⟩ => by cases h; exact hf⟩

theorem bind_eq_error {x : Except ε α} {f : α → Except ε β} {e : ε} :
    (x >>= f) = .error e ↔ x = .error e ∨ ∃ a, x = .ok a ∧ f a = .error e := by
  cases x with
  | error e' =>
      constructor
      · intro h
        exact .inl (congrArg Except.error (Except.error.inj h))
      · rintro (h | ⟨_, h, _⟩)
        · exact congrArg Except.error (Except.error.inj h)
        · cases h
  | ok a =>
      constructor
      · intro h
        exact .inr ⟨a, rfl, h⟩
      · rintro (h | ⟨_, h, hf⟩)
        · cases h
        · cases h
          exact hf

theorem map_eq_error {x : Except ε α} {f : α → β} {e : ε} : x.map f = .error e ↔ x = .error e := by
  cases x <;> simp [Except.map]

theorem map_eq_ok {x : Except ε α} {f : α → β} {b : β} : x.map f = .ok b ↔ ∃ a, x = .ok a ∧ f a = b := by
  cases x <;> simp [Except.map]

/-- The first element that is no good decides what is wrong with a list. -/
theorem mapM_eq_error {f : α → Except ε β} {l : List α} {e : ε} :
    l.mapM f = .error e ↔
      ∃ before x after, l = before ++ x :: after ∧ (∀ y ∈ before, ∃ b, f y = .ok b) ∧ f x = .error e := by
  induction l with
  | nil =>
      constructor
      · exact nofun
      · rintro ⟨before, x, after, h, _⟩
        cases before <;> cases h
  | cons z l ih =>
      rw [List.mapM_cons, bind_eq_error]
      constructor
      · rintro (h | ⟨b, hb, h⟩)
        · exact ⟨[], z, l, rfl, nofun, h⟩
        · rcases bind_eq_error.mp h with h | ⟨_, _, h⟩
          · obtain ⟨before, x, after, hl, hbefore, hx⟩ := ih.mp h
            refine ⟨z :: before, x, after, congrArg (List.cons z) hl, ?_, hx⟩
            exact List.forall_mem_cons.mpr ⟨⟨b, hb⟩, hbefore⟩
          · cases h
      · rintro ⟨before, x, after, hl, hbefore, hx⟩
        cases before with
        | nil =>
            cases hl
            exact .inl hx
        | cons y before =>
            obtain ⟨rfl, htail⟩ := List.cons_eq_cons.mp (hl.trans List.cons_append)
            obtain ⟨⟨b, hb⟩, hrest⟩ := List.forall_mem_cons.mp hbefore
            refine .inr ⟨b, hb, bind_eq_error.mpr (.inl ?_)⟩
            exact ih.mpr ⟨before, x, after, htail, hrest, hx⟩

end Results

/-! ## Parts of records -/

/-- A double that no whole number stands for. -/
def Json.IsInfinite : Json → Prop
  | .float x => ∃ negative, Double.value x = .infinite negative
  | _ => False

variable {v item : Json} {why : Anomaly} {name s : String}

theorem numberOfText_ne : numberOfText s ≠ .error (.anomaly why) := by
  unfold numberOfText
  split <;> exact nofun

theorem numberOf_eq_anomaly :
    numberOf v = .error (.anomaly why) ↔ v.IsInfinite ∧ why = .tooLarge .whole := by
  cases v with
  | float x =>
      unfold numberOf Json.IsInfinite
      dsimp only
      cases Double.value x with
      | undefined => simp [RecordReading.fail]
      | infinite negative => simp [eq_comm]
      | finite negative size => simp
  | str s => simp [numberOf, Json.IsInfinite, numberOfText_ne]
  | _ => simp [numberOf, Json.IsInfinite, RecordReading.fail]

theorem requiredOf_eq_ok : requiredOf name item = .ok v ↔ item.get? name = some v := by
  cases item with
  | obj fields =>
      simp only [requiredOf, Json.get?]
      cases Entries.get? name fields with
      | none => simp [RecordReading.fail]
      | some u => simp
  | _ => simp [requiredOf, Json.get?, RecordReading.fail]

theorem requiredOf_ne : requiredOf name item ≠ .error (.anomaly why) := by
  cases item with
  | obj fields =>
      simp only [requiredOf]
      cases Entries.get? name fields <;> exact nofun
  | _ => exact nofun

theorem partOf_ne : partOf name item ≠ .error (.anomaly why) := by
  cases item <;> exact nofun

theorem partOf_eq_ok (h : item.get? name = some v) (other : String) : ∃ u, partOf other item = .ok u := by
  cases item with
  | obj fields => exact ⟨_, rfl⟩
  | _ => cases h

theorem firstLineOf_ne : firstLineOf v ≠ .error (.anomaly why) := by
  unfold firstLineOf
  split
  · split <;> exact nofun
  · exact nofun

theorem numbersOf_eq_anomaly :
    numbersOf v = .error (.anomaly why) ↔ ∃ before x after, v = .arr (before ++ x :: after) ∧
      (∀ y ∈ before, ∃ n, numberOf y = .ok n) ∧ x.IsInfinite ∧ why = .tooLarge .whole := by
  cases v with
  | arr items => simp only [numbersOf, mapM_eq_error, numberOf_eq_anomaly, Json.arr.injEq]
  | str s => simp [numbersOf, mapM_eq_error, numberOfText_ne]
  | obj fields => simp [numbersOf, mapM_eq_error, numberOfText_ne]
  | _ => simp [numbersOf, RecordReading.fail]

theorem timestamp_ne : ofAnomaly (readTimestamp v) ≠ .error (.anomaly why) := by
  unfold readTimestamp
  split
  · split
    · split <;> exact nofun
    · exact nofun
  · exact nofun

/-- A number of seconds that the clock or the calendar of the system cannot count, and why. -/
inductive Moment.Unreachable (n : Int) : Anomaly → Prop where
  | clock : n < -Moment.wordReach ∨ Moment.wordReach ≤ n → Unreachable n (.tooLarge .clock)
  | calendar : -Moment.wordReach ≤ n → n < Moment.wordReach →
      n < Moment.earliestSecond ∨ Moment.latestSecond < n → Unreachable n .beyondCalendar

theorem moment_eq_anomaly {n : Int} :
    ofAnomaly (Moment.ofSeconds n) = .error (.anomaly why) ↔ Moment.Unreachable n why := by
  have hsecond : (n * 1000000).fdiv 1000000 = n := Int.mul_fdiv_cancel n (by decide)
  unfold Moment.ofSeconds Moment.ofMicros
  simp only [hsecond]
  split
  · rename_i hclock
    constructor
    · rintro ⟨⟩
      exact .clock hclock
    · rintro (_ | ⟨hlow, hhigh, _⟩)
      · rfl
      · omega
  · rename_i hclock
    split
    · rename_i hcalendar
      constructor
      · rintro ⟨⟩
        exact .calendar (by omega) (by omega) hcalendar
      · rintro (hclock' | _)
        · exact absurd hclock' hclock
        · rfl
    · rename_i hcalendar
      constructor
      · intro h
        split at h
        · cases h
        · split at h <;> cases h
      · rintro (hclock' | ⟨_, _, hcalendar'⟩)
        · exact absurd hclock' hclock
        · exact absurd hcalendar' hcalendar

/-! ## Records -/

/-- A field that a whole number is read from. -/
def Json.NumberAt (item : Json) (name : String) (n : Int) : Prop :=
  ∃ v, item.get? name = some v ∧ numberOf v = .ok n

/-- A week whose first day the calendar has. -/
def Json.ShowsWeek (item : Json) : Prop :=
  ∃ n m, item.NumberAt "week" n ∧ ofAnomaly (Moment.ofSeconds n) = .ok m

/-- The number of a contributor's contributions is out of reach. -/
def Json.StraysAsContributor (item : Json) (why : Anomaly) : Prop :=
  ∃ v, item.get? "contributions" = some v ∧ v.IsInfinite ∧ why = .tooLarge .whole

/-- The first number of a week that is no good is out of reach: its first day, its total, or that of a day. -/
inductive Json.StraysAsWeek (item : Json) : Anomaly → Prop where
  | week {v : Json} : item.get? "week" = some v → v.IsInfinite → item.StraysAsWeek (.tooLarge .whole)
  | moment {n : Int} {why : Anomaly} : item.NumberAt "week" n → Moment.Unreachable n why → item.StraysAsWeek why
  | total {v : Json} : item.ShowsWeek → item.get? "total" = some v → v.IsInfinite →
      item.StraysAsWeek (.tooLarge .whole)
  | day {n : Int} {before after : List Json} {v : Json} : item.ShowsWeek → item.NumberAt "total" n →
      item.get? "days" = some (.arr (before ++ v :: after)) → (∀ d ∈ before, ∃ n, numberOf d = .ok n) →
      v.IsInfinite → item.StraysAsWeek (.tooLarge .whole)

theorem readContributor_eq_anomaly :
    readContributor item = .error (.anomaly why) ↔ item.StraysAsContributor why := by
  unfold readContributor
  simp only [bind_eq_error, partOf_ne, requiredOf_ne, requiredOf_eq_ok, numberOf_eq_anomaly, false_or]
  constructor
  · rintro ⟨_, _, _, _, _, _, v, hv, hinfinite | ⟨_, _, ⟨⟩⟩⟩
    exact ⟨v, hv, hinfinite⟩
  · rintro ⟨v, hv, hinfinite⟩
    obtain ⟨login, hlogin⟩ := partOf_eq_ok hv "login"
    obtain ⟨name, hname⟩ := partOf_eq_ok hv "name"
    obtain ⟨email, hemail⟩ := partOf_eq_ok hv "email"
    exact ⟨login, hlogin, name, hname, email, hemail, v, hv, .inl hinfinite⟩

theorem readCommit_ne : readCommit item ≠ .error (.anomaly why) := by
  unfold readCommit
  intro h
  simp only [bind_eq_error, partOf_ne, requiredOf_ne, false_or] at h
  obtain ⟨_, _, _, _, _, _, login, _, _, _, _, _, h⟩ := h
  split at h
  · simp [bind_eq_error, partOf_ne, timestamp_ne, firstLineOf_ne, pure, Except.pure] at h
  · simp [bind_eq_error, partOf_ne, timestamp_ne, firstLineOf_ne, pure, Except.pure] at h

theorem readWeek_eq_anomaly : readWeek item = .error (.anomaly why) ↔ item.StraysAsWeek why := by
  unfold readWeek
  simp only [bind_eq_error, requiredOf_ne, requiredOf_eq_ok, numberOf_eq_anomaly, moment_eq_anomaly,
    numbersOf_eq_anomaly, false_or]
  constructor
  · rintro ⟨v, hv, ⟨hinfinite, rfl⟩ | ⟨n, hn, h⟩⟩
    · exact .week hv hinfinite
    have hweek : item.NumberAt "week" n := ⟨v, hv, hn⟩
    rcases h with hmoment | ⟨m, hm, v, hv, ⟨hinfinite, rfl⟩ | ⟨total, htotal, h⟩⟩
    · exact .moment hweek hmoment
    · exact .total ⟨n, m, hweek, hm⟩ hv hinfinite
    rcases h with ⟨before, x, after, hdays, hbefore, hinfinite, rfl⟩ | ⟨_, _, ⟨⟩⟩
    cases hget : item.get? "days" with
    | none => simp [hget] at hdays
    | some days =>
        rw [hget, Option.getD_some] at hdays
        exact .day ⟨n, m, hweek, hm⟩ ⟨v, hv, htotal⟩ (hdays ▸ hget) hbefore hinfinite
  · intro h
    cases h with
    | week hv hinfinite => exact ⟨_, hv, .inl ⟨hinfinite, rfl⟩⟩
    | moment hweek hmoment =>
        obtain ⟨v, hv, hn⟩ := hweek
        exact ⟨v, hv, .inr ⟨_, hn, .inl hmoment⟩⟩
    | total hshows hv hinfinite =>
        obtain ⟨n, m, ⟨w, hw, hn⟩, hm⟩ := hshows
        exact ⟨w, hw, .inr ⟨n, hn, .inr ⟨m, hm, _, hv, .inl ⟨hinfinite, rfl⟩⟩⟩⟩
    | day hshows htotal hdays hbefore hinfinite =>
        obtain ⟨n, m, ⟨w, hw, hn⟩, hm⟩ := hshows
        obtain ⟨v, hv, htotal⟩ := htotal
        refine ⟨w, hw, .inr ⟨n, hn, .inr ⟨m, hm, v, hv, .inr ⟨_, htotal, .inl ?_⟩⟩⟩⟩
        rw [hdays]
        exact ⟨_, _, _, rfl, hbefore, hinfinite, rfl⟩

/-! ## Bodies -/

variable {α : Type} {room : Nat} {body : List UInt8} {expected : String}

theorem objectOf_ne : objectOf expected v ≠ .error (.anomaly why) := by
  cases v <;> exact nofun

/-- Nothing of a count is out of reach but the document that it stands in. -/
theorem readRepositoryField_eq_anomaly :
    readRepositoryField name room body = .error (.anomaly why) ↔ documentOf room body = .error (.anomaly why) := by
  unfold readRepositoryField
  simp only [bind_eq_error, objectOf_ne, false_or, or_iff_left_iff_imp]
  rintro ⟨_, _, _, _, h⟩
  split at h <;> cases h

theorem readTotal_eq_anomaly :
    readTotal room body = .error (.anomaly why) ↔ documentOf room body = .error (.anomaly why) := by
  unfold readTotal
  simp only [bind_eq_error, objectOf_ne, false_or, or_iff_left_iff_imp]
  rintro ⟨_, _, _, _, h⟩
  split at h
  · split at h <;> cases h
  · cases h

theorem readShare_ne {field : String × Json} : readShare field ≠ .error (.anomaly why) := by
  unfold readShare
  split <;> exact nofun

theorem readLanguages_eq_anomaly :
    readLanguages room body = .error (.anomaly why) ↔ documentOf room body = .error (.anomaly why) := by
  unfold readLanguages
  simp only [bind_eq_error, or_iff_left_iff_imp]
  rintro ⟨document, _, h⟩
  split at h
  · cases h
  · simp only [bind_eq_error, objectOf_ne, mapM_eq_error, readShare_ne, false_or] at h
    obtain ⟨_, _, ⟨_, _, _, _, _, ⟨⟩⟩ | ⟨_, _, ⟨⟩⟩⟩ := h

theorem ofRecords_eq_anomaly {sort : RecordSort} {x : RecordReading α} :
    ofRecords sort x = .error (.anomaly why) ↔ x = .error (.anomaly why) := by
  match x with
  | .ok rs => exact ⟨nofun, nofun⟩
  | .error (.flaw _) => exact ⟨nofun, nofun⟩
  | .error (.anomaly _) => simp [ofRecords]

/-- A page holds an element that strays, and all elements before it are read. -/
def PageStrays (read : Json → RecordReading Record) (strays : Json → Anomaly → Prop) (room : Nat)
    (body : List UInt8) (why : Anomaly) : Prop :=
  ∃ before item after, documentOf room body = .ok (.arr (before ++ item :: after)) ∧
    (∀ v ∈ before, ∃ r, read v = .ok r) ∧ strays item why

theorem readArray_eq_anomaly {sort : RecordSort} {read : Json → RecordReading Record}
    {strays : Json → Anomaly → Prop}
    (h : ∀ item why, read item = .error (.anomaly why) ↔ strays item why) :
    readArray expected sort read room body = .error (.anomaly why) ↔
      PageStrays read strays room body why ∨ documentOf room body = .error (.anomaly why) := by
  unfold readArray PageStrays
  rw [bind_eq_error, or_comm]
  refine or_congr ⟨?_, ?_⟩ Iff.rfl
  · rintro ⟨document, hdocument, hread⟩
    cases document with
    | null => cases hread
    | arr items =>
        obtain ⟨before, x, after, rfl, hbefore, hx⟩ := mapM_eq_error.mp (ofRecords_eq_anomaly.mp hread)
        exact ⟨before, x, after, hdocument, hbefore, (h x why).mp hx⟩
    | _ => cases hread
  · rintro ⟨before, x, after, hdocument, hbefore, hx⟩
    refine ⟨_, hdocument, ofRecords_eq_anomaly.mpr (mapM_eq_error.mpr ?_)⟩
    exact ⟨before, x, after, rfl, hbefore, (h x why).mpr hx⟩

/-! ## Categories -/

/-- Reads the body of an answer for a category. -/
def Category.read (c : Category) (room : Nat) (body : List UInt8) : Reading Value :=
  match c.endpoint.reader with
  | .count read => (read room body).map .count
  | .page read => (read room body).map .records

/-- A body holds a number that is out of reach, where the category has records with numbers. -/
def Category.Strays : Category → Nat → List UInt8 → Anomaly → Prop
  | .contributors => PageStrays readContributor Json.StraysAsContributor
  | .commitActivity => PageStrays readWeek Json.StraysAsWeek
  | _ => fun _ _ _ => False

/-- A body holds a number that is out of reach, or its document cannot be built. -/
def Category.Escapes (c : Category) (room : Nat) (body : List UInt8) (why : Anomaly) : Prop :=
  c.Strays room body why ∨ documentOf room body = .error (.anomaly why)

theorem Category.read_eq_anomaly (c : Category) (room : Nat) (body : List UInt8) (why : Anomaly) :
    c.read room body = .error (.anomaly why) ↔ c.Escapes room body why := by
  have hunstrayed : (False ∨ documentOf room body = .error (.anomaly why)) ↔
      documentOf room body = .error (.anomaly why) := or_iff_right id
  cases c with
  | contributors => exact map_eq_error.trans (readArray_eq_anomaly fun _ _ => readContributor_eq_anomaly)
  | commitActivity => exact map_eq_error.trans (readArray_eq_anomaly fun _ _ => readWeek_eq_anomaly)
  | commits =>
      refine map_eq_error.trans ((readArray_eq_anomaly fun _ _ => Iff.rfl).trans (or_congr_left ?_))
      refine ⟨?_, False.elim⟩
      rintro ⟨_, _, _, _, _, hx⟩
      exact readCommit_ne hx
  | languages => exact map_eq_error.trans (readLanguages_eq_anomaly.trans hunstrayed.symm)
  | stars => exact map_eq_error.trans (readRepositoryField_eq_anomaly.trans hunstrayed.symm)
  | forks => exact map_eq_error.trans (readRepositoryField_eq_anomaly.trans hunstrayed.symm)
  | watchers => exact map_eq_error.trans (readRepositoryField_eq_anomaly.trans hunstrayed.symm)
  | openIssues => exact map_eq_error.trans (readTotal_eq_anomaly.trans hunstrayed.symm)
  | closedIssues => exact map_eq_error.trans (readTotal_eq_anomaly.trans hunstrayed.symm)
  | openPulls => exact map_eq_error.trans (readTotal_eq_anomaly.trans hunstrayed.symm)
  | mergedPulls => exact map_eq_error.trans (readTotal_eq_anomaly.trans hunstrayed.symm)

/-- Where there is room for a body, only a number in it can be out of reach. -/
theorem Category.escapes_iff_of_fits (c : Category) (h : Fits room body) (why : Anomaly) :
    c.Escapes room body why ↔ c.Strays room body why :=
  or_iff_left (h.documentOf_ne why)

/-- A count for a category that is counted, records for a collection. -/
def Value.Suits (c : Category) : Value → Prop
  | .count _ => c.endpoint.isPaged = false
  | .records _ => c.endpoint.isPaged = true

theorem Category.suits_of_read {c : Category} {value : Value} (h : c.read room body = .ok value) : value.Suits c := by
  unfold Category.read at h
  unfold Value.Suits Endpoint.isPaged
  split at h
  · rename_i hreader
    obtain ⟨n, _, rfl⟩ := map_eq_ok.mp h
    rw [hreader]
  · rename_i hreader
    obtain ⟨rs, _, rfl⟩ := map_eq_ok.mp h
    rw [hreader]

open Fetcher in
/-- With any room, a body gives a value of the right sort or a failure to decode it, unless a number in it is out of
reach or the body is nested too deep; that ends the fetch. For every body there is room enough, and then numbers alone
are out of reach. -/
theorem Category.read_or_decode_iff {τ : Type} (c : Category) (body : List UInt8) :
    (∀ room,
      (((∃ value, ofReading (c.read room body) = (.ok value : Except (Fault τ) Value) ∧ value.Suits c) ∨
          ∃ fault : Fault τ, ofReading (c.read room body) = .error fault ∧ Failure.reasonOf? fault = some .decode) ↔
        ∀ why, ¬ c.Escapes room body why) ∧
      ∀ why, ofReading (c.read room body) = (.error (.anomaly why) : Except (Fault τ) Value) ↔
        c.Escapes room body why) ∧
    ∃ least, ∀ room, least ≤ room → ∀ why, c.Escapes room body why ↔ c.Strays room body why := by
  constructor
  · intro room
    have hescapes : ∀ why, c.read room body = .error (.anomaly why) ↔ c.Escapes room body why :=
      c.read_eq_anomaly room body
    cases hread : c.read room body with
    | ok value =>
        have hnone : ∀ why, ¬ c.Escapes room body why := by
          intro why h
          rw [← hescapes, hread] at h
          cases h
        exact ⟨iff_of_true (.inl ⟨value, rfl, suits_of_read hread⟩) hnone, fun why => iff_of_false nofun (hnone why)⟩
    | error misread =>
        cases misread with
        | undecodable flaw =>
            have hnone : ∀ why, ¬ c.Escapes room body why := by
              intro why h
              rw [← hescapes, hread] at h
              cases h
            exact ⟨iff_of_true (.inr ⟨_, rfl, rfl⟩) hnone, fun why => iff_of_false nofun (hnone why)⟩
        | anomaly why =>
            have hsome : c.Escapes room body why := (hescapes why).mp hread
            refine ⟨iff_of_false ?_ fun h => h why hsome, fun why' => ?_⟩
            · rintro (⟨_, ⟨⟩, _⟩ | ⟨_, ⟨⟩, ⟨⟩⟩)
            · rw [← hescapes, hread]
              constructor
              · rintro ⟨⟩
                rfl
              · rintro ⟨⟩
                rfl
  · obtain ⟨least, hleast⟩ := exists_fits body
    exact ⟨least, fun room hroom => c.escapes_iff_of_fits (hleast room hroom)⟩

/-- A page with one week, which begins where a word of sixty-four bits ends. -/
def farWeekBody : List UInt8 := "[\x7b\"week\": 9223372036854775808\x7d]".toUTF8.toList

theorem Category.far_week_escapes :
    Category.commitActivity.read 960 farWeekBody = .error (.anomaly (.tooLarge .clock)) := by
  with_unfolding_all rfl

end RepoCensus
