import Mathlib.Algebra.Group.Nat.Defs
import Mathlib.Data.List.TakeWhile
import RepoCensus.Calendar.MomentReader
import RepoCensus.Proofs.Calendar.Date

/-!
# Moments, their texts and their seconds

A moment that was read from a text has an offset of none or of a second or more in size. Main statements: these are the
moments whose own text is read as the moment; and a number of seconds has a moment if its day is one of the calendar,
which is as far from the epoch as the number says.
-/

namespace RepoCensus.Calendar

open RepoCensus.Numeral

/-! ## Fields of digits -/

section

variable {width n : Nat}

theorem toList_padded (width n : Nat) :
    (padded width n).toList = List.replicate (width - (Nat.toDigits 10 n).length) '0' ++ Nat.toDigits 10 n := by
  rw [padded, Nat.toString_eq_ofList_toDigits, String.toList_ofList, String.toList_ofList]

theorem length_padded (width : Nat) (hw : 0 < width) (hn : n < 10 ^ width) :
    (padded width n).toList.length = width := by
  have hlength : (Nat.toDigits 10 n).length ≤ width := (Nat.length_toDigits_le_iff (by decide) hw).mpr hn
  rw [toList_padded, List.length_append, List.length_replicate]
  exact Nat.sub_add_cancel hlength

theorem isDigit_of_mem_padded {c : Char} (hc : c ∈ (padded width n).toList) : c.isDigit = true := by
  rw [toList_padded, List.mem_append, List.mem_replicate] at hc
  rcases hc with ⟨-, rfl⟩ | hc
  · rfl
  · exact Nat.isDigit_of_mem_toDigits (by decide) (by decide) hc

/-- A field starts with a digit. -/
theorem exists_padded_eq_cons (width : Nat) (hw : 0 < width) (hn : n < 10 ^ width) :
    ∃ c cs, (padded width n).toList = c :: cs ∧ c.isDigit = true := by
  have hne : (padded width n).toList ≠ [] := List.ne_nil_of_length_pos (by rw [length_padded width hw hn]; exact hw)
  obtain ⟨c, cs, hcs⟩ := List.exists_cons_of_ne_nil hne
  exact ⟨c, cs, hcs, isDigit_of_mem_padded (hcs ▸ List.mem_cons_self)⟩

theorem foldl_eq_ofDigitChars (ds : List Char) :
    ds.foldl (fun n c => 10 * n + (c.toNat - 48)) 0 = Nat.ofDigitChars 10 ds 0 := by
  have hzero : '0'.toNat = 48 := rfl
  rw [Nat.ofDigitChars_eq_foldl, hzero]

/-- The zeros in front do not count. -/
theorem foldl_padded (width n : Nat) : (padded width n).toList.foldl (fun n c => 10 * n + (c.toNat - 48)) 0 = n := by
  rw [foldl_eq_ofDigitChars, toList_padded, Nat.ofDigitChars_append, Nat.ofDigitChars_replicate_zero, Nat.mul_zero,
    Nat.ofDigitChars_ten_toDigits]

theorem takeDigits?_padded (hw : 0 < width) (hn : n < 10 ^ width) (rest : List Char) :
    takeDigits? width ((padded width n).toList ++ rest) = some (n, rest) := by
  have hlength := length_padded width hw hn
  have hdigits : (padded width n).toList.all Char.isDigit = true := List.all_eq_true.mpr fun _ => isDigit_of_mem_padded
  rw [takeDigits?, List.take_left' hlength, List.drop_left' hlength, foldl_padded, if_pos ⟨hlength, hdigits⟩]

end

/-! ## Characters -/

/-- What times of day and the sizes of offsets are written with. -/
def IsClockChar (c : Char) : Prop := c.isDigit = true ∨ c = ':' ∨ c = '.'

instance : DecidablePred IsClockChar := fun c => inferInstanceAs (Decidable (c.isDigit = true ∨ c = ':' ∨ c = '.'))

theorem IsClockChar.ne {c d : Char} (hc : IsClockChar c) (hd : ¬ IsClockChar d) : c ≠ d := by
  rintro rfl
  exact hd hc

theorem IsClockChar.not_sign {c : Char} (hc : IsClockChar c) : isZoneSign c = false := by
  rw [isZoneSign, Bool.or_eq_false_iff, decide_eq_false_iff_not, decide_eq_false_iff_not]
  exact ⟨hc.ne (by decide), hc.ne (by decide)⟩

theorem isClockChar_of_mem_padded {width n : Nat} {c : Char} (hc : c ∈ (padded width n).toList) : IsClockChar c :=
  .inl (isDigit_of_mem_padded hc)

theorem isClockChar_of_mem_microText {micro : Nat} {c : Char} (hc : c ∈ (Moment.microText micro).toList) :
    IsClockChar c := by
  rw [Moment.microText] at hc
  split at hc
  · cases hc
  · rw [String.toList_append, List.mem_append] at hc
    rcases hc with hc | hc
    · exact .inr (.inr (List.mem_singleton.mp hc))
    · exact isClockChar_of_mem_padded hc

/-! ## Times of day -/

section Clocks

variable {parts : List Nat} {left n micro : Nat} {rest : List Char}

theorem millionths_padded (micro : Nat) (hmicro : micro < 1000000) : millionths (padded 6 micro).toList = micro := by
  have hlength : (padded 6 micro).toList.length = 6 := length_padded 6 (by decide) hmicro
  rw [millionths, hlength, Nat.sub_self, List.replicate_zero, List.append_nil, foldl_padded]

theorem readDecimals?_padded (hmicro : micro < 1000000) :
    readDecimals? (padded 6 micro).toList = some (micro, true) := by
  have hlength : (padded 6 micro).toList.length = 6 := length_padded 6 (by decide) hmicro
  have hdigits : (padded 6 micro).toList.all Char.isDigit = true := List.all_eq_true.mpr fun _ => isDigit_of_mem_padded
  rw [readDecimals?, List.take_of_length_le (Nat.le_of_eq hlength), List.drop_of_length_le (Nat.le_of_eq hlength),
    if_pos hdigits, millionths_padded micro hmicro]
  rfl

/-- A part that a colon follows. -/
theorem readClockFrom?_colon (hn : n < 100) (hrest : rest ≠ []) :
    readClockFrom? true parts (left + 1) ((padded 2 n).toList ++ ':' :: rest) =
      readClockFrom? true (parts ++ [n]) left rest := by
  obtain ⟨c, rest, rfl⟩ := List.exists_cons_of_ne_nil hrest
  rw [readClockFrom?, takeDigits?_padded (by decide) hn]
  simp

/-- The last part, with its decimals if there are any. -/
theorem readClockFrom?_last (hn : n < 100) (hmicro : micro < 1000000) :
    readClockFrom? true parts (left + 1) ((padded 2 n).toList ++ (Moment.microText micro).toList) =
      some (.ofParts (parts ++ [n]) micro true) := by
  rw [readClockFrom?, takeDigits?_padded (by decide) hn, Moment.microText]
  by_cases hzero : micro = 0
  · subst hzero
    rfl
  · obtain ⟨c, cs, hcs, -⟩ := exists_padded_eq_cons 6 (by decide) hmicro
    have hread := readDecimals?_padded hmicro
    rw [if_neg hzero, String.toList_append, hcs]
    rw [hcs] at hread
    simp [hread]

/-- Hours and minutes. -/
theorem readClock?_minutes {hour minute : Nat} (hhour : hour < 100) (hminute : minute < 100) :
    readClock? ((padded 2 hour).toList ++ ':' :: (padded 2 minute).toList) = some ⟨hour, minute, 0, 0, true⟩ := by
  obtain ⟨c, cs, hcs, -⟩ := exists_padded_eq_cons 2 (by decide) hminute
  have hlast : readClockFrom? true [hour] 2 ((padded 2 minute).toList ++ (Moment.microText 0).toList) =
      some (.ofParts [hour, minute] 0 true) := readClockFrom?_last hminute (by decide)
  rw [readClock?, readClockFrom?_colon hhour (hcs ▸ List.cons_ne_nil c cs)]
  simpa [Moment.microText, Clock.ofParts] using hlast

/-- Hours, minutes and seconds with their decimals. -/
theorem readClock?_seconds {hour minute second : Nat} (hhour : hour < 100) (hminute : minute < 100)
    (hsecond : second < 100) (hmicro : micro < 1000000) :
    readClock? ((padded 2 hour).toList ++ ':' :: ((padded 2 minute).toList ++ ':' ::
      ((padded 2 second).toList ++ (Moment.microText micro).toList))) = some ⟨hour, minute, second, micro, true⟩ := by
  obtain ⟨c, cs, hcs, -⟩ := exists_padded_eq_cons 2 (by decide) hminute
  obtain ⟨d, ds, hds, -⟩ := exists_padded_eq_cons 2 (by decide) hsecond
  rw [readClock?, readClockFrom?_colon hhour (by simp), readClockFrom?_colon hminute (by simp [hds]),
    readClockFrom?_last hsecond hmicro]
  rfl

end Clocks

/-! ## Offsets -/

/-- The digits of an offset, without its sign. -/
def Moment.sizeText (size : Nat) : String :=
  padded 2 (size / 1000000 / 3600) ++ ":" ++ padded 2 (size / 1000000 / 60 % 60) ++
    if size % 60000000 = 0 then ""
    else ":" ++ padded 2 (size / 1000000 % 60) ++ Moment.microText (size % 1000000)

theorem Moment.offsetText_eq (offset : Int) :
    Moment.offsetText offset = (if offset < 0 then "-" else "+") ++ Moment.sizeText offset.natAbs := by
  simp [Moment.offsetText, Moment.sizeText, String.append_assoc]

theorem isClockChar_of_mem_sizeText {size : Nat} {c : Char} (hc : c ∈ (Moment.sizeText size).toList) :
    IsClockChar c := by
  simp only [Moment.sizeText, String.toList_append, List.mem_append] at hc
  rcases hc with ((hc | hc) | hc) | hc
  · exact isClockChar_of_mem_padded hc
  · exact .inr (.inl (List.mem_singleton.mp hc))
  · exact isClockChar_of_mem_padded hc
  · split at hc
    · cases hc
    · simp only [String.toList_append, List.mem_append] at hc
      rcases hc with (hc | hc) | hc
      · exact .inr (.inl (List.mem_singleton.mp hc))
      · exact isClockChar_of_mem_padded hc
      · exact isClockChar_of_mem_microText hc

theorem readClock?_sizeText {size : Nat} (hsize : size < 86400000000) :
    readClock? (Moment.sizeText size).toList =
      some ⟨size / 1000000 / 3600, size / 1000000 / 60 % 60, size / 1000000 % 60, size % 1000000, true⟩ := by
  have hhour : size / 1000000 / 3600 < 100 := by omega
  have hminute : size / 1000000 / 60 % 60 < 100 := by omega
  rw [Moment.sizeText]
  by_cases hminutes : size % 60000000 = 0
  · have hsecond : size / 1000000 % 60 = 0 := by omega
    have hmicro : size % 1000000 = 0 := by omega
    rw [if_pos hminutes, hsecond, hmicro]
    simpa using readClock?_minutes hhour hminute
  · have hsecond : size / 1000000 % 60 < 100 := by omega
    rw [if_neg hminutes]
    simpa using readClock?_seconds hhour hminute hsecond (Nat.mod_lt size (by decide))

theorem readOffset?_sizeText {size : Nat} (hsize : size < 86400000000) (hwhole : size = 0 ∨ 1000000 ≤ size)
    (west : Bool) : readOffset? west (Moment.sizeText size).toList = some (if west then -(size : Int) else size) := by
  have hseconds : size / 1000000 / 3600 * 3600 + size / 1000000 / 60 % 60 * 60 + size / 1000000 % 60 =
      size / 1000000 := by
    omega
  have hsize' : (if size / 1000000 = 0 then 0 else ((size / 1000000 * 1000000 + size % 1000000 : Nat) : Int)) =
      size := by
    split <;> omega
  rw [readOffset?, readClock?_sizeText hsize]
  simp only [Option.bind_eq_bind, Option.bind_some, if_true, hseconds, hsize']
  rfl

/-! ## Dates -/

theorem Date.isValid_lt {d : Date} (hd : d.isValid = true) : d.year < 10 ^ 4 ∧ d.month < 10 ^ 2 ∧ d.day < 10 ^ 2 := by
  obtain ⟨⟨-, hmonth, hday⟩, hyear⟩ := Date.isValid_iff.mp hd
  have hgreatest : greatestYear = 9999 := rfl
  have hlast : daysInMonth d.year d.month ≤ 31 := by
    unfold daysInMonth
    split <;> grind
  omega

theorem length_dateText {d : Date} (hd : d.isValid = true) : (Moment.dateText d).toList.length = 10 := by
  obtain ⟨hyear, hmonth, hday⟩ := Date.isValid_lt hd
  simp only [Moment.dateText, String.toList_append, List.length_append, length_padded 4 (by decide) hyear,
    length_padded 2 (by decide) hmonth, length_padded 2 (by decide) hday]
  rfl

theorem dateLength_dateText {d : Date} (hd : d.isValid = true) (rest : List Char) :
    dateLength ((Moment.dateText d).toList ++ rest) = 10 := by
  obtain ⟨hyear, hmonth, hday⟩ := Date.isValid_lt hd
  obtain ⟨c, cs, hcs, hc⟩ := exists_padded_eq_cons 2 (by decide) hmonth
  have hlength := length_padded 4 (by decide) hyear
  have htext : (Moment.dateText d).toList ++ rest =
      (padded 4 d.year).toList ++ '-' :: c :: (cs ++ '-' :: ((padded 2 d.day).toList ++ rest)) := by
    simp [Moment.dateText, hcs]
  have hfour : ((Moment.dateText d).toList ++ rest)[4]? = some '-' := by
    rw [htext, List.getElem?_append_right (Nat.le_of_eq hlength), hlength]
    rfl
  have hfive : ((Moment.dateText d).toList ++ rest)[5]? = some c := by
    rw [htext, List.getElem?_append_right (by rw [hlength]; decide), hlength]
    rfl
  have hlong : (Moment.dateText d).toList.length + rest.length ≠ 7 := by
    rw [length_dateText hd]
    omega
  have hweek : c ≠ 'W' := fun h => absurd (h ▸ hc) (by decide)
  simp [dateLength, hlong, hfour, hfive, hweek]

theorem readMonth?_padded (year : Nat) {month day : Nat} (hmonth : month < 10 ^ 2) (hday : day < 10 ^ 2) :
    readMonth? year true ((padded 2 month).toList ++ '-' :: (padded 2 day).toList) = some ⟨year, month, day⟩ := by
  have hread : takeDigits? 2 (padded 2 day).toList = some (day, []) := by
    simpa using takeDigits?_padded (by decide) hday []
  rw [readMonth?, takeDigits?_padded (by decide) hmonth]
  simp [afterChar?, hread]

theorem readDate?_dateText {d : Date} (hd : d.isValid = true) : readDate? (Moment.dateText d).toList = some d := by
  obtain ⟨hyear, hmonth, hday⟩ := Date.isValid_lt hd
  obtain ⟨c, cs, hcs, hc⟩ := exists_padded_eq_cons 2 (by decide) hmonth
  have hweek : c ≠ 'W' := fun h => absurd (h ▸ hc) (by decide)
  have htext : (Moment.dateText d).toList =
      (padded 4 d.year).toList ++ '-' :: ((padded 2 d.month).toList ++ '-' :: (padded 2 d.day).toList) := by
    simp [Moment.dateText]
  have hread := readMonth?_padded d.year hmonth hday
  rw [hcs] at hread
  rw [readDate?, htext, takeDigits?_padded (by decide) hyear, hcs]
  simpa [hweek] using hread

/-! ## Moments -/

namespace Moment

/-- Moments whose offset a text can tell: none at all, or a second or more in size. -/
structure IsLegible (m : Moment) : Prop where
  valid : m.isValid = true
  offset : ∀ o, m.offset = some o → o = 0 ∨ 1000000 ≤ o.natAbs

theorem isClockChar_of_mem_clock {m : Moment} {c : Char} (hc : c ∈ (m.clockText ++ microText m.micro).toList) :
    IsClockChar c := by
  simp only [clockText, String.toList_append, List.mem_append] at hc
  rcases hc with ((((hc | hc) | hc) | hc) | hc) | hc
  · exact isClockChar_of_mem_padded hc
  · exact .inr (.inl (List.mem_singleton.mp hc))
  · exact isClockChar_of_mem_padded hc
  · exact .inr (.inl (List.mem_singleton.mp hc))
  · exact isClockChar_of_mem_padded hc
  · exact isClockChar_of_mem_microText hc

theorem isValid_iff {m : Moment} :
    m.isValid = true ↔ m.date.isValid = true ∧ m.hour < 24 ∧ m.minute < 60 ∧ m.second < 60 ∧ m.micro < 1000000 ∧
      ∀ o, m.offset = some o → o.natAbs < 86400000000 := by
  have hday : microsOfDay = 86400000000 := rfl
  rw [isValid, hday]
  cases m.offset with
  | none => simp [and_assoc]
  | some o =>
      have hsize : (-86400000000 < o ∧ o < 86400000000) ↔ o.natAbs < 86400000000 := by omega
      simp [and_assoc, hsize]

theorem readClock?_clockText {m : Moment} (hm : m.isValid = true) :
    readClock? (m.clockText ++ microText m.micro).toList = some ⟨m.hour, m.minute, m.second, m.micro, true⟩ := by
  obtain ⟨-, hhour, hminute, hsecond, hmicro, -⟩ := isValid_iff.mp hm
  have hread : readClock? ((padded 2 m.hour).toList ++ ':' :: ((padded 2 m.minute).toList ++ ':' ::
      ((padded 2 m.second).toList ++ (microText m.micro).toList))) = some ⟨m.hour, m.minute, m.second, m.micro, true⟩ :=
    readClock?_seconds (by omega) (by omega) (by omega) hmicro
  simpa [clockText] using hread

/-- An offset is its sign and its size. -/
theorem exists_sign (offset : Int) :
    ∃ sign, isZoneSign sign = true ∧ (offsetText offset).toList = sign :: (sizeText offset.natAbs).toList ∧
      (if sign = '-' then -(offset.natAbs : Int) else offset.natAbs) = offset := by
  rw [offsetText_eq]
  by_cases hneg : offset < 0
  · refine ⟨'-', rfl, by simp [hneg], ?_⟩
    rw [if_pos rfl]
    omega
  · refine ⟨'+', rfl, by simp [hneg], ?_⟩
    rw [if_neg (by decide)]
    omega

theorem readTime?_text {m : Moment} (hm : m.IsLegible) :
    readTime? (m.clockText ++ microText m.micro ++ (m.offset.map offsetText).getD "").toList =
      some (⟨m.hour, m.minute, m.second, m.micro, true⟩, m.offset) := by
  have hclock := readClock?_clockText hm.valid
  have hplain : ∀ c ∈ (m.clockText ++ microText m.micro).toList, (!isZoneSign c) = true := fun c hc => by
    rw [(isClockChar_of_mem_clock hc).not_sign]
    rfl
  rw [readTime?, String.toList_append]
  cases hoffset : m.offset with
  | none =>
      have hnil : ((Option.map offsetText none).getD "").toList = [] := rfl
      rw [hnil, List.append_nil, List.takeWhile_eq_self_iff.mpr hplain, List.dropWhile_eq_nil_iff.mpr hplain, hclock]
      rfl
  | some o =>
      obtain ⟨sign, hsign, htext, hvalue⟩ := exists_sign o
      have hsize : o.natAbs < 86400000000 := (isValid_iff.mp hm.valid).2.2.2.2.2 o hoffset
      have hread := readOffset?_sizeText hsize (by simpa using hm.offset o hoffset) (sign = '-')
      rw [Option.map_some, Option.getD_some, htext, List.takeWhile_append_of_pos hplain,
        List.dropWhile_append_of_pos hplain, List.takeWhile_cons_of_neg (by simp [hsign]), List.append_nil,
        List.dropWhile_cons_of_neg (by simp [hsign]), hclock]
      simpa [hread] using hvalue

theorem text_eq (m : Moment) :
    m.text = dateText m.date ++ "T" ++ (m.clockText ++ microText m.micro ++ (m.offset.map offsetText).getD "") := by
  rw [text]
  cases m.offset <;> simp [String.append_assoc]

theorem read?_text {m : Moment} (hm : m.IsLegible) : read? m.text.toList = some m := by
  have hdate := (isValid_iff.mp hm.valid).1
  have hlength := length_dateText hdate
  have htext : m.text.toList = (dateText m.date).toList ++
      'T' :: (m.clockText ++ microText m.micro ++ (m.offset.map offsetText).getD "").toList := by
    rw [text_eq, String.toList_append, String.toList_append, List.append_assoc]
    rfl
  have hlong : ¬ (dateText m.date).toList.length +
      ('T' :: (m.clockText ++ microText m.micro ++ (m.offset.map offsetText).getD "").toList).length < 7 := by omega
  rw [read?, htext, dateLength_dateText hdate, List.length_append, if_neg hlong]
  simp only [List.take_left' hlength, List.drop_left' hlength, readDate?_dateText hdate, readTime?_text hm,
    Option.bind_eq_bind, Option.bind_some]
  exact if_pos hm.valid

theorem ne_zulu_of_mem_dateText {d : Date} {c : Char} (hc : c ∈ (dateText d).toList) : c ≠ 'Z' := by
  simp only [dateText, String.toList_append, List.mem_append] at hc
  rcases hc with (((hc | hc) | hc) | hc) | hc
  · exact (isClockChar_of_mem_padded hc).ne (by decide)
  · exact List.mem_singleton.mp hc ▸ by decide
  · exact (isClockChar_of_mem_padded hc).ne (by decide)
  · exact List.mem_singleton.mp hc ▸ by decide
  · exact (isClockChar_of_mem_padded hc).ne (by decide)

theorem ne_zulu_of_mem_offsetText {offset : Int} {c : Char} (hc : c ∈ (offsetText offset).toList) : c ≠ 'Z' := by
  obtain ⟨sign, hsign, htext, -⟩ := exists_sign offset
  rw [htext, List.mem_cons] at hc
  rcases hc with rfl | hc
  · rintro rfl
    cases hsign
  · exact (isClockChar_of_mem_sizeText hc).ne (by decide)

/-- No `Z` stands in a text that was written. -/
theorem ne_zulu_of_mem_text {m : Moment} {c : Char} (hc : c ∈ m.text.toList) : c ≠ 'Z' := by
  rw [text_eq, String.toList_append, String.toList_append, String.toList_append, List.mem_append, List.mem_append,
    List.mem_append] at hc
  rcases hc with (hc | hc) | hc | hc
  · exact ne_zulu_of_mem_dateText hc
  · exact List.mem_singleton.mp hc ▸ by decide
  · exact (isClockChar_of_mem_clock hc).ne (by decide)
  · cases hoffset : m.offset with
    | none =>
        rw [hoffset] at hc
        cases hc
    | some o =>
        rw [hoffset] at hc
        exact ne_zulu_of_mem_offsetText hc

theorem zuluWritten_eq_self {cs : List Char} (hcs : ∀ c ∈ cs, c ≠ 'Z') : zuluWritten cs = cs := by
  induction cs with
  | nil => rfl
  | cons c cs ih =>
      have hrest := ih fun d hd => hcs d (List.mem_cons_of_mem c hd)
      rw [zuluWritten] at hrest
      rw [zuluWritten, List.flatMap_cons, if_neg (hcs c List.mem_cons_self), hrest]
      rfl

/-- A moment that a text can tell is read from its own text. -/
theorem ofStamp?_text {m : Moment} (hm : m.IsLegible) : ofStamp? m.text = some m := by
  rw [ofStamp?, zuluWritten_eq_self fun _ => ne_zulu_of_mem_text, read?_text hm]

/-! ## What is read -/

theorem readOffset?_spec {west : Bool} {cs : List Char} {offset : Int} (hread : readOffset? west cs = some offset) :
    offset = 0 ∨ 1000000 ≤ offset.natAbs := by
  simp only [readOffset?, Option.bind_eq_bind, Option.bind_eq_some_iff] at hread
  obtain ⟨clock, -, hread⟩ := hread
  split at hread
  · cases hread
    split <;> split <;> omega
  · cases hread

theorem readTime?_spec {cs : List Char} {clock : Clock} {offset : Int}
    (hread : readTime? cs = some (clock, some offset)) : offset = 0 ∨ 1000000 ≤ offset.natAbs := by
  simp only [readTime?, Option.bind_eq_bind, Option.bind_eq_some_iff] at hread
  obtain ⟨clock, -, hread⟩ := hread
  split at hread
  · split at hread <;> cases hread
  · obtain ⟨offset', hoffset, hread⟩ := Option.bind_eq_some_iff.mp hread
    cases hread
    exact readOffset?_spec hoffset

theorem make?_eq_some {date : Date} {clock : Clock} {offset : Option Int} {m : Moment}
    (hmake : make? date clock offset = some m) : m.isValid = true ∧ m.offset = offset := by
  rw [make?] at hmake
  split at hmake
  · cases hmake
    exact ⟨‹_›, rfl⟩
  · cases hmake

theorem isLegible_of_read? {m : Moment} {cs : List Char} (hread : read? cs = some m) : m.IsLegible := by
  rw [read?] at hread
  split at hread
  · cases hread
  · simp only [Option.bind_eq_bind, Option.bind_eq_some_iff] at hread
    obtain ⟨date, -, hread⟩ := hread
    split at hread
    · obtain ⟨hvalid, hoffset⟩ := make?_eq_some hread
      exact ⟨hvalid, fun o ho => by cases hoffset.symm.trans ho⟩
    · obtain ⟨⟨clock, offset⟩, htime, hread⟩ := Option.bind_eq_some_iff.mp hread
      obtain ⟨hvalid, rfl⟩ := make?_eq_some hread
      refine ⟨hvalid, fun o ho => ?_⟩
      rw [ho] at htime
      exact readTime?_spec htime

end Moment

/-! ## Moments of seconds -/

namespace Moment

variable {n : Int} {m : Moment}

/-- The first second of the first of January of the year 1. -/
def firstSecond : Int := -62135596800

/-- The last second of the year 9999. -/
def lastSecond : Int := 253402300799

/-- The moment in universal time of a day, a second of the day and a millionth of the second. -/
def onDay (day second micro : Nat) : Moment :=
  ⟨Date.ofNumber day, second / 3600, second / 60 % 60, second % 60, micro, some 0⟩

theorem isValid_onDay {day second micro : Nat} (hday : (Date.ofNumber day).year ≤ greatestYear)
    (hsecond : second < 86400) (hmicro : micro < 1000000) : (onDay day second micro).isValid = true := by
  have hhour : second / 3600 < 24 := by omega
  have hminute : second / 60 % 60 < 60 := Nat.mod_lt _ (by decide)
  refine isValid_iff.mpr ⟨Date.isValid_iff.mpr ⟨(Date.ofNumber_spec day).1, hday⟩, hhour, hminute,
    Nat.mod_lt second (by decide), hmicro, ?_⟩
  rintro o ⟨⟩
  decide

theorem micros_onDay (day second micro : Nat) :
    (onDay day second micro).micros = ((day : Int) - epochDay) * microsOfDay + (second * 1000000 + micro : Nat) := by
  have hsecond : (second / 3600 * 60 + second / 60 % 60) * 60 + second % 60 = second := by omega
  simp only [micros, localMicros, onDay, Date.number_ofNumber, hsecond, Option.getD_some, Int.sub_zero]

theorem year_ofNumber_le_greatest_iff (second : Int) :
    (Date.ofNumber (second / 86400 + epochDay).toNat).year ≤ greatestYear ↔ second ≤ lastSecond := by
  have hend : daysBeforeYear (greatestYear + 1) = 3652059 := rfl
  rw [Date.year_ofNumber_le_iff, hend, lastSecond, epochDay]
  omega

/-- A number of millionths of a second has a moment as far as the calendar goes. -/
theorem ofMicros_eq_ok_iff :
    ofMicros n = .ok m ↔ firstSecond ≤ n / 1000000 ∧ n / 1000000 ≤ lastSecond ∧
      m = onDay (n / 1000000 / 86400 + epochDay).toNat (n / 1000000 % 86400).toNat (n % 1000000).toNat := by
  have hsecond : n.fdiv 1000000 = n / 1000000 := Int.fdiv_eq_ediv_of_nonneg n (by decide)
  have hmicro : n.fmod 1000000 = n % 1000000 := Int.fmod_eq_emod_of_nonneg n (by decide)
  have hday : (n / 1000000).fdiv 86400 = n / 1000000 / 86400 := Int.fdiv_eq_ediv_of_nonneg _ (by decide)
  have hclock : (n / 1000000).fmod 86400 = n / 1000000 % 86400 := Int.fmod_eq_emod_of_nonneg _ (by decide)
  have hyear := year_ofNumber_le_greatest_iff (n / 1000000)
  rw [ofMicros, hsecond, hmicro, hday, hclock]
  generalize n / 1000000 = second at *
  dsimp only
  unfold firstSecond lastSecond wordReach earliestSecond latestSecond epochDay at *
  split
  · refine iff_of_false nofun fun ⟨hfirst, hlast, _⟩ => ?_
    omega
  split
  · refine iff_of_false nofun fun ⟨hfirst, hlast, _⟩ => ?_
    omega
  split
  · refine iff_of_false nofun fun ⟨hfirst, _, _⟩ => ?_
    omega
  split
  · rename_i hlate
    exact iff_of_false nofun fun ⟨_, hlast, _⟩ => Nat.not_lt_of_le (hyear.mpr hlast) hlate
  constructor
  · rintro ⟨⟩
    exact ⟨by omega, hyear.mp (Nat.le_of_not_lt ‹_›), rfl⟩
  · rintro ⟨-, -, rfl⟩
    rfl

theorem ofMicros_spec (hm : ofMicros n = .ok m) : m.isValid = true ∧ m.offset = some 0 ∧ m.micros = n := by
  obtain ⟨hfirst, hlast, rfl⟩ := ofMicros_eq_ok_iff.mp hm
  refine ⟨isValid_onDay ((year_ofNumber_le_greatest_iff _).mpr hlast) (by omega) (by omega), rfl, ?_⟩
  rw [micros_onDay, microsOfDay]
  unfold firstSecond epochDay at *
  omega

theorem isLegible_of_ofMicros (hm : ofMicros n = .ok m) : m.IsLegible := by
  obtain ⟨hvalid, hoffset, -⟩ := ofMicros_spec hm
  exact ⟨hvalid, fun o ho => .inl (Option.some.inj (ho.symm.trans hoffset))⟩

theorem exists_ofSeconds_iff : (∃ m, ofSeconds n = .ok m) ↔ firstSecond ≤ n ∧ n ≤ lastSecond := by
  have hn : n * 1000000 / 1000000 = n := Int.mul_ediv_cancel n (by decide)
  simp [ofSeconds, ofMicros_eq_ok_iff, hn]

end Moment

end RepoCensus.Calendar
