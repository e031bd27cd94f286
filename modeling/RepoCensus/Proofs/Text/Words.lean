import RepoCensus.Text.Blank
import RepoCensus.Text.Fields

/-!
# Words and fields of a text

The words that a text is cut into are those that stand in it between blanks or at its ends. A separator cuts a text into
the fields before it and the fields after it.
-/

namespace RepoCensus.Text

/-! ## Words -/

/-- A word stands in a text with nothing or a blank on either side. -/
def StandsIn (w cs : List Char) : Prop :=
  ∃ start rest, cs = start ++ w ++ rest ∧ start.getLast?.all isBlank ∧ rest.head?.all isBlank

variable {w cs word : List Char} {c : Char}

theorem StandsIn.append (h : StandsIn w cs) (front : List Char) (hc : isBlank c) :
    StandsIn w (front ++ c :: cs) := by
  obtain ⟨start, rest, rfl, hstart, hrest⟩ := h
  refine ⟨front ++ c :: start, rest, by simp, ?_, hrest⟩
  cases hlast : start.getLast? with
  | none => simp [List.getLast?_cons, hlast, hc]
  | some d =>
      have hd : isBlank d := by simpa [hlast] using hstart
      simp [List.getLast?_cons, hlast, hd]

theorem standsIn_of_mem_wordsFrom (h : w ∈ wordsFrom word cs) : StandsIn w (word.reverse ++ cs) := by
  induction cs generalizing word with
  | nil =>
      have hw : w = word.reverse := by
        unfold wordsFrom at h
        split at h
        · contradiction
        · exact List.mem_singleton.mp h
      exact ⟨[], [], by simp [hw], rfl, rfl⟩
  | cons c cs ih =>
      unfold wordsFrom at h
      split at h
      · rename_i hblank
        split at h
        · exact (ih h).append word.reverse hblank
        · rcases List.mem_cons.mp h with rfl | h
          · exact ⟨[], c :: cs, rfl, rfl, hblank⟩
          · exact (ih h).append word.reverse hblank
      · simpa using ih h

theorem wordsFrom_append_blank (hc : isBlank c) (xs ys : List Char) :
    wordsFrom word (xs ++ c :: ys) = wordsFrom word xs ++ words ys := by
  induction xs generalizing word with
  | nil => by_cases hword : word.isEmpty <;> simp [wordsFrom, words, hc, hword]
  | cons x xs ih =>
      rw [List.cons_append, wordsFrom, wordsFrom]
      split
      · split
        · exact ih
        · rw [ih, List.cons_append]
      · exact ih

theorem wordsFrom_of_unblank (hcs : ∀ c ∈ cs, ¬ isBlank c) (hne : word.reverse ++ cs ≠ []) :
    wordsFrom word cs = [word.reverse ++ cs] := by
  induction cs generalizing word with
  | nil => simpa [wordsFrom] using hne
  | cons c cs ih =>
      have hc : ¬ isBlank c := hcs c (List.mem_cons_self ..)
      rw [wordsFrom, if_neg hc, ih (fun d hd => hcs d (List.mem_cons_of_mem _ hd)) (by simp)]
      simp

/-- The words of a text that are not empty and hold no blank are those that stand in it. -/
theorem mem_words_iff (hne : w ≠ []) (hw : ∀ c ∈ w, ¬ isBlank c) : w ∈ words cs ↔ StandsIn w cs := by
  refine ⟨standsIn_of_mem_wordsFrom, ?_⟩
  rintro ⟨start, rest, rfl, hstart, hrest⟩
  have hself : wordsFrom [] w = [w] := wordsFrom_of_unblank hw hne
  have hahead : w ∈ words (w ++ rest) := by
    cases rest with
    | nil => simp [words, hself]
    | cons c rest => simp [words, wordsFrom_append_blank hrest, hself]
  rcases List.eq_nil_or_concat start with rfl | ⟨front, c, rfl⟩
  · exact hahead
  · have hc : isBlank c := by simpa using hstart
    have hcut : words (front.concat c ++ w ++ rest) = words front ++ words (w ++ rest) := by
      simp [words, wordsFrom_append_blank hc]
    rw [hcut]
    exact List.mem_append_right _ hahead

/-! ## Fields -/

variable {sep : Char} {ds : List Char}

theorem fields_cons_of_ne (cs : List Char) {c : Char} (h : c ≠ sep) : ∃ f rest, fields sep cs = f :: rest ∧
    fields sep (c :: cs) = (c :: f) :: rest := by
  cases hf : fields sep cs with
  | nil => exact absurd hf (fields_ne_nil sep cs)
  | cons f rest => exact ⟨f, rest, rfl, by simp [fields, h, hf]⟩

theorem fields_append_cons (sep : Char) (cs ds : List Char) :
    fields sep (cs ++ sep :: ds) = fields sep cs ++ fields sep ds := by
  induction cs with
  | nil => simp [fields]
  | cons c cs ih =>
      by_cases h : c = sep
      · simp [fields, h, ih]
      · obtain ⟨f, rest, hf, hcons⟩ := fields_cons_of_ne cs h
        obtain ⟨f', rest', hf', hcons'⟩ := fields_cons_of_ne (cs ++ sep :: ds) h
        rw [ih, hf, List.cons_append, List.cons.injEq] at hf'
        rw [List.cons_append, hcons, hcons', ← hf'.1, ← hf'.2, List.cons_append]

theorem fields_of_not_mem (h : sep ∉ cs) : fields sep cs = [cs] := by
  induction cs with
  | nil => rfl
  | cons c cs ih =>
      simp only [List.mem_cons, not_or] at h
      simp [fields, Ne.symm h.1, ih h.2]

theorem fields_injective (h : fields sep cs = fields sep ds) : cs = ds := by
  rw [← joined_fields sep cs, h, joined_fields]

end RepoCensus.Text
