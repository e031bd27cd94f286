import Mathlib.Data.List.Find
import RepoCensus.Http.Link
import RepoCensus.Proofs.Text.Words

/-!
# Links as they are written

A service writes its links as `<url>; rel="..."` with a comma between them. Whatever the targets contain, the links are
read as they were written if no parameter holds a comma or two semicolons in a row; so the next page is the first one
that is related as such.
-/

namespace RepoCensus.Link

open RepoCensus.Text

/-! ## Writing -/

structure Param where
  name : String
  value : String

/-- A parameter as it is written, without the quotation mark that closes it. -/
def Param.openText (p : Param) : List Char := ';' :: ' ' :: (p.name.toList ++ '=' :: '"' :: p.value.toList)

/-- A parameter as it is written: `; name="value"`. -/
def Param.text (p : Param) : List Char := p.openText ++ ['"']

def paramsText (ps : List Param) : List Char := ps.flatMap Param.text

@[simp] theorem paramsText_nil : paramsText [] = [] := rfl

@[simp] theorem paramsText_cons (p : Param) (ps : List Param) : paramsText (p :: ps) = p.text ++ paramsText ps := rfl

@[simp] theorem paramsText_append (ps qs : List Param) : paramsText (ps ++ qs) = paramsText ps ++ paramsText qs :=
  List.flatMap_append

def Target.text (t : Target) : List Char := '<' :: (t.url ++ '>' :: t.params)

/-- Links as they are written in one header, with a comma and a space between them. -/
def headerText : List Target → List Char
  | [] => []
  | [t] => t.text
  | t :: ts => t.text ++ ',' :: ' ' :: headerText ts

def header (ts : List Target) : String := String.ofList (headerText ts)

/-- A link that tells how its target is related to the page. -/
structure Relation where
  url : String
  rel : String

namespace Relation

def param (r : Relation) : Param := ⟨"rel", r.rel⟩

def target (r : Relation) : Target := ⟨r.url.toList, paramsText [r.param]⟩

/-- The next page is among the relations, which have blanks between them. -/
def IsNext (r : Relation) : Prop := StandsIn ['n', 'e', 'x', 't'] r.rel.toList

theorem mem_words_rel_iff {r : Relation} : ['n', 'e', 'x', 't'] ∈ words r.rel.toList ↔ r.IsNext :=
  mem_words_iff (by decide) (List.any_eq_false.mp (by decide))

instance : DecidablePred IsNext := fun _ => decidable_of_iff _ mem_words_rel_iff

end Relation

/-! ## How far parameters reach -/

/-- What belongs to the parameters of a text that starts within them. -/
def reach (cs : List Char) : List Char := cs.takeWhile isParamChar ++ paramsAt (cs.dropWhile isParamChar)

/-- Whether parameters go on with a character before others. -/
def goesOn (c : Char) (cs : List Char) : Bool := isParamChar c || c == ';' && cs.head?.any isParamChar

/-- Parameters reach through the text. -/
def Whole (cs : List Char) : Prop := ',' ∉ cs ∧ ¬ [';', ';'] <:+: cs

theorem paramsAt_of_ne {c : Char} (h : c ≠ ';') (cs : List Char) : paramsAt (c :: cs) = [] := by
  unfold paramsAt
  split
  · simp_all
  · rfl

theorem paramsAt_eq_reach (cs : List Char) : paramsAt (';' :: cs) = reach (';' :: cs) := by
  simp [reach, isParamChar]

@[simp] theorem reach_nil : reach [] = [] := by simp [reach, paramsAt]

theorem reach_cons (c : Char) (cs : List Char) : reach (c :: cs) = if goesOn c cs then c :: reach cs else [] := by
  by_cases hc : isParamChar c
  · simp [reach, goesOn, hc]
  · by_cases hsemi : c = ';'
    · subst hsemi
      rw [← paramsAt_eq_reach]
      cases cs with
      | nil => simp [paramsAt, goesOn, hc]
      | cons d ds =>
          by_cases hd : isParamChar d
          · simp [paramsAt, goesOn, hc, hd, reach]
          · simp [paramsAt, goesOn, hc, hd]
    · simp [reach, goesOn, hc, hsemi, paramsAt_of_ne hsemi]

theorem whole_nil : Whole [] := ⟨by simp, by simp⟩

theorem whole_cons {c : Char} {cs : List Char} :
    Whole (c :: cs) ↔ c ≠ ',' ∧ (c = ';' → cs.head? ≠ some ';') ∧ Whole cs := by
  have hpair : [';', ';'] <+: c :: cs ↔ c = ';' ∧ cs.head? = some ';' := by
    cases cs <;> simp [eq_comm]
  simp only [Whole, List.mem_cons, List.infix_cons_iff, hpair]
  grind

theorem whole_of_not_mem {cs : List Char} (hcomma : ',' ∉ cs) (hsemi : ';' ∉ cs) : Whole cs :=
  ⟨hcomma, fun hpair => hsemi (hpair.subset (by simp))⟩

theorem isParamChar_iff {c : Char} : isParamChar c ↔ c ≠ ';' ∧ c ≠ ',' := by
  simp [isParamChar]

theorem goesOn_iff {c : Char} {cs : List Char} :
    goesOn c cs ↔ c ≠ ',' ∧ (c = ';' → cs.head?.any isParamChar) := by
  by_cases hc : c = ';'
  · simp [goesOn, isParamChar, hc]
  · simp [goesOn, isParamChar, hc]

/-- Parameters that reach through a text go on behind it, if that goes on with a character of theirs. -/
theorem reach_append_of_whole {cs rest : List Char} (h : Whole cs) (hrest : rest.head?.any isParamChar) :
    reach (cs ++ rest) = cs ++ reach rest := by
  induction cs with
  | nil => rfl
  | cons c cs ih =>
      obtain ⟨hcomma, hpair, hcs⟩ := whole_cons.mp h
      have hgo : goesOn c (cs ++ rest) := by
        refine goesOn_iff.mpr ⟨hcomma, fun hsemi => ?_⟩
        cases cs with
        | nil => exact hrest
        | cons d ds =>
            have hd := (whole_cons.mp hcs).1
            simpa [isParamChar, hd] using hpair hsemi
      rw [List.cons_append, reach_cons, if_pos hgo, ih hcs]
      rfl

/-- If they do not reach through it, what is behind it does not matter. -/
theorem reach_append_of_not_whole {cs : List Char} (h : ¬ Whole cs) (rest : List Char) :
    reach (cs ++ rest) = reach cs := by
  induction cs with
  | nil => exact absurd whole_nil h
  | cons c cs ih =>
      rw [List.cons_append, reach_cons, reach_cons]
      cases cs with
      | nil =>
          have hcomma : c = ',' := by simpa [whole_cons, whole_nil] using h
          simp [goesOn, isParamChar, hcomma]
      | cons d ds =>
          have hsame : goesOn c (d :: ds ++ rest) = goesOn c (d :: ds) := rfl
          rw [hsame]
          split
          · rename_i hgo
            obtain ⟨hcomma, hpair⟩ := goesOn_iff.mp hgo
            have hne : c = ';' → d ≠ ';' := fun hsemi =>
              (isParamChar_iff.mp (by simpa using hpair hsemi)).1
            have hcs : ¬ Whole (d :: ds) := fun hcs => h (whole_cons.mpr ⟨hcomma, by simpa using hne, hcs⟩)
            rw [ih hcs]
          · rfl

/-! ## Links one after another -/

theorem targets_cons_of_ne {c : Char} (h : c ≠ '<') (cs : List Char) : targets (c :: cs) = targets cs := by
  rw [targets, if_neg h]

theorem targets_link {url rest : List Char} (hurl : '>' ∉ url) (hrest : rest.head?.all fun c => !isBlank c) :
    targets ('<' :: (url ++ '>' :: rest)) = ⟨url, paramsAt rest⟩ :: targets (rest.drop (paramsAt rest).length) := by
  have htake : (url ++ '>' :: rest).takeWhile (· ≠ '>') = url := by
    rw [List.takeWhile_append_of_pos (by simpa using fun c hc => ne_of_mem_of_not_mem hc hurl)]
    simp
  have hdrop : (url ++ '>' :: rest).drop (url.length + 1) = rest := by
    simp [List.drop_append]
  have hblank : rest.takeWhile isBlank = [] := by
    cases rest with
    | nil => rfl
    | cons c cs =>
        have hc : isBlank c = false := by simpa using hrest
        simp [hc]
  have hclosed : url.length < (url ++ '>' :: rest).length := by simp
  have htarget : targetAt? (url ++ '>' :: rest) =
      some (⟨url, paramsAt rest⟩, url.length + 1 + (paramsAt rest).length) := by
    simp only [targetAt?, htake, hdrop, hblank, hclosed, if_true, List.length_nil, List.drop_zero, Nat.add_zero]
  rw [targets, if_pos rfl, htarget]
  simp [← List.drop_drop, hdrop]

theorem Whole.of_infix {cs ds : List Char} (h : Whole ds) (hin : cs <:+: ds) : Whole cs :=
  ⟨fun hmem => h.1 (hin.subset hmem), fun hpair => h.2 (hpair.trans hin)⟩

theorem reach_text_append {p : Param} (h : Whole p.text) (rest : List Char) :
    reach (p.text ++ rest) = p.text ++ reach rest := by
  have hopen : Whole p.openText := h.of_infix (List.prefix_append ..).isInfix
  have hmark : reach ('"' :: rest) = '"' :: reach rest := by
    simp [reach_cons, goesOn, isParamChar]
  rw [Param.text, List.append_assoc, List.singleton_append, reach_append_of_whole hopen rfl, hmark]
  simp

theorem reach_paramsText_append {ps : List Param} (h : ∀ p ∈ ps, Whole p.text) (rest : List Char) :
    reach (paramsText ps ++ rest) = paramsText ps ++ reach rest := by
  induction ps with
  | nil => rfl
  | cons p ps ih =>
      have hps := ih fun p hp => h p (List.mem_cons_of_mem _ hp)
      rw [paramsText_cons, List.append_assoc, reach_text_append (h p (List.mem_cons_self ..)), hps, List.append_assoc]

/-- What follows a link: nothing, or the comma before the next one. -/
def EndsLink (rest : List Char) : Prop := rest = [] ∨ ∃ cs, rest = ',' :: cs

theorem EndsLink.paramsAt_eq_nil {rest : List Char} (h : EndsLink rest) : paramsAt rest = [] := by
  rcases h with rfl | ⟨cs, rfl⟩
  · simp [paramsAt]
  · exact paramsAt_of_ne (by decide) cs

theorem EndsLink.reach_eq_nil {rest : List Char} (h : EndsLink rest) : reach rest = [] := by
  rcases h with rfl | ⟨cs, rfl⟩
  · exact reach_nil
  · simp [reach_cons, goesOn, isParamChar]

theorem paramsAt_paramsText_append {ps : List Param} (h : ∀ p ∈ ps, Whole p.text) {rest : List Char}
    (hrest : EndsLink rest) : paramsAt (paramsText ps ++ rest) = paramsText ps := by
  cases ps with
  | nil => exact hrest.paramsAt_eq_nil
  | cons p ps =>
      have hreach := reach_paramsText_append h rest
      rw [hrest.reach_eq_nil, List.append_nil] at hreach
      exact (paramsAt_eq_reach _).trans hreach

/-- A link that can be read among others: its brackets and its parameters end where they are meant to. -/
def Target.IsLegible (t : Target) : Prop :=
  '>' ∉ t.url ∧ ∃ ps, (∀ p ∈ ps, Whole p.text) ∧ t.params = paramsText ps

theorem targets_text_append {t : Target} (h : t.IsLegible) {rest : List Char} (hrest : EndsLink rest) :
    targets (t.text ++ rest) = t :: targets rest := by
  obtain ⟨hurl, ps, hps, hparams⟩ := h
  have hreads : paramsAt (t.params ++ rest) = t.params := hparams ▸ paramsAt_paramsText_append hps hrest
  have hunblank : (t.params ++ rest).head?.all fun c => !isBlank c := by
    cases ps with
    | nil =>
        rw [hparams]
        rcases hrest with rfl | ⟨cs, rfl⟩
        · rfl
        · exact (by decide : (!isBlank ',') = true)
    | cons p ps =>
        rw [hparams]
        exact (by decide : (!isBlank ';') = true)
  have htext : t.text ++ rest = '<' :: (t.url ++ '>' :: (t.params ++ rest)) := by simp [Target.text]
  rw [htext, targets_link hurl hunblank, hreads]
  simp

/-- Links that are written in a header are read as they were written. -/
theorem targets_headerText {ts : List Target} (h : ∀ t ∈ ts, t.IsLegible) : targets (headerText ts) = ts := by
  induction ts with
  | nil => rw [headerText, targets]
  | cons t ts ih =>
      have ht : t.IsLegible := h t (List.mem_cons_self ..)
      have hts : targets (headerText ts) = ts := ih fun t ht => h t (List.mem_cons_of_mem _ ht)
      cases ts with
      | nil => simpa [headerText, targets] using targets_text_append ht (.inl rfl)
      | cons t' ts =>
          rw [headerText, targets_text_append ht (.inr ⟨_, rfl⟩), targets_cons_of_ne (by decide),
            targets_cons_of_ne (by decide), hts]
          simp

theorem next?_header {α : Type} {xs : List α} {f : α → Target} (h : ∀ a ∈ xs, (f a).IsLegible) :
    next? (some (header (xs.map f))) = (xs.find? fun a => (f a).isNext).map fun a => String.ofList (f a).url := by
  have hlegible : ∀ t ∈ xs.map f, t.IsLegible := by
    intro t ht
    obtain ⟨a, ha, rfl⟩ := List.mem_map.mp ht
    exact h a ha
  rw [next?, Option.bind_some, header, String.toList_ofList, targets_headerText hlegible, List.find?_map,
    Option.map_map]
  rfl

/-! ## What is read of a relation -/

theorem takeWhile_isValueChar {value : List Char} (hquote : '"' ∉ value) (hsemi : ';' ∉ value) :
    (value ++ ['"']).takeWhile isValueChar = value := by
  have hvalue : ∀ c ∈ value, isValueChar c := fun c hc => by
    simp [isValueChar, ne_of_mem_of_not_mem hc hquote, ne_of_mem_of_not_mem hc hsemi]
  rw [List.takeWhile_append_of_pos hvalue]
  simp [isValueChar]

theorem valueWords?_quoted {value : List Char} (hquote : '"' ∉ value) (hsemi : ';' ∉ value) :
    valueWords? ('"' :: (value ++ ['"'])) = if value = [] then none else some (words value) := by
  have hmark : isBlank '"' = false := by decide
  simp [valueWords?, hmark, takeWhile_isValueChar hquote hsemi]

theorem relationAt?_of_ne {c : Char} (h : c ≠ 'r') (cs : List Char) : relationAt? (c :: cs) = none := by
  unfold relationAt?
  split
  · rename_i hr
    exact absurd (List.cons.inj hr).1 h
  · rfl

theorem relation?_cons_of_ne {c : Char} (h : c ≠ 'r') (cs : List Char) : relation? (c :: cs) = relation? cs := by
  rw [relation?, relationAt?_of_ne h, Option.none_or]

theorem relation?_param {r : Relation} (hquote : '"' ∉ r.rel.toList) (hsemi : ';' ∉ r.rel.toList) :
    relation? (paramsText [r.param]) = if r.rel.toList = [] then none else some (words r.rel.toList) := by
  have htext : paramsText [r.param] =
      ';' :: ' ' :: 'r' :: 'e' :: 'l' :: '=' :: '"' :: (r.rel.toList ++ ['"']) := by
    simp [Param.text, Param.openText, Relation.param]
  have hat : relationAt? ('r' :: 'e' :: 'l' :: '=' :: '"' :: (r.rel.toList ++ ['"'])) =
      if r.rel.toList = [] then none else some (words r.rel.toList) := by
    have hequals : isBlank '=' = false := by decide
    simp only [relationAt?, List.dropWhile_cons, hequals, Bool.false_eq_true, if_false,
      valueWords?_quoted hquote hsemi]
  rw [htext, relation?_cons_of_ne (by decide), relation?_cons_of_ne (by decide), relation?, hat]
  split
  · rename_i hnone
    rw [hnone]
    rfl
  · rfl

theorem isNext_target_iff {r : Relation} (hquote : '"' ∉ r.rel.toList) (hsemi : ';' ∉ r.rel.toList) :
    r.target.isNext ↔ r.IsNext := by
  rw [Target.isNext, Relation.target, relation?_param hquote hsemi, ← Relation.mem_words_rel_iff]
  split
  · rename_i hnone
    simp [hnone, words, wordsFrom]
  · simp

theorem whole_param {r : Relation} (hcomma : ',' ∉ r.rel.toList) (hsemi : ';' ∉ r.rel.toList) : Whole r.param.text := by
  have hrest : ∀ c ∈ [',', ';'], c ∉ ' ' :: ("rel".toList ++ '=' :: '"' :: (r.rel.toList ++ ['"'])) := by
    simp [hcomma, hsemi]
  have htext : r.param.text = ';' :: ' ' :: ("rel".toList ++ '=' :: '"' :: (r.rel.toList ++ ['"'])) := by
    simp [Param.text, Param.openText, Relation.param]
  rw [htext]
  exact whole_cons.mpr ⟨by decide, fun _ => by simp, whole_of_not_mem (hrest ',' (by simp)) (hrest ';' (by simp))⟩

theorem isLegible_target {r : Relation} (hurl : '>' ∉ r.url.toList) (hwhole : Whole r.param.text) : r.target.IsLegible :=
  ⟨hurl, [r.param], fun _ hp => List.mem_singleton.mp hp ▸ hwhole, rfl⟩

/-- The next page is the target of the first link that is related as such, whatever is written between the brackets. -/
theorem reads_first_related_as_next {rs : List Relation} (hurl : ∀ r ∈ rs, '>' ∉ r.url.toList)
    (hrel : ∀ r ∈ rs, '"' ∉ r.rel.toList ∧ ';' ∉ r.rel.toList ∧ ',' ∉ r.rel.toList) :
    next? (some (header (rs.map Relation.target))) = (rs.find? fun r => r.IsNext).map Relation.url := by
  have hlegible : ∀ r ∈ rs, r.target.IsLegible := fun r hr =>
    isLegible_target (hurl r hr) (whole_param (hrel r hr).2.2 (hrel r hr).2.1)
  have hnext : ∀ r ∈ rs, r.target.isNext = decide r.IsNext := fun r hr =>
    Bool.eq_iff_iff.mpr ((isNext_target_iff (hrel r hr).1 (hrel r hr).2.1).trans decide_eq_true_iff.symm)
  rw [next?_header hlegible, List.find?_congr hnext]
  simp [Relation.target]

/-- Links of which the first one has in its target all that separates links. -/
def crowded : List Relation :=
  [⟨"https://h/a, <b; rel=\"next\"", "prev"⟩, ⟨"https://h/x?page=3", "last next"⟩, ⟨"https://h/y", "next"⟩]

theorem reads_first_related_as_next_of_crowded :
    (∀ r ∈ crowded, '>' ∉ r.url.toList) ∧
      (∀ r ∈ crowded, '"' ∉ r.rel.toList ∧ ';' ∉ r.rel.toList ∧ ',' ∉ r.rel.toList) ∧
      next? (some (header (crowded.map Relation.target))) = some "https://h/x?page=3" := by
  have hurl : ∀ r ∈ crowded, '>' ∉ r.url.toList := by decide
  have hrel : ∀ r ∈ crowded, '"' ∉ r.rel.toList ∧ ';' ∉ r.rel.toList ∧ ',' ∉ r.rel.toList := by decide
  refine ⟨hurl, hrel, ?_⟩
  rw [reads_first_related_as_next hurl hrel]
  decide

end RepoCensus.Link
