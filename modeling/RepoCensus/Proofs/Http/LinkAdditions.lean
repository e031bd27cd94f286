import Mathlib.Data.List.TakeWhile
import RepoCensus.Proofs.Http.LinkText

/-!
# Further parameters of links

A link may have other parameters than its relation, before it and after it. Which of them can be added without a change
of the next page that is read: those that hold no comma and no two semicolons in a row, and nothing that looks like a
relation. All others can hide a next page, or show one that is none.
-/

namespace RepoCensus.Link

open RepoCensus.Text

/-! ## What looks like a relation -/

/-- A value starts, perhaps behind a quotation mark. -/
def StartsValue : List Char → Prop
  | '"' :: c :: _ => isValueChar c
  | c :: _ => isValueChar c
  | [] => False

/-- Somewhere in the text stand `rel`, blanks, an equals sign and the start of a value. -/
def Mentions (cs : List Char) : Prop :=
  ∃ start blanks value, cs = start ++ 'r' :: 'e' :: 'l' :: (blanks ++ '=' :: value) ∧
    (∀ c ∈ blanks, isBlank c) ∧ StartsValue value

theorem isValueChar_of_isBlank {c : Char} (h : isBlank c) : isValueChar c := by
  have hquote : c ≠ '"' := by
    rintro rfl
    exact absurd h (by decide)
  have hsemi : c ≠ ';' := by
    rintro rfl
    exact absurd h (by decide)
  simp [isValueChar, hquote, hsemi]

theorem startsValue_of_isValueChar {c : Char} {cs : List Char} (h : isValueChar c) : StartsValue (c :: cs) := by
  unfold StartsValue
  split
  · rename_i htext
    rw [(List.cons.inj htext).1] at h
    exact absurd h (by decide)
  · rename_i htext
    rwa [← (List.cons.inj htext).1]
  · contradiction

theorem startsValue_cons_of_ne {c : Char} (h : c ≠ '"') (cs : List Char) : StartsValue (c :: cs) ↔ isValueChar c := by
  refine ⟨fun hstarts => ?_, startsValue_of_isValueChar⟩
  unfold StartsValue at hstarts
  split at hstarts
  · rename_i htext
    exact absurd (List.cons.inj htext).1 h
  · rename_i htext
    rwa [(List.cons.inj htext).1]
  · contradiction

theorem isSome_valueWords?_iff {cs : List Char} : (valueWords? cs).isSome ↔ StartsValue cs := by
  cases cs with
  | nil => simp [valueWords?, StartsValue]
  | cons c cs =>
      by_cases hblank : isBlank c
      · have hshorter : (cs.dropWhile isBlank).length < (c :: cs).length :=
          Nat.lt_succ_of_le (List.dropWhile_suffix isBlank).length_le
        have hsome : (valueWords? (c :: cs)).isSome := by
          simp only [valueWords?, List.dropWhile_cons, hblank, if_true, hshorter]
          split <;> split <;> rfl
        simp [hsome, startsValue_of_isValueChar (isValueChar_of_isBlank hblank)]
      · by_cases hmark : c = '"'
        · subst hmark
          cases cs with
          | nil => simp [valueWords?, StartsValue, hblank, isValueChar]
          | cons d ds =>
              by_cases hd : isValueChar d <;> simp [valueWords?, StartsValue, hblank, hd]
        · rw [startsValue_cons_of_ne hmark]
          by_cases hc : isValueChar c <;> simp [valueWords?, hblank, hmark, hc]

theorem isSome_relationAt?_iff {cs : List Char} : (relationAt? cs).isSome ↔
    ∃ blanks value, cs = 'r' :: 'e' :: 'l' :: (blanks ++ '=' :: value) ∧
      (∀ c ∈ blanks, isBlank c) ∧ StartsValue value := by
  constructor
  · intro h
    unfold relationAt? at h
    split at h
    · rename_i rest
      split at h
      · rename_i value hvalue
        refine ⟨rest.takeWhile isBlank, value, ?_, fun c hc => List.mem_takeWhile_imp hc, isSome_valueWords?_iff.mp h⟩
        rw [← hvalue, List.takeWhile_append_dropWhile]
      · contradiction
    · contradiction
  · rintro ⟨blanks, value, rfl, hblanks, hvalue⟩
    have hequals : (blanks ++ '=' :: value).dropWhile isBlank = '=' :: value := by
      rw [List.dropWhile_append_of_pos hblanks]
      rfl
    simp only [relationAt?, hequals]
    exact isSome_valueWords?_iff.mpr hvalue

theorem isSome_relation?_iff {cs : List Char} : (relation? cs).isSome ↔ Mentions cs := by
  induction cs with
  | nil => simp [relation?, Mentions]
  | cons c cs ih =>
      rw [relation?, Option.isSome_or, Bool.or_eq_true, isSome_relationAt?_iff, ih]
      constructor
      · rintro (⟨blanks, value, htext, h⟩ | ⟨start, blanks, value, htext, h⟩)
        · exact ⟨[], blanks, value, htext, h⟩
        · exact ⟨c :: start, blanks, value, by rw [htext]; rfl, h⟩
      · rintro ⟨start, blanks, value, htext, h⟩
        cases start with
        | nil => exact .inl ⟨blanks, value, htext, h⟩
        | cons d start => exact .inr ⟨start, blanks, value, (List.cons.inj htext).2, h⟩

/-! ## Relations in one text after another -/

/-- What follows a parameter of a link: nothing, or the semicolon before the next one. -/
def EndsParam (rest : List Char) : Prop := rest = [] ∨ ∃ cs, rest = ';' :: cs

theorem dropWhile_isBlank_append (cs rest : List Char) :
    (cs ++ '"' :: rest).dropWhile isBlank = cs.dropWhile isBlank ++ '"' :: rest := by
  induction cs with
  | nil => rfl
  | cons c cs ih =>
      by_cases hc : isBlank c
      · simp [hc, ih]
      · simp [hc]

theorem takeWhile_isValueChar_append (cs rest : List Char) :
    (cs ++ '"' :: rest).takeWhile isValueChar = cs.takeWhile isValueChar := by
  induction cs with
  | nil => rfl
  | cons c cs ih =>
      by_cases hc : isValueChar c
      · simp [hc, ih]
      · simp [hc]

theorem valueWords?_append {rest : List Char} (hrest : EndsParam rest) (cs : List Char) :
    valueWords? (cs ++ '"' :: rest) = valueWords? (cs ++ ['"']) := by
  have hnone : rest.takeWhile isValueChar = [] := by
    rcases hrest with rfl | ⟨cs, rfl⟩ <;> rfl
  simp only [valueWords?, dropWhile_isBlank_append]
  cases cs.dropWhile isBlank with
  | nil => simp [hnone]
  | cons c ds =>
      have htake : ∀ rest, (c :: (ds ++ '"' :: rest)).takeWhile isValueChar = (c :: ds).takeWhile isValueChar :=
        takeWhile_isValueChar_append (c :: ds)
      have hshorter : ds.length + (rest.length + 1) + 1 < cs.length + (rest.length + 1) ↔
          ds.length + 1 < cs.length := by omega
      by_cases hmark : c = '"'
      · simp [hmark, takeWhile_isValueChar_append, hshorter]
      · simp [hmark, htake, hshorter]

theorem relationAt?_of_take_ne {cs : List Char} (h : cs.take 3 ≠ ['r', 'e', 'l']) : relationAt? cs = none := by
  unfold relationAt?
  split
  · exact absurd rfl h
  · rfl

theorem relationAt?_append {rest : List Char} (hrest : EndsParam rest) (cs : List Char) :
    relationAt? (cs ++ '"' :: rest) = relationAt? (cs ++ ['"']) := by
  by_cases hrel : cs.take 3 = ['r', 'e', 'l']
  · have hcs : cs = 'r' :: 'e' :: 'l' :: cs.drop 3 := by simpa [hrel] using (List.take_append_drop 3 cs).symm
    obtain ⟨ds, rfl⟩ : ∃ ds, cs = 'r' :: 'e' :: 'l' :: ds := ⟨_, hcs⟩
    simp only [List.cons_append, relationAt?, dropWhile_isBlank_append]
    cases ds.dropWhile isBlank with
    | nil => rfl
    | cons c ds =>
        by_cases hequals : c = '='
        · subst hequals
          exact valueWords?_append hrest ds
        · simp [hequals]
  · have hnone : ∀ rest, (cs ++ '"' :: rest).take 3 ≠ ['r', 'e', 'l'] := by
      intro rest
      rcases cs with _ | ⟨a, _ | ⟨b, _ | ⟨c, cs⟩⟩⟩ <;> simp_all
    rw [relationAt?_of_take_ne (hnone rest), relationAt?_of_take_ne (hnone [])]

theorem relation?_append {rest : List Char} (hrest : EndsParam rest) (cs : List Char) :
    relation? (cs ++ '"' :: rest) = (relation? (cs ++ ['"'])).or (relation? rest) := by
  induction cs with
  | nil => rw [List.nil_append, relation?_cons_of_ne (by decide)]; rfl
  | cons c cs ih =>
      have hat := relationAt?_append hrest (c :: cs)
      rw [List.cons_append, List.cons_append] at hat
      rw [List.cons_append, List.cons_append, relation?, relation?, hat, ih, Option.or_assoc]

theorem relation?_text_append (p : Param) {rest : List Char} (hrest : EndsParam rest) :
    relation? (p.text ++ rest) = (relation? p.text).or (relation? rest) := by
  rw [Param.text, List.append_assoc, List.singleton_append, relation?_append hrest]

theorem endsParam_paramsText (ps : List Param) : EndsParam (paramsText ps) := by
  cases ps with
  | nil => exact .inl rfl
  | cons p ps => exact .inr ⟨_, rfl⟩

/-! ## Parameters that can be added -/

/-- Parameters reach through a parameter, and it does not look like a relation. -/
structure Param.IsReadable (p : Param) : Prop where
  whole : Whole p.text
  unrelated : ¬ Mentions p.text

/-- A link with further parameters before and after its relation. -/
structure Annotated extends Relation where
  before : List Param
  after : List Param

namespace Annotated

def params (a : Annotated) : List Param := a.before ++ a.param :: a.after

def full (a : Annotated) : Target := ⟨a.url.toList, paramsText a.params⟩

/-- The link without further parameters. -/
def bare (a : Annotated) : Target := a.toRelation.target

/-- Brackets end where they are meant to, and parameters reach through the relation. -/
def IsSound (a : Annotated) : Prop := '>' ∉ a.url.toList ∧ Whole a.param.text

end Annotated

theorem relation?_of_readable {p : Param} (hp : p.IsReadable) : relation? p.text = none := by
  have hnone := mt isSome_relation?_iff.mp hp.unrelated
  simpa using hnone

theorem relation?_paramsText_of_readable {ps : List Param} (hps' : ∀ p ∈ ps, p.IsReadable) {rest : List Char}
    (hrest : EndsParam rest) : relation? (paramsText ps ++ rest) = relation? rest := by
  induction ps with
  | nil => rfl
  | cons p ps ih =>
      have hps := ih fun p hp => hps' p (List.mem_cons_of_mem _ hp)
      have hbehind : EndsParam (paramsText ps ++ rest) := by
        cases ps with
        | nil => exact hrest
        | cons p ps => exact .inr ⟨_, rfl⟩
      rw [paramsText_cons, List.append_assoc, relation?_text_append p hbehind,
        relation?_of_readable (hps' p (List.mem_cons_self ..)), hps, Option.none_or]

theorem isNext_full {a : Annotated} (hbefore : ∀ p ∈ a.before, p.IsReadable) (hafter : ∀ p ∈ a.after, p.IsReadable) :
    a.full.isNext = a.bare.isNext := by
  have hbehind : relation? (paramsText a.after) = none := by
    simpa [relation?] using relation?_paramsText_of_readable hafter (.inl rfl)
  have hsame : relation? (paramsText a.params) = relation? (paramsText [a.param]) := by
    rw [Annotated.params, paramsText_append, relation?_paramsText_of_readable hbefore (endsParam_paramsText _),
      paramsText_cons, relation?_text_append _ (endsParam_paramsText _), hbehind]
    simp
  rw [Target.isNext, Target.isNext]
  exact congrArg _ hsame

theorem isLegible_full {a : Annotated} (ha : a.IsSound) (hbefore : ∀ p ∈ a.before, p.IsReadable)
    (hafter : ∀ p ∈ a.after, p.IsReadable) : a.full.IsLegible := by
  refine ⟨ha.1, a.params, fun p hp => ?_, rfl⟩
  rcases List.mem_append.mp hp with hp | hp
  · exact (hbefore p hp).whole
  · rcases List.mem_cons.mp hp with rfl | hp
    · exact ha.2
    · exact (hafter p hp).whole

/-- What is readable can be added. -/
theorem next?_full_eq_bare {as : List Annotated} (has : ∀ a ∈ as, a.IsSound)
    (hreadable : ∀ a ∈ as, ∀ p ∈ a.before ++ a.after, p.IsReadable) :
    next? (some (header (as.map Annotated.full))) = next? (some (header (as.map Annotated.bare))) := by
  have hbefore : ∀ a ∈ as, ∀ p ∈ a.before, p.IsReadable := fun a ha p hp => hreadable a ha p (List.mem_append_left _ hp)
  have hafter : ∀ a ∈ as, ∀ p ∈ a.after, p.IsReadable := fun a ha p hp => hreadable a ha p (List.mem_append_right _ hp)
  have hnext : ∀ a ∈ as, a.full.isNext = a.bare.isNext := fun a ha => isNext_full (hbefore a ha) (hafter a ha)
  rw [next?_header fun a ha => isLegible_full (has a ha) (hbefore a ha) (hafter a ha),
    List.find?_congr hnext]
  exact (next?_header fun a ha => isLegible_target (has a ha).1 (has a ha).2).symm

/-! ## Parameters that cannot be added -/

theorem length_url_lt {cs : List Char} {t : Target} (ht : t ∈ targets cs) : t.url.length < cs.length := by
  fun_induction targets cs with
  | case1 => contradiction
  | case2 rest t' taken htarget ih =>
      rcases List.mem_cons.mp ht with rfl | ht
      · simp only [targetAt?] at htarget
        split at htarget
        · rename_i hclosed
          cases htarget
          exact Nat.lt_succ_of_lt hclosed
        · contradiction
      · have hlater := ih ht
        simp only [List.length_drop, List.length_cons] at hlater ⊢
        omega
  | case3 rest hnone ih => exact Nat.lt_succ_of_lt (ih ht)
  | case4 c rest hopen ih => exact Nat.lt_succ_of_lt (ih ht)

theorem EndsParam.reach {rest : List Char} (h : EndsParam rest) : EndsParam (reach rest) := by
  rcases h with rfl | ⟨cs, rfl⟩
  · exact .inl reach_nil
  · rw [reach_cons]
    split
    · exact .inr ⟨_, rfl⟩
    · exact .inl rfl

/-- Behind a parameter that is not readable a relation is not reached, or not looked at. -/
theorem relation?_of_not_readable {p : Param} (hp : ¬ p.IsReadable) (q : Param) :
    relation? (paramsAt (paramsText [p, q])) = relation? (reach p.text) := by
  have hparams : paramsAt (paramsText [p, q]) = reach (p.text ++ paramsText [q]) := paramsAt_eq_reach _
  rw [hparams]
  by_cases hwhole : Whole p.text
  · have hmentions : (relation? p.text).isSome :=
      isSome_relation?_iff.mpr (Classical.not_not.mp fun hnot => hp ⟨hwhole, hnot⟩)
    obtain ⟨ws, hws⟩ := Option.isSome_iff_exists.mp hmentions
    have hself : reach p.text = p.text := by simpa using reach_text_append hwhole []
    rw [reach_text_append hwhole, relation?_text_append p (endsParam_paramsText [q]).reach, hself, hws, Option.some_or]
  · rw [reach_append_of_not_whole hwhole]

theorem next?_header_singleton {url : List Char} (hurl : '>' ∉ url) (p : Param) (ps : List Param) :
    next? (some (header [⟨url, paramsText (p :: ps)⟩])) =
      ((⟨url, paramsAt (paramsText (p :: ps))⟩ ::
        targets ((paramsText (p :: ps)).drop (paramsAt (paramsText (p :: ps))).length)).find? Target.isNext).map
          fun t => String.ofList t.url := by
  have hunblank : (paramsText (p :: ps)).head?.all fun c => !isBlank c := (by decide : (!isBlank ';') = true)
  rw [next?, Option.bind_some, header, String.toList_ofList, headerText, Target.text, targets_link hurl hunblank]

/-- What is reached of the parameter is read as a relation to the next page. -/
def Param.isTakenForNext (p : Param) : Bool :=
  (relation? (reach p.text)).any fun ws => ws.contains ['n', 'e', 'x', 't']

/-- A link with a parameter before its relation, and a target as long as these. -/
def probe (p : Param) (rel : String) : Annotated where
  url := String.ofList (List.replicate (paramsText [p, ⟨"rel", rel⟩]).length 'u')
  rel := rel
  before := [p]
  after := []

theorem isSound_probe (p : Param) {rel : String} (hcomma : ',' ∉ rel.toList) (hsemi : ';' ∉ rel.toList) :
    (probe p rel).IsSound := ⟨by simp [probe], whole_param hcomma hsemi⟩

theorem isNext_probe_iff {p : Param} {rel : String} : (probe p rel).IsNext ↔ Relation.IsNext ⟨"", rel⟩ := by
  simp only [Relation.IsNext, probe]

theorem next?_full_probe_iff {p : Param} (hp : ¬ p.IsReadable) (rel : String) :
    next? (some (header [(probe p rel).full])) = some (probe p rel).url ↔ p.isTakenForNext := by
  have hclosed : '>' ∉ (probe p rel).url.toList := by simp [probe]
  have hfirst : Target.isNext ⟨(probe p rel).url.toList, paramsAt (paramsText [p, ⟨"rel", rel⟩])⟩ = p.isTakenForNext := by
    rw [Target.isNext, relation?_of_not_readable hp, Param.isTakenForNext]
  have hfull : next? (some (header [(probe p rel).full])) = _ := next?_header_singleton hclosed p [⟨"rel", rel⟩]
  rw [hfull]
  by_cases htaken : p.isTakenForNext
  · rw [List.find?_cons_of_pos (hfirst.trans htaken)]
    simp [htaken]
  · rw [List.find?_cons_of_neg (by rwa [hfirst])]
    refine iff_of_false (fun hsame => ?_) htaken
    -- a target that starts within the parameters is shorter than that of the link
    obtain ⟨t, ht, hurl⟩ := Option.map_eq_some_iff.mp hsame
    have hshort := length_url_lt (List.mem_of_find?_eq_some ht)
    have hlong : t.url.length = (paramsText [p, ⟨"rel", rel⟩]).length := by
      rw [String.ofList_injective hurl, List.length_replicate]
    rw [List.length_drop] at hshort
    omega

theorem next?_bare {a : Annotated} (ha : a.IsSound) (hquote : '"' ∉ a.rel.toList) (hsemi : ';' ∉ a.rel.toList) :
    next? (some (header [a.bare])) = if a.IsNext then some a.url else none := by
  have hlegible : ∀ b ∈ [a], b.bare.IsLegible := fun b hb =>
    List.mem_singleton.mp hb ▸ isLegible_target ha.1 ha.2
  have hnext : a.bare.isNext ↔ a.IsNext := isNext_target_iff hquote hsemi
  have hone := next?_header hlegible
  simp only [List.map_singleton, List.find?_singleton, hnext] at hone
  rw [hone]
  split
  · simp [Annotated.bare, Relation.target]
  · rfl

/-- What is not readable changes the next page of some link that has it before its relation. -/
theorem exists_changed {p : Param} (hp : ¬ p.IsReadable) : ∃ a : Annotated, a.IsSound ∧ a.before = [p] ∧ a.after = [] ∧
    next? (some (header [a.full])) ≠ next? (some (header [a.bare])) := by
  by_cases htaken : p.isTakenForNext
  · have hlast : (probe p "last").IsSound := isSound_probe p (by decide) (by decide)
    have hunrelated : ¬ (probe p "last").IsNext := mt isNext_probe_iff.mp (by decide)
    have hbare := next?_bare hlast (by decide : '"' ∉ "last".toList) (by decide : ';' ∉ "last".toList)
    refine ⟨probe p "last", hlast, rfl, rfl, ?_⟩
    rw [(next?_full_probe_iff hp "last").mpr htaken, hbare, if_neg hunrelated]
    exact Option.some_ne_none _
  · have hnext : (probe p "next").IsSound := isSound_probe p (by decide) (by decide)
    have hrelated : (probe p "next").IsNext := isNext_probe_iff.mpr (by decide)
    have hbare := next?_bare hnext (by decide : '"' ∉ "next".toList) (by decide : ';' ∉ "next".toList)
    refine ⟨probe p "next", hnext, rfl, rfl, ?_⟩
    rw [hbare, if_pos hrelated]
    exact mt (next?_full_probe_iff hp "next").mp htaken

/-- Parameters of a kind can be added to the links of every header, before their relations and after them, without a
change of the next page, if and only if each of them is readable. -/
theorem additions_harmless_iff (kind : Param → Prop) :
    (∀ as : List Annotated, (∀ a ∈ as, a.IsSound) → (∀ a ∈ as, ∀ p ∈ a.before ++ a.after, kind p) →
      next? (some (header (as.map Annotated.full))) = next? (some (header (as.map Annotated.bare)))) ↔
    ∀ p, kind p → p.IsReadable := by
  constructor
  · intro hsame p hp
    refine Classical.not_not.mp fun hnot => ?_
    obtain ⟨a, ha, hbefore, hafter, hchanged⟩ := exists_changed hnot
    refine hchanged (hsame [a] (by simpa using ha) ?_)
    simpa [hbefore, hafter] using hp
  · intro hreadable as has hkind
    exact next?_full_eq_bare has fun a ha p hp => hreadable p (hkind a ha p hp)

def isTokenChar (c : Char) : Bool := c.isAlphanum || "!#$%&'*+-.^_`|~".toList.contains c

/-- A parameter other than the relation, as the syntax of links has it: a token and any text without quotation marks. -/
def Param.IsFurther (p : Param) : Prop :=
  (p.name ≠ "" ∧ p.name.toList.all isTokenChar ∧ p.name ≠ "rel") ∧ '"' ∉ p.value.toList

/-- A link with a comma in its title. -/
def titled : Annotated where
  url := "https://h/x?page=2"
  rel := "next"
  before := [⟨"title", "Page 2, of 5"⟩]
  after := []

example : header [titled.full] = "<https://h/x?page=2>; title=\"Page 2, of 5\"; rel=\"next\"" := by decide

/-- A comma in the title hides the next page. -/
theorem title_hides_next :
    ¬ ∀ as : List Annotated, (∀ a ∈ as, a.IsSound) → (∀ a ∈ as, ∀ p ∈ a.before ++ a.after, p.IsFurther) →
      next? (some (header (as.map Annotated.full))) = next? (some (header (as.map Annotated.bare))) := by
  intro h
  have hsound : titled.IsSound := ⟨by decide, whole_param (by decide) (by decide)⟩
  have hfurther : ∀ p ∈ titled.before ++ titled.after, p.IsFurther := by
    simp only [titled, List.append_nil, List.mem_singleton, forall_eq]
    exact ⟨by decide, by decide⟩
  have hfull : next? (some (header [titled.full])) = none := by decide +kernel
  have hbare : next? (some (header [titled.bare])) = some "https://h/x?page=2" := by decide +kernel
  have hsame := h [titled] (by simpa using hsound) (by simpa using hfurther)
  cases hfull.symm.trans (hsame.trans hbare)

end RepoCensus.Link
