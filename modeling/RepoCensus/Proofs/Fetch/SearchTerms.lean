import RepoCensus.Fetch.Endpoint
import RepoCensus.Proofs.Text.Words

/-!
# The terms of a search

The issues of a repository are counted by a search, whose query is one text. The service takes the parts of that text
between spaces for the terms that it asks for, so a space within a term makes two terms of it. Main statement: a
category's query asks for the repository and for the category's own qualifiers, and for nothing else, exactly when
neither the owner nor the name has a space in it.
-/

namespace RepoCensus

open RepoCensus.Text

namespace Query

/-- The terms that a text asks for: its parts between spaces. -/
def termsOf (text : String) : List String := (fields ' ' text.toList).map String.ofList

variable {q : Query} {s t : String}

theorem termsOf_append_space (s t : String) : termsOf (s ++ " " ++ t) = termsOf s ++ termsOf t := by
  have hspace : (s ++ " " ++ t).toList = s.toList ++ ' ' :: t.toList := by simp
  rw [termsOf, hspace, fields_append_cons, List.map_append]
  rfl

theorem space_not_mem_of_mem_termsOf (h : t ∈ termsOf s) : ' ' ∉ t.toList := by
  obtain ⟨f, hf, rfl⟩ := List.mem_map.mp h
  rw [String.toList_ofList]
  exact not_mem_of_mem_fields hf

theorem termsOf_eq_singleton_iff : termsOf t = [t] ↔ ' ' ∉ t.toList := by
  constructor
  · intro h
    exact space_not_mem_of_mem_termsOf (s := t) (h ▸ List.mem_singleton_self t)
  · intro h
    simp [termsOf, fields_of_not_mem h]

theorem termsOf_injective (h : termsOf s = termsOf t) : s = t := by
  have hfields : fields ' ' s.toList = fields ' ' t.toList :=
    (List.map_inj_right fun _ _ => String.ofList_injective).mp h
  exact String.toList_inj.mp (fields_injective hfields)

theorem termsOf_intercalate (t : String) (ts : List String) :
    termsOf (" ".intercalate (t :: ts)) = (t :: ts).flatMap termsOf := by
  induction ts generalizing t with
  | nil => simp
  | cons u ts ih =>
      rw [String.intercalate_cons_cons, termsOf_append_space, ih]
      rfl

/-- The text of a query asks for the terms that its own terms fall into. -/
theorem termsOf_text (h : q.terms ≠ []) : termsOf q.text = q.terms.flatMap termsOf := by
  obtain ⟨t, ts, ht⟩ := List.exists_cons_of_ne_nil h
  rw [text, ht, termsOf_intercalate]

theorem flatMap_termsOf_of_no_space {ts : List String} (h : ∀ t ∈ ts, ' ' ∉ t.toList) : ts.flatMap termsOf = ts := by
  induction ts with
  | nil => rfl
  | cons t ts ih =>
      have hhead : termsOf t = [t] := termsOf_eq_singleton_iff.mpr (h t List.mem_cons_self)
      rw [List.flatMap_cons, hhead, ih fun u hu => h u (List.mem_cons_of_mem t hu)]
      rfl

/-- The text of a query asks for the query's own terms exactly when none of them has a space in it. -/
theorem termsOf_text_eq_iff (h : q.terms ≠ []) : termsOf q.text = q.terms ↔ ∀ t ∈ q.terms, ' ' ∉ t.toList := by
  constructor
  · intro heq t ht
    rw [← heq] at ht
    exact space_not_mem_of_mem_termsOf ht
  · intro hspace
    rw [termsOf_text h, flatMap_termsOf_of_no_space hspace]

end Query

namespace Repository

variable {r r' : Repository}

/-- A repository that is known by an owner and a name, or by a text that tells them. -/
def Accepted (r : Repository) : Prop := (∃ owner name, make owner name = .ok r) ∨ ∃ text, parse text = .ok r

theorem slash_not_mem_of_make {owner name : String} (h : make owner name = .ok r) :
    '/' ∉ r.owner.toList ∧ '/' ∉ r.name.toList := by
  unfold make at h
  split at h
  · cases h
  · split at h
    · cases h
    · rename_i hslash
      cases h
      simpa using hslash

theorem Accepted.slash_not_mem (h : r.Accepted) : '/' ∉ r.owner.toList ∧ '/' ∉ r.name.toList := by
  rcases h with ⟨owner, name, h⟩ | ⟨text, h⟩
  · exact slash_not_mem_of_make h
  · unfold parse at h
    split at h
    · exact slash_not_mem_of_make h
    · cases h

theorem fields_fullName (h : r.Accepted) : fields '/' r.fullName.toList = [r.owner.toList, r.name.toList] := by
  obtain ⟨howner, hname⟩ := h.slash_not_mem
  have htext : r.fullName.toList = r.owner.toList ++ '/' :: r.name.toList := by simp [fullName]
  rw [htext, fields_append_cons, fields_of_not_mem howner, fields_of_not_mem hname]
  rfl

/-- No two repositories have one full name. -/
theorem Accepted.eq_of_fullName (h : r.Accepted) (h' : r'.Accepted) (hname : r.fullName = r'.fullName) : r = r' := by
  have hfields := fields_fullName h
  rw [hname, fields_fullName h'] at hfields
  simp only [List.cons.injEq, String.toList_inj, and_true] at hfields
  cases r
  cases r'
  simp_all

end Repository

namespace Category

variable {c c' : Category} {r r' : Repository} {text : String}

/-- What a category that is found by a search asks of the issues that it counts. -/
def qualifiers : Category → List String
  | openIssues => ["is:issue", "is:open"]
  | closedIssues => ["is:issue", "is:closed"]
  | openPulls => ["is:pr", "is:open"]
  | mergedPulls => ["is:pr", "is:merged"]
  | _ => []

/-- The text of the query that is sent for a category, if it is found by a search. -/
def searchText? (c : Category) (r : Repository) : Option String := Entries.get? "q" (c.endpoint.params r)

/-- The term by which a search is confined to a repository. -/
def repositoryTerm (r : Repository) : String := "repo:" ++ r.fullName

theorem terms_foldl_is (q : Query) (values : List String) :
    (values.foldl Query.is q).terms = q.terms ++ values.map ("is:" ++ ·) := by
  induction values generalizing q with
  | nil => simp
  | cons v values ih =>
      have hterm : (q.is v).terms = q.terms ++ ["is:" ++ v] := rfl
      rw [List.foldl_cons, ih, hterm, List.append_assoc]
      rfl

theorem terms_searchQuery (r : Repository) (values : List String) :
    (Endpoint.searchQuery r values).terms = repositoryTerm r :: values.map ("is:" ++ ·) := by
  have hterm : (Query.empty.repo r.owner r.name).terms = [repositoryTerm r] := rfl
  rw [Endpoint.searchQuery, terms_foldl_is, hterm]
  rfl

/-- A category whose query is sent asks for its repository and its qualifiers. -/
theorem exists_of_searchText (h : c.searchText? r = some text) :
    c.qualifiers ≠ [] ∧ ∃ q : Query, text = q.text ∧ q.terms = repositoryTerm r :: c.qualifiers := by
  cases c with
  | openIssues => exact ⟨nofun, _, (Option.some.inj h).symm, terms_searchQuery r ["issue", "open"]⟩
  | closedIssues => exact ⟨nofun, _, (Option.some.inj h).symm, terms_searchQuery r ["issue", "closed"]⟩
  | openPulls => exact ⟨nofun, _, (Option.some.inj h).symm, terms_searchQuery r ["pr", "open"]⟩
  | mergedPulls => exact ⟨nofun, _, (Option.some.inj h).symm, terms_searchQuery r ["pr", "merged"]⟩
  | _ => cases h

/-- The categories that are found by a search are those whose requests are paid from its bucket. -/
theorem exists_searchText (hc : c.endpoint.resource = "search") (r : Repository) :
    ∃ text, c.searchText? r = some text := by
  cases c with
  | openIssues | closedIssues | openPulls | mergedPulls => exact ⟨_, rfl⟩
  | _ => exact absurd hc (by decide)

theorem space_not_mem_qualifiers (c : Category) : ∀ t ∈ c.qualifiers, ' ' ∉ t.toList := by
  cases c <;> decide

theorem termsOf_searchText (h : c.searchText? r = some text) :
    Query.termsOf text = Query.termsOf (repositoryTerm r) ++ c.qualifiers := by
  obtain ⟨-, q, rfl, hq⟩ := exists_of_searchText h
  have hne : q.terms ≠ [] := hq ▸ List.cons_ne_nil _ _
  rw [Query.termsOf_text hne, hq, List.flatMap_cons,
    Query.flatMap_termsOf_of_no_space (space_not_mem_qualifiers c)]

theorem space_not_mem_repositoryTerm_iff :
    ' ' ∉ (repositoryTerm r).toList ↔ ' ' ∉ r.owner.toList ∧ ' ' ∉ r.name.toList := by
  simp [repositoryTerm, Repository.fullName]

theorem length_qualifiers (h : c.qualifiers ≠ []) : c.qualifiers.length = 2 := by
  cases c <;> simp_all [qualifiers]

theorem qualifiers_injective (h : c.qualifiers ≠ []) (heq : c.qualifiers = c'.qualifiers) : c = c' := by
  cases c <;> cases c' <;> simp_all [qualifiers]

/-- Whoever sends the same text asks about the same repository, for the same category. -/
theorem eq_of_searchText (hr : r.Accepted) (hr' : r'.Accepted) (h : c.searchText? r = some text)
    (h' : c'.searchText? r' = some text) : c = c' ∧ r = r' := by
  have hc := (exists_of_searchText h).1
  have hc' := (exists_of_searchText h').1
  have hterms := (termsOf_searchText h).symm.trans (termsOf_searchText h')
  have hlength : c.qualifiers.length = c'.qualifiers.length := (length_qualifiers hc).trans (length_qualifiers hc').symm
  obtain ⟨hterm, hqualifiers⟩ := List.append_inj' hterms hlength
  have hnames : r.fullName = r'.fullName := by
    have := Query.termsOf_injective hterm
    simpa [repositoryTerm, String.append_right_inj] using this
  exact ⟨qualifiers_injective hc hqualifiers, hr.eq_of_fullName hr' hnames⟩

/-- The query for a category asks for the parts of the repository's term between spaces and for the category's own
qualifiers. That is the repository's term itself exactly when neither owner nor name has a space in it; and no other
repository and no other category has the same text. -/
theorem search_asks_own_terms_iff (hc : c.endpoint.resource = "search") (hr : r.Accepted) :
    ∃ text, c.searchText? r = some text ∧
      Query.termsOf text = Query.termsOf (repositoryTerm r) ++ c.qualifiers ∧
      (Query.termsOf text = repositoryTerm r :: c.qualifiers ↔ ' ' ∉ r.owner.toList ∧ ' ' ∉ r.name.toList) ∧
      ∀ c' r', r'.Accepted → c'.searchText? r' = some text → c' = c ∧ r' = r := by
  obtain ⟨text, htext⟩ := exists_searchText hc r
  obtain ⟨-, q, rfl, hq⟩ := exists_of_searchText htext
  have hne : q.terms ≠ [] := hq ▸ List.cons_ne_nil _ _
  have hown := Query.termsOf_text_eq_iff hne
  rw [hq, List.forall_mem_cons, space_not_mem_repositoryTerm_iff, and_iff_left (space_not_mem_qualifiers c)] at hown
  exact ⟨_, htext, termsOf_searchText htext, hown, fun c' r' hr' h' => eq_of_searchText hr' hr h' htext⟩

/-- A repository whose name has two spaces in it: one more term of the search each. -/
theorem search_asks_own_terms_of_spaced :
    let r : Repository := ⟨"acme", "widgets is:pr author:me"⟩
    r.Accepted ∧ openIssues.endpoint.resource = "search" ∧ ∃ text, openIssues.searchText? r = some text ∧
      Query.termsOf text = ["repo:acme/widgets", "is:pr", "author:me", "is:issue", "is:open"] ∧
      Query.termsOf text ≠ repositoryTerm r :: openIssues.qualifiers := by
  intro r
  have hr : r.Accepted := .inl ⟨"acme", "widgets is:pr author:me", rfl⟩
  have hc : openIssues.endpoint.resource = "search" := rfl
  obtain ⟨text, htext, hterms, hown, -⟩ := search_asks_own_terms_iff hc hr
  refine ⟨hr, hc, text, htext, hterms.trans (by decide +kernel), fun h => ?_⟩
  have hspace : ' ' ∉ r.name.toList := (hown.mp h).2
  exact absurd hspace (by decide)

/-- A name with a space in it is accepted, and what follows the space is a term of the search. -/
theorem spaced_name_adds_term :
    Repository.parse "acme/widgets is:pr" = .ok ⟨"acme", "widgets is:pr"⟩ ∧
      (openIssues.searchText? ⟨"acme", "widgets is:pr"⟩).map Query.termsOf =
        some ["repo:acme/widgets", "is:pr", "is:issue", "is:open"] := by
  constructor
  · rfl
  · decide +kernel

end Category

end RepoCensus
