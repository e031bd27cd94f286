import Mathlib.Data.List.Perm.Basic
import RepoCensus.Proofs.Fetch.Truncation
import RepoCensus.Proofs.Pages.Visits

/-!
# The languages that are found

Main statement: a fetch of the languages finds what the pages on its way list, no more and no less, unless it hands back
an earlier finding. Each page is sorted for itself, so all languages are in order only if they are so from page to page.
-/

namespace RepoCensus

open RepoCensus.Calendar Work

variable {τ : Type}

/-! ## A body -/

section

variable {room : Nat} {body : List UInt8} {a b c : String × Tally} {entries : List (String × Tally)} {rs : List Record}

/-- The languages that a body lists, each with its size. A body of nothing lists none. -/
inductive Lists (room : Nat) (body : List UInt8) : List (String × Tally) → Prop where
  | nothing (h : documentOf room body = .ok .null) : Lists room body []
  | object {entries : List (String × Tally)}
      (h : documentOf room body = .ok (.obj (entries.map fun e => (e.1, e.2.toJson)))) : Lists room body entries

def languageOf (entry : String × Tally) : Record := .language entry.1 entry.2

theorem Tally.ofJson?_eq_some {v : Json} {t : Tally} : Tally.ofJson? v = some t ↔ v = t.toJson := by
  constructor
  · intro h
    cases v <;> cases h <;> rfl
  · rintro rfl
    exact Tally.ofJson?_toJson t

theorem readShare_eq_ok {field : String × Json} : readShare field = .ok a ↔ field = (a.1, a.2.toJson) := by
  obtain ⟨name, v⟩ := field
  obtain ⟨name', t⟩ := a
  rw [Prod.mk.injEq, ← Tally.ofJson?_eq_some]
  unfold readShare
  cases Tally.ofJson? v with
  | none => exact ⟨nofun, nofun⟩
  | some t' => simp

theorem mapM_readShare_eq_ok {fields : List (String × Json)} :
    fields.mapM readShare = .ok entries ↔ fields = entries.map fun e => (e.1, e.2.toJson) := by
  induction fields generalizing entries with
  | nil => cases entries <;> simp [pure, Except.pure]
  | cons field fields ih =>
      rw [List.mapM_cons]
      simp only [bind_eq_ok, readShare_eq_ok, ih]
      constructor
      · rintro ⟨entry, rfl, entries', rfl, ⟨⟩⟩
        rfl
      · intro h
        cases entries with
        | nil => cases h
        | cons entry entries =>
            obtain ⟨hfield, hfields⟩ := List.cons.inj h
            exact ⟨entry, hfield, entries, hfields, rfl⟩

/-- What is read are the languages that the body lists, sorted. -/
theorem readLanguages_eq_ok : readLanguages room body = .ok rs ↔
    ∃ entries, Lists room body entries ∧ rs = (entries.mergeSort languageBefore).map languageOf := by
  unfold readLanguages
  constructor
  · intro h
    obtain ⟨document, hdocument, h⟩ := bind_eq_ok.mp h
    split at h
    · cases h
      exact ⟨[], .nothing hdocument, by rw [List.mergeSort_nil, List.map_nil]⟩
    · obtain ⟨fields, hfields, h⟩ := bind_eq_ok.mp h
      obtain ⟨entries, hentries, h⟩ := bind_eq_ok.mp h
      cases h
      obtain rfl := mapM_readShare_eq_ok.mp hentries
      unfold objectOf at hfields
      split at hfields <;> cases hfields
      exact ⟨entries, .object hdocument, rfl⟩
  · rintro ⟨entries, hlists, rfl⟩
    cases hlists with
    | nothing h =>
        rw [List.mergeSort_nil, List.map_nil]
        exact bind_eq_ok.mpr ⟨_, h, rfl⟩
    | object h =>
        refine bind_eq_ok.mpr ⟨_, h, bind_eq_ok.mpr ⟨_, rfl, bind_eq_ok.mpr ⟨entries, ?_, rfl⟩⟩⟩
        exact mapM_readShare_eq_ok.mpr rfl

/-! ## Order -/

/-- The larger size comes first, and of equal ones the lesser name. -/
def InOrder (a b : String × Tally) : Prop := b.2.toInt < a.2.toInt ∨ (a.2.toInt = b.2.toInt ∧ a.1 ≤ b.1)

instance InOrder.decidable : DecidableRel InOrder := fun _ _ => inferInstanceAs (Decidable (_ ∨ _))

theorem languageBefore_iff : languageBefore a b = true ↔ InOrder a b := by
  unfold languageBefore InOrder
  split <;> simp_all

theorem InOrder.trans (hab : InOrder a b) (hbc : InOrder b c) : InOrder a c := by
  rcases hab with hab | ⟨hab, hab'⟩
  · rcases hbc with hbc | ⟨hbc, -⟩
    · exact .inl (Int.lt_trans hbc hab)
    · exact .inl (hbc ▸ hab)
  · rcases hbc with hbc | ⟨hbc, hbc'⟩
    · exact .inl (hab ▸ hbc)
    · exact .inr ⟨hab.trans hbc, String.le_trans hab' hbc'⟩

theorem InOrder.total (a b : String × Tally) : InOrder a b ∨ InOrder b a := by
  rcases Int.lt_trichotomy a.2.toInt b.2.toInt with h | h | h
  · exact .inr (.inl h)
  · rcases String.le_total a.1 b.1 with hname | hname
    · exact .inl (.inr ⟨h, hname⟩)
    · exact .inr (.inr ⟨h.symm, hname⟩)
  · exact .inl (.inl h)

theorem pairwise_mergeSort_languageBefore (entries : List (String × Tally)) :
    (entries.mergeSort languageBefore).Pairwise InOrder := by
  have htrans : ∀ a b c, languageBefore a b = true → languageBefore b c = true → languageBefore a c = true := by
    simp only [languageBefore_iff]
    exact fun _ _ _ => InOrder.trans
  have htotal : ∀ a b, (languageBefore a b || languageBefore b a) = true := by
    simpa only [Bool.or_eq_true, languageBefore_iff] using InOrder.total
  exact (List.pairwise_mergeSort htrans htotal entries).imp languageBefore_iff.mp

section

variable {π : Type} (listing : π → List (String × Tally)) (ps : List π)

theorem perm_flatMap_mergeSort :
    (ps.flatMap fun p => (listing p).mergeSort languageBefore).Perm (ps.flatMap listing) :=
  .flatMap_left ps fun p _ => List.mergeSort_perm (listing p) languageBefore

/-- Sorted listings, one after another, are in order only if their entries were so from listing to listing. -/
theorem pairwise_flatMap_mergeSort_iff :
    (ps.flatMap fun p => (listing p).mergeSort languageBefore).Pairwise InOrder ↔
      ps.Pairwise fun p q => ∀ a ∈ listing p, ∀ b ∈ listing q, InOrder a b := by
  simp only [List.pairwise_flatMap, List.mem_mergeSort]
  exact and_iff_right fun p _ => pairwise_mergeSort_languageBefore (listing p)

end

end

/-! ## A page -/

/-- What a page of languages lists, and the cursor that it tells. -/
structure Listing where
  entries : List (String × Tally)
  next : Option String

namespace Listing

def sorted (l : Listing) : List (String × Tally) := l.entries.mergeSort languageBefore

/-- All that a page lists is in order before all that another one lists. -/
def Before (l l' : Listing) : Prop := ∀ a ∈ l.entries, ∀ b ∈ l'.entries, InOrder a b

end Listing

namespace Fetcher

variable [Seconds τ]

/-- These deeds include a request for the page at a cursor, and its answer shows the listing. -/
inductive Shows (f : Fetcher τ) (r : Repository) (previous : Option (Finding τ)) (ds : List (Deed τ Request Reply))
    (cursor : Option String) (l : Listing) : Prop where
  | answered {s s' : Session τ} {part : List (Deed τ Request Reply)} {response : Response} (hpart : part ⊆ ds)
      (hsend : (f.send (f.bucket .languages) (f.pageRequest r .languages previous cursor)).Does s part
        (.ok response) s')
      (hlists : Lists f.room response.body l.entries)
      (hnext : l.next = Link.next? (response.header? f.conventions.linkHeader)) : Shows f r previous ds cursor l

variable {f : Fetcher τ} {r : Repository} {previous earlier : Option (Finding τ)} {s s' : Session τ}
  {ds all : List (Deed τ Request Reply)} {finding : Finding τ}

omit [Seconds τ] in
theorem ofReading_eq_ok {α : Type} {x : Reading α} {a : α} :
    (ofReading x : Except (Fault τ) α) = .ok a ↔ x = .ok a := by
  match x with
  | .ok _ => exact ⟨fun h => congrArg _ (Except.ok.inj h), fun h => congrArg _ (Except.ok.inj h)⟩
  | .error (.undecodable _) => exact ⟨nofun, nofun⟩
  | .error (.anomaly _) => exact ⟨nofun, nofun⟩

/-- A page of languages holds what its answer shows, sorted. -/
theorem exists_shows_of_fetchPage (cursor : Option String) (s : Session τ) (ds : List (Deed τ Request Reply))
    (page : Page Record) (s' : Session τ) (hds : ds ⊆ all)
    (h : (f.fetchPage r .languages previous (readLanguages f.room) cursor).Does s ds (.ok page) s') :
    ∃ l, f.Shows r previous all cursor l ∧ l.next = page.next ∧ l.sorted.map languageOf = page.items := by
  rw [fetchPage_eq] at h
  obtain ⟨_, -, ⟨⟩⟩ | ⟨part, response, t, rest, rfl, hsend, hpage⟩ := h.exists_of_bind
  obtain ⟨-, hpage, -⟩ := does_ofExcept_iff.mp hpage
  obtain ⟨_, -, hpage⟩ := bind_eq_ok.mp hpage.symm
  obtain ⟨items, hitems, ⟨⟩⟩ := bind_eq_ok.mp hpage
  obtain ⟨entries, hlists, rfl⟩ := readLanguages_eq_ok.mp (ofReading_eq_ok.mp hitems)
  exact ⟨⟨entries, _⟩, .answered (fun d hd => hds (List.mem_append_left _ hd)) hsend hlists rfl, rfl, rfl⟩

theorem exists_way_of_fetchCollection (hds : ds ⊆ all)
    (h : (f.fetchCollection r .languages previous (readLanguages f.room)).Does s ds (.ok finding) s') :
    ∃ listings, Page.Way Listing.next (f.Shows r previous all) finding.truncated none listings ∧
      finding.value = .records ((listings.flatMap Listing.sorted).map languageOf) := by
  obtain ⟨walked, e, idle, now, rfl, -, hcollect, hfinding⟩ := exists_of_fetchCollection h
  obtain ⟨gist, hgist, rfl⟩ := map_eq_ok.mp hfinding.symm
  obtain fault | ⟨fault | items, walk⟩ := e
  · cases hgist
  · cases hgist
  cases hgist
  obtain ⟨listings, hway, rfl⟩ :=
    Walk.exists_way_of_collect exists_shows_of_fetchPage (fun d hd => hds (List.mem_append_left _ hd)) hcollect
  refine ⟨listings, hway, congrArg Value.records ?_⟩
  rw [List.map_flatMap]

/-- The languages that are found are those of all pages, and they are in order if and only if the pages are: whatever an
earlier page lists comes before whatever a later one lists. -/
theorem languages_in_order_iff (h : (f.fetch r .languages earlier).Does s ds (.ok (.ok finding)) s') :
    (comparable .languages earlier = some finding ∧ ∃ d ∈ ds, d.TellsUnchanged) ∨
      ∃ listings, Page.Way Listing.next (f.Shows r (comparable .languages earlier) ds) finding.truncated none listings ∧
        finding.value = .records ((listings.flatMap Listing.sorted).map languageOf) ∧
        (listings.flatMap Listing.sorted).Perm (listings.flatMap Listing.entries) ∧
        ((listings.flatMap Listing.sorted).Pairwise InOrder ↔ listings.Pairwise Listing.Before) := by
  obtain ⟨idle, raw, rest, y, u, rfl, -, hraw, hend⟩ := exists_of_fetch h
  have hsubset : raw ⊆ ⟨.openBucket (f.bucket .languages), ()⟩ ::
      (Deed.tells (s.staged .inProgress).task ++ (idle ++ (raw ++ rest))) := by
    intro d hd
    simp [hd]
  cases hend with
  | found =>
      right
      obtain ⟨⟨⟩, -⟩ | ⟨looked, walked, rfl, -, hcollection⟩ := hraw.exists_of_check_bind
      have hwalked : walked ⊆ _ := fun d hd => hsubset (List.mem_append_right looked hd)
      obtain ⟨listings, hway, hvalue⟩ := exists_way_of_fetchCollection hwalked hcollection
      exact ⟨listings, hway, hvalue, perm_flatMap_mergeSort _ _, pairwise_flatMap_mergeSort_iff _ _⟩
  | unchanged hprevious =>
      obtain ⟨ps, hmade⟩ := exists_made_of_fetchRaw hraw
      obtain ⟨d, hd, hunchanged⟩ := hmade.exists_unchanged
      exact .inl ⟨hprevious, d, hsubset hd, hunchanged⟩

/-! ## A larger language on a later page -/

/-- A service with two pages of languages. -/
def growingLanguages : Request → Except (Fault Rat) Reply := fun q =>
  if q.url == "https://h/2" then .ok ⟨200, [], "\x7b\"Python\":900\x7d".toUTF8.toList⟩
  else .ok ⟨200, [("Link", "<https://h/2>; rel=\"next\"")], "\x7b\"C\":10\x7d".toUTF8.toList⟩

/-- The languages of a finding, each with its size. -/
def languagesIn (finding : Finding τ) : List (String × Tally) :=
  finding.records.filterMap fun
    | .language name bytes => some (name, bytes)
    | _ => none

omit [Seconds τ] in
theorem languagesIn_eq {found : List (String × Tally)} (h : finding.value = .records (found.map languageOf)) :
    languagesIn finding = found := by
  unfold languagesIn Finding.records
  rw [h]
  simp [Value.recordList, List.filterMap_map, languageOf, Function.comp_def]

/-- What comes of a fetch from that service. -/
def growingRun : Option (Except (Fault Rat) (Except (Failure Rat) (Finding Rat)) × Session Rat) :=
  ((usual.fetch ⟨"o", "n"⟩ .languages none).run (.quiet fun q _ => growingLanguages q) .start
    (.start ⟨0, 0, false⟩ ⟨0, [], 0⟩)).1

theorem languagesIn_growingRun : (growingRun.bind fun e => found? e.1).map languagesIn =
    some [("C", .number 10), ("Python", .number 900)] := by
  decide +kernel

/-- Both languages are found, and the pages are not in order. -/
theorem languages_in_order_iff_of_growing : ∃ ds finding s' listings,
    (usual.fetch ⟨"o", "n"⟩ .languages none).Does .start ds (.ok (.ok finding)) s' ∧
      Page.Way Listing.next (usual.Shows ⟨"o", "n"⟩ none ds) finding.truncated none listings ∧
      List.Perm [("C", .number 10), ("Python", .number 900)] (listings.flatMap Listing.entries) ∧
      ¬ listings.Pairwise Listing.Before := by
  obtain ⟨finding, hfound, hlanguages⟩ := Option.map_eq_some_iff.mp languagesIn_growingRun
  obtain ⟨⟨x, s'⟩, hrun, hx⟩ := Option.bind_eq_some_iff.mp hfound
  obtain ⟨ds, hdoes⟩ := exists_does_of_run hrun
  obtain rfl := eq_of_found? hx
  obtain ⟨⟨⟩, -⟩ | ⟨listings, hway, hvalue, hperm, hiff⟩ := languages_in_order_iff hdoes
  rw [← (languagesIn_eq hvalue).symm.trans hlanguages]
  refine ⟨ds, finding, s', listings, hdoes, hway, hperm, fun hordered => ?_⟩
  have hpairwise := hiff.mpr hordered
  rw [← languagesIn_eq hvalue, hlanguages] at hpairwise
  exact absurd hpairwise (by decide)

/-- The larger language stands after the smaller one. -/
theorem larger_language_last :
    (growingRun.bind fun e => found? e.1).map languagesIn = some [("C", .number 10), ("Python", .number 900)] ∧
      ¬ [("C", Tally.number 10), ("Python", Tally.number 900)].Pairwise InOrder :=
  ⟨languagesIn_growingRun, by decide⟩

end Fetcher

end RepoCensus
