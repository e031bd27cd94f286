import RepoCensus.Proofs.Pages.Law

/-!
# Resuming a walk

A walk keeps the cursor of the page that it was to request next. Main statement: wherever a walk along a chain of pages
stopped before the end, the elements that it gave and those that are collected from its cursor on are the elements of
the whole chain, each once.
-/

namespace RepoCensus

open RepoCensus.Calendar

variable {σ σ' τ Q Q' R R' α : Type}

namespace Page

/-- The pages of a book from a cursor on: each tells the cursor of the next one, and the last one tells none. -/
inductive Chain (book : Option String → Page α) : Option String → List (Page α) → Prop where
  | last {cursor : Option String} (h : (book cursor).next = none) : Chain book cursor [book cursor]
  | onward {cursor : Option String} {next : String} {pages : List (Page α)} (h : (book cursor).next = some next)
      (hrest : Chain book (some next) pages) : Chain book cursor (book cursor :: pages)

namespace Chain

variable {book : Option String → Page α} {cursor : Option String} {next : String} {page : Page α}
  {pages pages' taken rest : List (Page α)} {limits : WalkLimits}

theorem ne_nil (h : Chain book cursor pages) : pages ≠ [] := by
  cases h <;> exact List.cons_ne_nil _ _

theorem unique (h : Chain book cursor pages) (h' : Chain book cursor pages') : pages' = pages := by
  induction h generalizing pages' with
  | last hnone =>
      cases h' with
      | last _ => rfl
      | onward hsome _ => cases hnone.symm.trans hsome
  | onward hsome _ ih =>
      cases h' with
      | last hnone => cases hnone.symm.trans hsome
      | onward hsome' hrest' =>
          cases hsome.symm.trans hsome'
          rw [ih hrest']

theorem exists_of_mem (h : Chain book cursor pages) (hmem : next ∈ cursors pages) :
    ∃ rest, rest.length < pages.length ∧ Chain book (some next) rest := by
  induction h with
  | last hnone => simp [cursors, hnone] at hmem
  | @onward _ next' pages hsome hrest ih =>
      have hcursors : next = next' ∨ next ∈ cursors pages := by simpa [cursors, hsome] using hmem
      obtain rfl | hmem := hcursors
      · exact ⟨pages, Nat.lt_succ_self _, hrest⟩
      · obtain ⟨rest, hlt, hchain⟩ := ih hmem
        exact ⟨rest, Nat.lt_succ_of_lt hlt, hchain⟩

theorem not_mem_cursors (h : Chain book (some next) pages) : next ∉ cursors pages := by
  intro hmem
  -- a cursor that comes again would begin a chain shorter than its own
  obtain ⟨rest, hlt, hrest⟩ := h.exists_of_mem hmem
  exact absurd hlt (by rw [h.unique hrest]; exact Nat.lt_irrefl _)

/-- The cursors of a chain that ends are distinct, and distinct from the one at which it begins. -/
theorem nodup (h : Chain book cursor pages) : (cursor :: (cursors pages).map some).Nodup := by
  induction h with
  | last hnone => simp [cursors, hnone]
  | @onward cursor next pages hsome hrest ih =>
      have hcursors : cursors (book cursor :: pages) = next :: cursors pages := by simp [cursors, hsome]
      refine List.nodup_cons.mpr ⟨?_, hcursors ▸ ih⟩
      cases cursor with
      | none => simp
      | some c => simpa using not_mem_cursors (.onward hsome hrest)

/-- What is left of a chain, when it is not at its end, is the chain from the cursor on that follows. -/
theorem drop (h : Chain book cursor (taken ++ rest)) (hrest : rest ≠ []) :
    Chain book (cursorAfter cursor taken) rest := by
  induction taken using List.reverseRecOn generalizing rest with
  | nil => exact h
  | append_singleton taken page ih =>
      rw [List.append_assoc] at h
      rw [cursorAfter_concat]
      cases ih h (by simp) with
      | last _ => exact absurd rfl hrest
      | onward hsome hchain => rwa [hsome]

/-- A walk that took pages of a chain has seen its end, or may go on up to its limits. -/
theorem verdict (h : Chain book cursor (taken ++ rest)) : Page.verdict limits taken =
    if rest = [] then some .finished else limits.verdict taken.length := by
  induction taken using List.reverseRecOn generalizing rest with
  | nil =>
      rw [List.nil_append] at h
      rw [if_neg h.ne_nil]
      rfl
  | append_singleton taken page _ =>
      rw [List.append_assoc, List.singleton_append] at h
      cases h.drop (by simp) with
      | last hnone => rw [verdict_of_next_none hnone, if_pos rfl]
      | @onward _ next _ hsome hchain =>
          have hnodup := (List.nodup_cons.mp h.nodup).2
          have hcursors : cursors (taken ++ book (cursorAfter cursor taken) :: rest) =
              cursors taken ++ next :: cursors rest := by
            simp [cursors, hsome]
          -- the cursors are distinct along the whole chain, so none of a page before it repeats
          have hnew : next ∉ cursors taken := by
            rw [hcursors, List.map_append] at hnodup
            exact fun hmem => (List.nodup_append.mp hnodup).2.2 _ (List.mem_map_of_mem hmem) _ List.mem_cons_self rfl
          rw [verdict_of_not_mem hsome hnew, if_neg hchain.ne_nil, List.length_append, List.length_singleton]

end Chain

end Page

variable [Seconds τ] {sur : Surroundings σ τ Q R} {fetch : Option String → Work τ Q R (Page α)} {limits : WalkLimits}
  {body : α → Work τ Q R Unit} {book : Option String → Page α} {cursor : Option String} {pages taken : List (Page α)}
  {a b c : Scene σ τ Q} {flag : Option Flag}

/-- The pages that a walk requested are the first ones of the chain. -/
theorem Visited.exists_append (h : Visited sur body fetch cursor a taken c)
    (hfetch : ∀ cursor a b page, (fetch cursor).ComesTo sur a (.ok page) b → page = book cursor)
    (hchain : Page.Chain book cursor pages) (hnext : ∀ page ∈ taken.dropLast, page.next ≠ none) :
    ∃ rest, pages = taken ++ rest := by
  induction h generalizing pages with
  | nil => exact ⟨pages, rfl⟩
  | @cons _ _ _ _ _ _ page taken _ hpage _ hvisited ih =>
      cases hfetch _ _ _ _ hpage
      cases hchain with
      | last hnone =>
          cases taken with
          | nil => exact ⟨[], rfl⟩
          | cons page taken => exact absurd hnone (hnext _ (by simp))
      | onward hsome hrest =>
          rw [hsome] at ih
          have hnext' : ∀ page ∈ taken.dropLast, page.next ≠ none := fun page hpage => by
            refine hnext page ?_
            rw [List.dropLast_cons_of_ne_nil (by rintro rfl; cases hpage)]
            exact List.mem_cons_of_mem _ hpage
          obtain ⟨rest, rfl⟩ := ih hrest hnext'
          exact ⟨rest, rfl⟩

namespace Paging

open Work

/-- Collecting comes to these elements, unless it is stopped. -/
def Gathers (sur : Surroundings σ τ Q R) (limits : WalkLimits) (flag : Option Flag)
    (fetch : Option String → Work τ Q R (Page α)) (cursor : Option String) (a : Scene σ τ Q) (xs : List α) : Prop :=
  ∃ (r : Except (Fault τ) (List α)) (p : Paging α) (b : Scene σ τ Q),
    (collect limits flag fetch (.start cursor)).ComesTo sur a (.ok (r, p)) b ∧
    (r = .ok xs ∨ r = .error .stopped ∧ b.isRaised sur flag = true)

theorem gathers_of_chain (hfetch : ∀ cursor a, ∃ b, (fetch cursor).ComesTo sur a (.ok (book cursor)) b)
    (hchain : Page.Chain book cursor pages) (hallow : limits.Allows pages.length) (a : Scene σ τ Q) :
    Gathers sur limits flag fetch cursor a (pages.flatMap Page.items) := by
  have htotal : ∀ cursor a, ∃ x b, (fetch cursor).ComesTo sur a x b := fun cursor a => ⟨_, hfetch cursor a⟩
  have hbook : ∀ cursor a b page, (fetch cursor).ComesTo sur a (.ok page) b → page = book cursor := by
    intro cursor a b page h
    obtain ⟨b', hb'⟩ := hfetch cursor a
    exact Except.ok.inj (hb'.unique h).1
  obtain ⟨taken, fault, w, b, hproceeds, hlawful⟩ :=
    exists_proceeds_lawful limits flag cursor a htotal fun _ a => ⟨a, .pure () a⟩
  obtain ⟨c, hvisited, hending⟩ := hlawful.visited
  obtain ⟨rest, rfl⟩ := hvisited.exists_append hbook hchain fun page => Page.next_ne_none hlawful.onward
  refine ⟨_, ⟨w, true⟩, b, (hproceeds.collectFrom []).bind (.pure _ b), ?_⟩
  have hverdict : Page.verdict limits taken = _ := hchain.verdict
  cases hending with
  | settled hv hlogs =>
      rw [hverdict] at hv
      by_cases hrest : rest = []
      · rw [if_pos hrest] at hv
        cases hv
        left
        simp [Verdict.fault, hrest]
      · have hlt : taken.length < (taken ++ rest).length := by
          have := List.length_pos_iff.mpr hrest
          rw [List.length_append]
          omega
        rw [if_neg hrest, hallow.verdict_eq_none hlt] at hv
        cases hv
  | stopped _ _ hraised => exact .inr ⟨rfl, hraised⟩
  | failed _ _ _ hfail =>
      obtain ⟨b', hb'⟩ := hfetch _ _
      cases (hfail.unique hb').1

/-- However going through a chain of pages was stopped before the end, by a limit, the flag or a request that failed:
what it gave, and then what is collected from its cursor on, is what is collected without a break. -/
theorem resumes_where_it_stopped (sur : Surroundings σ τ Q R) (sur' : Surroundings σ' τ Q' R') (limits : WalkLimits)
    (flag : Option Flag) (fetch : Option String → Work τ Q R (Page α)) (fetch' : Option String → Work τ Q' R' (Page α))
    (body : α → Work τ Q R Unit) (book : Option String → Page α) (start : Option String) (pages : List (Page α))
    (a : Scene σ τ Q) (hchain : Page.Chain book start pages)
    (hfetch : ∀ cursor a, ∃ x b, (fetch cursor).ComesTo sur a x b ∧ ∀ page, x = .ok page → page = book cursor)
    (hfetch' : ∀ cursor a, ∃ b, (fetch' cursor).ComesTo sur' a (.ok (book cursor)) b)
    (hbody : ∀ x a, ∃ b, (body x).ComesTo sur a (.ok ()) b) :
    (∀ limits' flag' c, limits'.Allows pages.length →
      Gathers sur' limits' flag' fetch' start c (pages.flatMap Page.items)) ∧
    ∃ (taken : List (Page α)) (fault : Option (Fault τ)) (w : Walk α) (b : Scene σ τ Q),
      Loops sur body fetch limits flag .unused (.start start) a (taken.flatMap Page.items) fault ⟨w, true⟩ b ∧
      Walk.Lawful sur body fetch limits flag start a taken fault w b ∧
      (w.pages < pages.length → ∀ limits' flag' c, limits'.Allows (pages.length - w.pages) →
        ∃ left, taken.flatMap Page.items ++ left = pages.flatMap Page.items ∧
          Gathers sur' limits' flag' fetch' w.cursor c left) := by
  refine ⟨fun limits' flag' c hallow => gathers_of_chain hfetch' hchain hallow c, ?_⟩
  have htotal : ∀ cursor a, ∃ x b, (fetch cursor).ComesTo sur a x b := fun cursor a => by
    obtain ⟨x, b, h, -⟩ := hfetch cursor a
    exact ⟨x, b, h⟩
  have hbook : ∀ cursor a b page, (fetch cursor).ComesTo sur a (.ok page) b → page = book cursor := by
    intro cursor a b page h
    obtain ⟨x, b', hx, hpage⟩ := hfetch cursor a
    exact hpage page (hx.unique h).1.symm
  obtain ⟨taken, fault, w, b, hproceeds, hlawful⟩ := exists_proceeds_lawful limits flag start a htotal hbody
  obtain ⟨c, hvisited, -⟩ := hlawful.visited
  obtain ⟨rest, rfl⟩ := hvisited.exists_append hbook hchain fun page => Page.next_ne_none hlawful.onward
  refine ⟨taken, fault, w, b, hproceeds.loops.unused, hlawful, fun hlt limits' flag' c hallow => ?_⟩
  rw [hlawful.pages, List.length_append] at hlt hallow
  have hrest : rest ≠ [] := by
    rintro rfl
    exact absurd hlt (Nat.lt_irrefl _)
  have hverdict : Page.verdict limits taken = _ := hchain.verdict
  rw [if_neg hrest] at hverdict
  have hcursor : w.cursor = Page.cursorAfter start taken :=
    hlawful.cursor fun cursor h => limits.verdict_ne_repeated _ cursor (hverdict ▸ h)
  rw [Nat.add_sub_cancel_left] at hallow
  refine ⟨rest.flatMap Page.items, List.flatMap_append.symm, ?_⟩
  rw [hcursor]
  exact gathers_of_chain hfetch' (hchain.drop hrest) hallow c

/-- A walk that is cut off after one of two pages, and one from there on. -/
theorem resumes_of_two_pages :
    let book : Option String → Page Nat := fun cursor =>
      if cursor.isNone then ⟨[1, 2], some "next", none⟩ else ⟨[3], none, none⟩
    let sur : Surroundings Surroundings.Hours Rat (Option String) (Page Nat) := .quiet fun cursor _ => .ok (book cursor)
    let a : Scene Surroundings.Hours Rat (Option String) := ⟨.start, .start ⟨0, 0, false⟩ ⟨0, [], 0⟩⟩
    ∃ xs fault p b ys, Loops sur (fun _ => pure ()) ask ⟨some 1, 5⟩ none .unused (.start none) a xs fault p b ∧
      xs ++ ys = [1, 2, 3] ∧ Gathers sur ⟨none, 5⟩ none ask p.walk.cursor b ys := by
  intro book sur a
  have hchain : Page.Chain book none [book none, book (some "next")] := .onward rfl (.last rfl)
  have hfetch' : ∀ cursor a, ∃ b, (ask cursor).ComesTo sur a (.ok (book cursor)) b := fun cursor a => ⟨_, .ask cursor a⟩
  have hfetch : ∀ cursor a, ∃ x b, (ask cursor).ComesTo sur a x b ∧ ∀ page, x = .ok page → page = book cursor :=
    fun cursor a => ⟨_, _, .ask cursor a, fun _ h => (Except.ok.inj h).symm⟩
  obtain ⟨-, taken, fault, w, b, hloops, hlawful, hresume⟩ :=
    resumes_where_it_stopped sur sur ⟨some 1, 5⟩ none ask ask (fun _ => pure ()) book none _ a hchain hfetch hfetch'
      fun _ a => ⟨a, .pure () a⟩
  have hpages : w.pages ≤ 1 := hlawful.pages ▸ hlawful.at_most.1
  have hallow : WalkLimits.Allows ⟨none, 5⟩ (2 - w.pages) := fun _ => ⟨fun _ h => (nomatch h), by simp only; omega⟩
  obtain ⟨ys, hys, hgathers⟩ := hresume (Nat.lt_succ_of_le hpages) ⟨none, 5⟩ none b hallow
  exact ⟨_, fault, ⟨w, true⟩, b, ys, hloops, hys, hgathers⟩

end Paging

end RepoCensus
