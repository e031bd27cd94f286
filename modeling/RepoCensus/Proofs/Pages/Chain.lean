import RepoCensus.Proofs.Pages.Undisturbed

/-!
# Chains of pages

A walk along a chain of pages gathers the elements of all of them, or of as many as its limits allow.
-/

namespace RepoCensus

open RepoCensus.Calendar

variable {τ Q R G α : Type}

/-- Each page but the last one tells the cursor of the next one. -/
def Page.Linked : List (Page α) → Prop
  | [] => True
  | [page] => page.next = none
  | page :: page' :: rest => page.next.isSome ∧ Linked (page' :: rest)

instance Page.decidableLinked : (pages : List (Page α)) → Decidable (Page.Linked pages)
  | [] => isTrue trivial
  | [page] => inferInstanceAs (Decidable (page.next = none))
  | _ :: page' :: rest =>
    have := decidableLinked (page' :: rest)
    inferInstanceAs (Decidable (_ ∧ _))

/-- The cursors that pages tell. -/
def Page.cursors (pages : List (Page α)) : List String := pages.filterMap Page.next

/-- From the page number `n` on, so many of the pages to come are taken: all of them, or as many as are left
before the walk is cut off. -/
structure WalkLimits.Allow (limits : WalkLimits) (n : Nat) (rest : List (Page α)) (left : Nat) : Prop where
  le_length : left ≤ rest.length
  le_ceiling : ((n + left : Nat) : Int) ≤ limits.ceiling
  le_maxPages : ∀ m, limits.maxPages = some m → ((n + left : Nat) : Int) ≤ m
  cut : left < rest.length → limits.maxPages = some ((n + left : Nat) : Int)

theorem WalkLimits.Allow.next {limits : WalkLimits} {n left : Nat} {page : Page α} {rest : List (Page α)}
    (h : limits.Allow n (page :: rest) (left + 1)) : limits.Allow (n + 1) rest left := by
  have hn : n + 1 + left = n + (left + 1) := by omega
  constructor
  · exact Nat.le_of_succ_le_succ h.le_length
  · rw [hn]; exact h.le_ceiling
  · rw [hn]; exact h.le_maxPages
  · rw [hn]; exact fun hlt => h.cut (Nat.succ_lt_succ hlt)

namespace Walk

open Work

variable {B : Behaviour τ Q R G} {m : Numbers} {g : G} {limits : WalkLimits} {flag : Option Flag}
  {fetch : Option String → Work τ Q R (Page α)} {w : Walk α} {page first : Page α} {rest pages : List (Page α)}
  {left turns : Nat} {taken : List (List α)} {At : Option String → List (Page α) → G → Prop}

/-- The end of a walk that took these pages of a chain. -/
structure Gathered (first : Page α) (pages : List (Page α)) (truncated : Bool)
    (e : Except (Fault τ) (List α) × Walk α) : Prop where
  items : e.1 = .ok (pages.flatMap Page.items)
  pages : e.2.pages = pages.length
  firstPage : e.2.firstPage = some first
  truncated : e.2.truncated = truncated

theorem isCut_eq_false (h : limits.Allow w.pages rest left) (hleft : 0 < left) : w.isCut limits = false := by
  unfold isCut
  cases hm : limits.maxPages with
  | none => rfl
  | some m =>
      have := h.le_maxPages m hm
      simp only [Option.any_some, decide_eq_false_iff_not]
      omega

theorem isCut_of_left_eq_zero (h : limits.Allow w.pages (page :: rest) 0) : w.isCut limits = true := by
  unfold isCut
  rw [h.cut (Nat.succ_pos _)]
  simp

section

variable (hB : B.Calm flag) (hfetch : ∀ cursor page pages m g, At cursor (page :: pages) g →
  Attains B (fetch cursor) m g fun r _ g' => r = .ok page ∧ At page.next pages g')

include hB hfetch

theorem attains_takeNext_of_allow {pages' : List (Page α)} (hallow : limits.Allow w.pages rest left) (hleft : 0 < left)
    (hg : At w.cursor (page :: pages') g) :
    Attains B (takeNext limits flag fetch w) m g fun r _ g' =>
      r = .ok (.taken page.items, w.take page) ∧ At page.next pages' g' := by
  have hcut := isCut_eq_false hallow hleft
  have hceiling : ¬ limits.ceiling ≤ w.pages := by
    have := hallow.le_ceiling
    omega
  refine attains_takeNext hB ?_ (fun _ h => absurd h hceiling) fun _ _ => ?_
  · rw [hcut]
    exact fun h => nomatch h
  · refine (hfetch _ page pages' m g hg).mono ?_
    rintro r m' g' ⟨rfl, hg'⟩
    exact ⟨rfl, hg'⟩

/-- What the rest of a chain adds to what was taken. `At cursor pages` says that the pages are still to be had,
the first of them at the cursor. -/
theorem attains_collectFrom_of_linked (before : List (Page α)) (hcurrent : w.current = some page)
    (hfirst : w.firstPage = some first) (hlinked : Page.Linked (page :: rest))
    (hnodup : (Page.cursors (page :: rest) ++ w.seen).Nodup) (hallow : limits.Allow w.pages rest left)
    (htruncated : w.truncated = false) (hturns : left < turns) (hg : At page.next (rest.take left) g)
    (htaken : taken.reverse = before.map Page.items) (hpages : w.pages = before.length) :
    Attains B (collectFrom limits flag fetch turns taken w) m g fun r _ g' =>
      ∃ e, r = .ok e ∧ Gathered first (before ++ rest.take left) (decide (left < rest.length)) e ∧
        ∃ cursor, At cursor [] g' := by
  -- on the pages to come; the elements of those that were taken are in `taken`, page by page
  induction rest generalizing w page left turns taken before m g with
  | nil =>
      obtain ⟨turns, rfl⟩ := Nat.exists_eq_add_of_le' (Nat.zero_lt_of_lt hturns)
      have hleft : left = 0 := Nat.le_zero.mp hallow.le_length
      subst hleft
      refine attains_collectFrom (attains_advance_last hB hcurrent hlinked ⟨_, rfl, ⟨?_, ?_, hfirst, htruncated⟩, _, hg⟩)
      · simp [htaken, List.flatMap]
      · simpa [finish] using hpages
  | cons page' rest ih =>
      obtain ⟨turns, rfl⟩ := Nat.exists_eq_add_of_le' (Nat.zero_lt_of_lt hturns)
      obtain ⟨cursor, hnext⟩ := Option.isSome_iff_exists.mp hlinked.1
      have hcursors : Page.cursors (page :: page' :: rest) = cursor :: Page.cursors (page' :: rest) := by
        simp [Page.cursors, hnext]
      rw [hcursors] at hnodup
      obtain ⟨hcursor, hnodup⟩ := List.nodup_cons.mp hnodup
      have hnew : cursor ∉ w.seen := fun h => hcursor (List.mem_append_right _ h)
      refine attains_collectFrom (attains_advance_next hB hcurrent hnext hnew ?_)
      cases left with
      | zero =>
          have hcut : (w.moveTo cursor).isCut limits = true := isCut_of_left_eq_zero (w := w.moveTo cursor) hallow
          refine attains_takeNext_of_cut hB hcut ⟨_, rfl, ⟨?_, ?_, hfirst, ?_⟩, _, hg⟩
          · simp [htaken, List.flatMap]
          · simpa [moveTo] using hpages
          · simp
      | succ left =>
          have hallow' : limits.Allow (w.moveTo cursor).pages (page' :: rest) (left + 1) := hallow
          have hg' : At (some cursor) (page' :: rest.take left) g := hnext ▸ hg
          refine (attains_takeNext_of_allow hB hfetch hallow' (Nat.succ_pos _) hg').mono ?_
          rintro r m' g' ⟨rfl, hg'⟩
          have hnodup' : (Page.cursors (page' :: rest) ++ cursor :: w.seen).Nodup :=
            List.perm_middle.nodup_iff.mpr (List.nodup_cons.mpr ⟨hcursor, hnodup⟩)
          have hfirst' : ((w.moveTo cursor).take page').firstPage = some first := by
            simp [take, moveTo, hfirst]
          have htaken' : (page'.items :: taken).reverse = (before ++ [page']).map Page.items := by
            simp [htaken]
          have hpages' : ((w.moveTo cursor).take page').pages = (before ++ [page']).length := by
            simpa [take, moveTo] using hpages
          have hrest : ∀ m, Attains B (collectFrom limits flag fetch turns (page'.items :: taken) _) m g' _ :=
            fun m => ih (before ++ [page']) rfl hfirst' hlinked.2 hnodup' hallow.next htruncated
              (Nat.lt_of_succ_lt_succ hturns) hg' htaken' hpages'
          simpa [List.append_assoc] using hrest m'

/-- A walk along a chain of pages that lead to new cursors only takes as many of them as it may. -/
theorem attains_collect_of_linked (hlinked : Page.Linked (page :: rest)) (hnodup : (Page.cursors (page :: rest)).Nodup)
    (hallow : limits.Allow 0 (page :: rest) (left + 1)) (hg : At none (page :: rest.take left) g) :
    Attains B (collect limits flag fetch (start none)) m g fun r _ g' =>
      ∃ e, r = .ok e ∧ Gathered page (page :: rest.take left) (decide (left < rest.length)) e ∧
        ∃ cursor, At cursor [] g' := by
  refine attains_collectFrom (attains_advance_first hB rfl ?_)
  have hallow' : limits.Allow (start (α := α) none).pages (page :: rest) (left + 1) := hallow
  refine (attains_takeNext_of_allow hB hfetch hallow' (Nat.succ_pos _) hg).mono ?_
  rintro r m' g' ⟨rfl, hg'⟩
  have hturns : left < (limits.ceiling - 0).toNat := by
    have := hallow.le_ceiling
    omega
  have hnodup' : (Page.cursors (page :: rest) ++ []).Nodup := by rwa [List.append_nil]
  exact attains_collectFrom_of_linked hB hfetch [page] rfl rfl hlinked hnodup' hallow.next rfl hturns hg' rfl rfl

end

end Walk

end RepoCensus
