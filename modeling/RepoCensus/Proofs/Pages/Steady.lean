import RepoCensus.Proofs.Pages.Undisturbed
import RepoCensus.Proofs.Work.Calm

/-!
# Walks over pages that stay

Where the same page is had at a cursor each time, a walk does what can be told from the pages alone.
-/

namespace RepoCensus

open RepoCensus.Calendar Work

variable {τ Q R G α : Type}

/-- The cursors to which pages lead, the beginning included. -/
inductive Page.Leads (page : Option String → Option (Page α)) : Option String → Prop where
  | first : Leads page none
  | next {cursor : Option String} {p : Page α} {c : String} (h : Leads page cursor) (hp : page cursor = some p)
      (hc : p.next = some c) : Leads page (some c)

namespace Walk

/-! ## What the pages tell of a walk -/

section

variable (limits : WalkLimits) (page : Option String → Option (Page α))

/-- The next page, taken from pages that are known; none if it cannot be had. -/
def takeIn (w : Walk α) : Option (Option (List α) × Walk α) :=
  if w.isCut limits then some (none, { w with truncated := true })
  else if limits.ceiling ≤ w.pages then none
  else (page w.cursor).map fun p => (some p.items, w.take p)

/-- A turn over pages that are known. -/
def advanceIn (w : Walk α) : Option (Option (List α) × Walk α) :=
  match w.current with
  | none => takeIn limits page w
  | some p =>
    match p.next with
    | none => some (none, w.finish)
    | some cursor => if cursor ∈ w.seen then none else takeIn limits page (w.moveTo cursor)

/-- A walk over pages that are known. -/
def gatherIn : (turns : Nat) → (taken : List (List α)) → Walk α → Option (List α × Walk α)
  | 0, _, _ => none
  | turns + 1, taken, w =>
    match advanceIn limits page w with
    | none => none
    | some (some items, w) => gatherIn turns (items :: taken) w
    | some (none, w) => some (taken.reverse.flatten, w)

end

/-! ## Which pages matter -/

section

variable {limits : WalkLimits} {page page' : Option String → Option (Page α)} {w w' : Walk α} {o : Option (List α)}

theorem takeIn_eq_some (h : takeIn limits page w = some (o, w')) :
    w.isCut limits = true ∧ o = none ∧ w' = { w with truncated := true } ∨
      w.isCut limits = false ∧ ∃ p, page w.cursor = some p ∧ o = some p.items ∧ w' = w.take p := by
  unfold takeIn at h
  split at h
  · rename_i hcut
    cases h
    exact .inl ⟨hcut, rfl, rfl⟩
  · rename_i hcut
    split at h
    · cases h
    · obtain ⟨p, hp, hpair⟩ := Option.map_eq_some_iff.mp h
      cases hpair
      exact .inr ⟨eq_false_of_ne_true hcut, p, hp, rfl, rfl⟩

/-- A walk that is at a cursor to which the pages lead. -/
structure Follows (page : Option String → Option (Page α)) (w : Walk α) : Prop where
  cursor : w.current = none → Page.Leads page w.cursor
  next : ∀ p c, w.current = some p → p.next = some c → Page.Leads page (some c)

theorem follows_start (page : Option String → Option (Page α)) : Follows page (start none) :=
  ⟨fun _ => .first, fun _ _ h => (nomatch h)⟩

theorem follows_of_takeIn (hw : Page.Leads page w.cursor) {items : List α}
    (h : takeIn limits page w = some (some items, w')) : Follows page w' := by
  rcases takeIn_eq_some h with ⟨_, ho, _⟩ | ⟨_, p, hp, _, rfl⟩
  · cases ho
  · refine ⟨fun hnone => (nomatch hnone), fun p' c hcurrent hnext => ?_⟩
    cases hcurrent
    exact .next hw hp hnext

theorem follows_of_advanceIn (hw : Follows page w) {items : List α}
    (h : advanceIn limits page w = some (some items, w')) : Follows page w' := by
  unfold advanceIn at h
  split at h
  · exact follows_of_takeIn (hw.cursor ‹_›) h
  · rename_i p hcurrent
    split at h
    · cases h
    · rename_i c hnext
      split at h
      · cases h
      · exact follows_of_takeIn (hw.next p c hcurrent hnext) h

variable (hpage : ∀ cursor, Page.Leads page cursor → page' cursor = page cursor)

include hpage

theorem advanceIn_congr (hw : Follows page w) : advanceIn limits page' w = advanceIn limits page w := by
  unfold advanceIn takeIn
  split
  · rw [hpage _ (hw.cursor ‹_›)]
  · rename_i p hcurrent
    split
    · rfl
    · rename_i c hnext
      rw [show (w.moveTo c).cursor = some c from rfl, hpage _ (hw.next p c hcurrent hnext)]

/-- A walk depends on no other pages than those to which the pages lead. -/
theorem gatherIn_congr (turns : Nat) (taken : List (List α)) (hw : Follows page w) :
    gatherIn limits page' turns taken w = gatherIn limits page turns taken w := by
  induction turns generalizing taken w with
  | zero => rfl
  | succ turns ih =>
      unfold gatherIn
      rw [advanceIn_congr hpage hw]
      rcases hadvance : advanceIn limits page w with _ | ⟨_ | items, w'⟩
      · rfl
      · rfl
      · exact ih _ (follows_of_advanceIn hw hadvance)

end

/-! ## The first page of a walk -/

section

variable {limits : WalkLimits} {page : Option String → Option (Page α)} {w w' : Walk α} {o : Option (List α)}

/-- A walk that took the first of the pages. -/
def Begun (page : Option String → Option (Page α)) (w : Walk α) : Prop := ∃ p, page none = some p ∧ w.firstPage = some p

variable (hopen : (start none : Walk α).isCut limits = false)

include hopen

theorem begun_of_takeIn (hw : w = start none ∨ Begun page w) (h : takeIn limits page w = some (o, w')) :
    Begun page w' := by
  rcases takeIn_eq_some h with ⟨hcut, _, rfl⟩ | ⟨_, p, hp, _, rfl⟩
  · rcases hw with rfl | hw
    · cases hcut.symm.trans hopen
    · exact hw
  · rcases hw with rfl | ⟨p', hp', hfirst⟩
    · exact ⟨p, hp, rfl⟩
    · refine ⟨p', hp', ?_⟩
      show w.firstPage.or (some p) = some p'
      rw [hfirst]
      rfl

theorem begun_of_advanceIn (hw : w = start none ∨ Begun page w) (h : advanceIn limits page w = some (o, w')) :
    Begun page w' := by
  unfold advanceIn at h
  split at h
  · exact begun_of_takeIn hopen hw h
  · rename_i p hcurrent
    have hbegun : Begun page w := by
      rcases hw with rfl | hw
      · cases hcurrent
      · exact hw
    split at h
    · cases h
      exact hbegun
    · rename_i cursor _
      split at h
      · cases h
      · have hmoved : Begun page (w.moveTo cursor) := hbegun
        exact begun_of_takeIn hopen (.inr hmoved) h

/-- A walk that ends well has taken the first page. -/
theorem begun_of_gatherIn {turns : Nat} {taken : List (List α)} {items : List α} (hw : w = start none ∨ Begun page w)
    (h : gatherIn limits page turns taken w = some (items, w')) : Begun page w' := by
  induction turns generalizing taken w with
  | zero => cases h
  | succ turns ih =>
      unfold gatherIn at h
      rcases hadvance : advanceIn limits page w with _ | ⟨_ | more, w₁⟩
      · rw [hadvance] at h
        cases h
      · rw [hadvance] at h
        cases h
        exact begun_of_advanceIn hopen hw hadvance
      · rw [hadvance] at h
        exact ih (.inr (begun_of_advanceIn hopen hw hadvance)) h

end

/-! ## What a walk does -/

section

variable {B : Behaviour τ Q R G} {flag : Option Flag} {limits : WalkLimits}
  {fetch : Option String → Work τ Q R (Page α)} {page : Option String → Option (Page α)}

/-- How a turn ended, unless the walk broke. -/
def turn : Except (Fault τ) (Turn τ α × Walk α) → Except (Fault τ) (Option (List α) × Walk α)
  | .ok (.taken items, w) => .ok (some items, w)
  | .ok (.over, w) => .ok (none, w)
  | .ok (.broken fault, _) => .error fault
  | .error fault => .error fault

theorem leaves_turned {o : Option (Page α)} {x : Except (Fault τ) (Page α)} (h : Leaves o x) (w : Walk α) :
    Leaves (o.map fun p => (some p.items, w.take p)) (turn (.ok (w.turned x) : Except (Fault τ) _)) := by
  cases x with
  | ok p => cases h; rfl
  | error fault => exact ⟨by rw [h.1]; rfl, h.2⟩

variable (hB : B.Calm flag) (hfetch : ∀ cursor, Yields B (fetch cursor) (page cursor))

include hB hfetch

theorem attains_takeNext_of_yields (w : Walk α) (n : Numbers) (g : G) :
    Attains B (takeNext limits flag fetch w) n g fun x _ _ => Leaves (takeIn limits page w) (turn x) := by
  unfold takeIn
  refine attains_takeNext hB (fun hcut => ?_) (fun hcut hceiling => ?_) fun hcut hceiling => ?_
  · rw [if_pos hcut]
    rfl
  · rw [if_neg (by simp [hcut]), if_pos hceiling]
    exact Leaves.of_error nofun
  · rw [if_neg (by simp [hcut]), if_neg hceiling]
    exact (hfetch w.cursor n g).mono fun x _ _ hx => leaves_turned hx w

theorem attains_advance_of_yields (w : Walk α) (n : Numbers) (g : G) :
    Attains B (advance limits flag fetch w) n g fun x _ _ => Leaves (advanceIn limits page w) (turn x) := by
  unfold advanceIn
  refine attains_advance hB (fun hcurrent => ?_) (fun p hcurrent hnext => ?_) fun p cursor hcurrent hnext => ?_
  · simp only [hcurrent]
    exact attains_takeNext_of_yields hB hfetch w n g
  · simp only [hcurrent, hnext]
    rfl
  · simp only [hcurrent, hnext]
    by_cases hseen : cursor ∈ w.seen
    · rw [if_pos hseen, if_pos hseen]
      exact Leaves.of_error nofun
    · rw [if_neg hseen, if_neg hseen]
      exact attains_takeNext_of_yields hB hfetch (w.moveTo cursor) n g

/-- A walk over pages that stay gathers what can be told from the pages alone. -/
theorem attains_collectFrom_of_yields (turns : Nat) (taken : List (List α)) (w : Walk α) (n : Numbers) (g : G) :
    Attains B (collectFrom limits flag fetch turns taken w) n g fun x _ _ =>
      Leaves (gatherIn limits page turns taken w) (gathered x) := by
  induction turns generalizing taken w n g with
  | zero => exact .pure (Leaves.of_error nofun)
  | succ turns ih =>
      refine attains_collectFrom ((attains_advance_of_yields hB hfetch w n g).mono fun x n' g' hx => ?_)
      unfold gatherIn
      rcases x with fault | ⟨items | _ | fault, w'⟩
      · rw [hx.1]
        exact Leaves.of_error hx.2
      · have hx : advanceIn limits page w = some (some items, w') := hx
        simp only [hx]
        exact ih _ w' n' g'
      · have hx : advanceIn limits page w = some (none, w') := hx
        simp only [hx]
        rfl
      · rw [hx.1]
        exact Leaves.of_error hx.2

end

end Walk

end RepoCensus
