import RepoCensus.Pages.Walk
import RepoCensus.Proofs.Work.Heed

/-!
# Walks that heed a flag

A walk looks at the flag before it takes a page. If it comes to its end it has taken all the pages up to the last one,
or up to the one after which it is cut off.
-/

namespace RepoCensus

open RepoCensus.Calendar

variable {τ Q R α : Type}

/-- Pages that were had one after another, the latest first: the first of them without a cursor, each other one at the
cursor that the page before it tells. -/
inductive Page.Trail (Had : Option String → Page α → Prop) : List (Page α) → Prop where
  | start : Trail Had []
  | first {p : Page α} (hp : Had none p) : Trail Had [p]
  | next {p p' : Page α} {trail : List (Page α)} {c : String} (h : Trail Had (p :: trail)) (hnext : p.next = some c)
      (hp : Had (some c) p') : Trail Had (p' :: p :: trail)

namespace Walk

open Work

variable {Had : Option String → Page α → Prop} {limits : WalkLimits} {trail : List (Page α)} {w : Walk α} {p : Page α}

/-- A walk that took these pages and stands at the latest one. -/
structure Came (Had : Option String → Page α → Prop) (trail : List (Page α)) (w : Walk α) : Prop where
  had : Page.Trail Had trail
  pages : w.pages = trail.length
  firstPage : w.firstPage = trail.getLast?
  current : w.current = trail.head?
  cursor : trail = [] → w.cursor = none
  truncated : w.truncated = false

/-- A walk that took these pages and is over: it is cut off after so many pages, or the latest page tells no cursor. -/
structure Whole (Had : Option String → Page α → Prop) (limits : WalkLimits) (trail : List (Page α)) (w : Walk α) :
    Prop where
  had : Page.Trail Had trail
  pages : w.pages = trail.length
  firstPage : w.firstPage = trail.getLast?
  ending : (w.truncated = true ∧ ∃ m, limits.maxPages = some m ∧ m ≤ trail.length) ∨
    (w.truncated = false ∧ ∃ p, trail.head? = some p ∧ p.next = none)

theorem came_start : Came Had [] (start none) := ⟨.start, rfl, rfl, rfl, fun _ => rfl, rfl⟩

theorem Came.take (h : Came Had trail w) (hp : Page.Trail Had (p :: trail)) : Came Had (p :: trail) (w.take p) where
  had := hp
  pages := congrArg Nat.succ h.pages
  firstPage := by
    show w.firstPage.or (some p) = _
    rw [h.firstPage, List.getLast?_cons]
    cases trail.getLast? <;> rfl
  current := rfl
  cursor h := nomatch h
  truncated := h.truncated

theorem Came.cut (h : Came Had trail w) (hcut : w.isCut limits = true) :
    Whole Had limits trail { w with truncated := true } := by
  refine ⟨h.had, h.pages, h.firstPage, .inl ⟨rfl, ?_⟩⟩
  obtain ⟨m, hm, hle⟩ := (Option.any_eq_true _ _).mp hcut
  exact ⟨m, hm, h.pages ▸ of_decide_eq_true hle⟩

theorem Came.finish (h : Came Had trail w) (hcurrent : w.current = some p) (hnext : p.next = none) :
    Whole Had limits trail w.finish :=
  ⟨h.had, h.pages, h.firstPage, .inr ⟨h.truncated, p, h.current ▸ hcurrent, hnext⟩⟩

variable {v : Watch τ Q R} {flag : Option Flag} {fetch : Option String → Work τ Q R (Page α)}

/-- How a turn may end of a walk that took these pages: one more is taken, or the walk is over, or it breaks off. -/
def Turned (v : Watch τ Q R) (Had : Option String → Page α → Prop) (limits : WalkLimits) (trail : List (Page α)) :
    Turn τ α × Walk α → Prop
  | (.taken items, w) => ∃ p, items = p.items ∧ Came Had (p :: trail) w
  | (.over, w) => Whole Had limits trail w
  | (.broken fault, _) => fault.IsWord → v.Told fault

section

variable (hflag : flag = some v.flag) (hfetch : ∀ cursor, Heeds v false false (Had cursor) (fetch cursor))

include hflag hfetch

theorem heeds_takeNext (hw : w.isCut limits = true → Whole Had limits trail { w with truncated := true })
    (hp : ∀ p, Had w.cursor p → Came Had (p :: trail) (w.take p)) :
    Heeds v false false (Turned v Had limits trail) (takeNext limits flag fetch w) := by
  refine .ite (fun hcut => (Heeds.log _ _).bind fun _ _ => .pure (hw hcut)) fun _ => ?_
  refine .ite (fun _ => .pure nofun) fun _ => Heeds.isStopped_bind hflag (.pure nofun) ?_
  refine (hfetch w.cursor).strengthen.result.bind fun outcome houtcome => ?_
  cases outcome with
  | ok p => exact .pure ⟨p, rfl, hp p houtcome⟩
  | error fault => exact .pure houtcome

theorem heeds_advance (hw : Came Had trail w) :
    Heeds v false false (Turned v Had limits trail) (advance limits flag fetch w) := by
  unfold advance
  split
  · rename_i hnone
    have hnil : trail = [] := List.head?_eq_none_iff.mp (hw.current.symm.trans hnone)
    refine heeds_takeNext hflag hfetch hw.cut fun p hp => hw.take ?_
    rw [hw.cursor hnil] at hp
    subst hnil
    exact .first hp
  · rename_i page hpage
    split
    · exact .pure (hw.finish hpage ‹_›)
    · rename_i cursor hnext
      split
      · exact .pure nofun
      · obtain ⟨rest, rfl⟩ := List.head?_eq_some_iff.mp (hw.current.symm.trans hpage)
        have hmoved : Heeds v false false (Turned v Had limits (page :: rest))
            (takeNext limits flag fetch (w.moveTo cursor)) := by
          refine heeds_takeNext hflag hfetch (fun hcut => ?_) fun p hp => ?_
          · have hcut := hw.cut hcut
            exact ⟨hcut.had, hcut.pages, hcut.firstPage, hcut.ending⟩
          · have hcame := hw.take (.next hw.had hnext hp)
            exact ⟨hcame.had, hcame.pages, hcame.firstPage, rfl, nofun, hcame.truncated⟩
        exact .ite (fun _ => (Heeds.log _ _).bind fun _ _ => hmoved) fun _ => hmoved

/-- A walk heeds the flag, and if it comes to its end it has taken all its pages. -/
theorem heeds_collectFrom (turns : Nat) {taken : List (List α)} (htaken : taken = trail.map Page.items)
    (hw : Came Had trail w) : Heeds v false false
      (fun e => Tells v.Told (fun items => ∃ trail, items = trail.reverse.flatMap Page.items ∧
        Whole Had limits trail e.2) e.1)
      (collectFrom limits flag fetch turns taken w) := by
  induction turns generalizing trail taken w with
  | zero => exact .pure nofun
  | succ turns ih =>
      refine (heeds_advance hflag hfetch hw).bind ?_
      rintro ⟨_ | _ | _, w'⟩ hturn
      · obtain ⟨p, rfl, hcame⟩ := hturn
        exact ih (congrArg _ htaken) hcame
      · refine .pure ⟨trail, ?_, hturn⟩
        rw [htaken, ← List.map_reverse]
        rfl
      · exact .pure hturn

theorem heeds_collect : Heeds v false false
    (fun e => Tells v.Told (fun items => ∃ trail, items = trail.reverse.flatMap Page.items ∧
      Whole Had limits trail e.2) e.1)
    (collect limits flag fetch (start none)) :=
  heeds_collectFrom hflag hfetch _ rfl came_start

end

end Walk

end RepoCensus
