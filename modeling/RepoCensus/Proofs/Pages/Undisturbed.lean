import RepoCensus.Pages.Walk
import RepoCensus.Proofs.Work.Calm

/-!
# Undisturbed walks

What a walk does with the pages that it takes, where nothing disturbs the work.
-/

namespace RepoCensus

open RepoCensus.Calendar

variable {τ Q R G α : Type}

namespace Walk

open Work

variable {B : Behaviour τ Q R G} {n : Numbers} {g : G} {limits : WalkLimits} {flag : Option Flag}
  {fetch : Option String → Work τ Q R (Page α)} {w : Walk α}

/-- What a turn makes of the answer to a request for the next page. -/
def turned (w : Walk α) : Except (Fault τ) (Page α) → Turn τ α × Walk α
  | .ok page => (.taken page.items, w.take page)
  | .error fault => (.broken fault, w)

section

variable (hB : B.Calm flag) {post : Except (Fault τ) (Turn τ α × Walk α) → Numbers → G → Prop}

include hB

theorem attains_takeNext
    (hcut : w.isCut limits = true → post (.ok (.over, { w with truncated := true })) n g)
    (hceiling : w.isCut limits = false → limits.ceiling ≤ w.pages →
      post (.ok (.broken (.tooManyPages w.pages), w)) n g)
    (hfetch : w.isCut limits = false → ¬ limits.ceiling ≤ w.pages →
      Attains B (fetch w.cursor) n g fun r => post (.ok (w.turned r))) :
    Attains B (takeNext limits flag fetch w) n g post := by
  refine .ite (fun h => (Passes.log hB _ _).attains_bind fun _ => .pure (hcut h)) fun h => ?_
  have h := eq_false_of_ne_true h
  refine .ite (fun h' => .pure (hceiling h h')) fun h' => .bind (attains_isStopped hB ?_)
  refine .result_bind ((hfetch h h').mono fun r m g hr => ?_)
  cases r with
  | ok page => exact .pure hr
  | error fault => exact .pure hr

/-- A turn takes the first page, or closes the page that it stands at and moves on. -/
theorem attains_advance
    (hfirst : w.current = none → Attains B (takeNext limits flag fetch w) n g post)
    (hlast : ∀ page, w.current = some page → page.next = none → post (.ok (.over, w.finish)) n g)
    (hcursor : ∀ page cursor, w.current = some page → page.next = some cursor →
      if cursor ∈ w.seen then post (.ok (.broken (.repeatedCursor cursor w.pages), w)) n g
      else Attains B (takeNext limits flag fetch (w.moveTo cursor)) n g post) :
    Attains B (advance limits flag fetch w) n g post := by
  unfold advance
  split
  · exact hfirst ‹_›
  · rename_i page hpage
    split
    · exact .pure (hlast page hpage ‹_›)
    · rename_i cursor hnext
      have h := hcursor page cursor hpage hnext
      split
      · rw [if_pos ‹_›] at h
        exact .pure h
      · rw [if_neg ‹_›] at h
        exact .ite (fun _ => (Passes.log hB _ _).attains_bind fun _ => h) fun _ => h

theorem attains_takeNext_of_cut (hcut : w.isCut limits = true)
    (h : post (.ok (.over, { w with truncated := true })) n g) :
    Attains B (takeNext limits flag fetch w) n g post := by
  refine attains_takeNext hB (fun _ => h) (fun hnot => ?_) fun hnot => ?_
  · rw [hcut] at hnot
    cases hnot
  · rw [hcut] at hnot
    cases hnot

variable {page : Page α}

theorem attains_advance_first (hcurrent : w.current = none)
    (h : Attains B (takeNext limits flag fetch w) n g post) : Attains B (advance limits flag fetch w) n g post := by
  refine attains_advance hB (fun _ => h) ?_ ?_
  · simp [hcurrent]
  · simp [hcurrent]

theorem attains_advance_last (hcurrent : w.current = some page) (hnext : page.next = none)
    (h : post (.ok (.over, w.finish)) n g) : Attains B (advance limits flag fetch w) n g post := by
  refine attains_advance hB ?_ (fun _ _ _ => h) ?_
  · simp [hcurrent]
  · rintro p c hp hc
    cases hcurrent.symm.trans hp
    cases hnext.symm.trans hc

theorem attains_advance_next {cursor : String} (hcurrent : w.current = some page) (hnext : page.next = some cursor)
    (hnew : cursor ∉ w.seen) (h : Attains B (takeNext limits flag fetch (w.moveTo cursor)) n g post) :
    Attains B (advance limits flag fetch w) n g post := by
  refine attains_advance hB ?_ ?_ ?_
  · simp [hcurrent]
  · rintro p hp hnone
    cases hcurrent.symm.trans hp
    cases hnext.symm.trans hnone
  · rintro p c hp hc
    cases hcurrent.symm.trans hp
    cases hnext.symm.trans hc
    rwa [if_neg hnew]

end

theorem attains_collectFrom {post : Except (Fault τ) (Except (Fault τ) (List α) × Walk α) → Numbers → G → Prop}
    {turns : Nat} {taken : List (List α)}
    (h : Attains B (advance limits flag fetch w) n g fun r m g' => match r with
      | .ok (.taken items, w') => Attains B (collectFrom limits flag fetch turns (items :: taken) w') m g' post
      | .ok (.over, w') => post (.ok (.ok taken.reverse.flatten, w')) m g'
      | .ok (.broken fault, w') => post (.ok (.error fault, w')) m g'
      | .error fault => post (.error fault) m g') :
    Attains B (collectFrom limits flag fetch (turns + 1) taken w) n g post := by
  refine .bind (h.mono fun r m g' hr => ?_)
  cases r with
  | error fault => exact hr
  | ok turn =>
      obtain ⟨_ | _ | _, w'⟩ := turn
      · exact hr
      · exact .pure hr
      · exact .pure hr

/-- The elements of a walk, and how far it came, unless it broke. -/
def gathered (x : Except (Fault τ) (Except (Fault τ) (List α) × Walk α)) : Except (Fault τ) (List α × Walk α) := do
  let (items, w) ← x
  return (← items, w)

end Walk

end RepoCensus
