import RepoCensus.Pages.Iteration
import RepoCensus.Proofs.Pages.Verdict
import RepoCensus.Proofs.World.Drift
import RepoCensus.Proofs.World.Scene

/-!
# The law of a walk

Which pages a walk requests, and how it ends, is told by the pages that it took. Main statement: whoever goes through a
collection, one element at a time or all at once, gets the elements of the pages in the order of their cursors. Each
page is requested once, and only when the elements of the pages before it are used up.
-/

namespace RepoCensus

open RepoCensus.Calendar

variable {σ τ Q R α : Type}

/-! ## What happens in the course of a walk -/

section

variable [Seconds τ] (sur : Surroundings σ τ Q R) (body : α → Work τ Q R Unit)

/-- Elements are used up, one after another. -/
inductive Consumed : Scene σ τ Q → List α → Scene σ τ Q → Prop where
  | nil (a : Scene σ τ Q) : Consumed a [] a
  | cons {a b c : Scene σ τ Q} {x : α} {xs : List α} (hx : (body x).ComesTo sur a (.ok ()) b) (h : Consumed b xs c) :
      Consumed a (x :: xs) c

variable (fetch : Option String → Work τ Q R (Page α))

/-- Pages are requested one after another, from a cursor on, each with the cursor that the page before it tells, and
when the elements of that page are used up. Nothing else happens but that entries of the log are made. -/
inductive Visited : Option String → Scene σ τ Q → List (Page α) → Scene σ τ Q → Prop where
  | nil (cursor : Option String) (a : Scene σ τ Q) : Visited cursor a [] a
  | cons {cursor : Option String} {a a' b c d : Scene σ τ Q} {page : Page α} {pages : List (Page α)}
      (hlogs : a.Logs a') (hpage : (fetch cursor).ComesTo sur a' (.ok page) b)
      (hitems : Consumed sur body b page.items c) (h : Visited page.next c pages d) : Visited cursor a (page :: pages) d

variable (limits : WalkLimits) (flag : Option Flag)

/-- How a walk ends that took these pages, in the scene in which their elements were used up: as the pages tell, or at
the request for a further page, which is not made when the flag is raised, and which may fail. -/
inductive Walk.Ending (start : Option String) (taken : List (Page α)) (a : Scene σ τ Q) :
    Option (Fault τ) → Scene σ τ Q → Prop where
  | settled {v : Verdict} {b : Scene σ τ Q} (h : Page.verdict limits taken = some v) (hlogs : a.Logs b) :
      Ending start taken a (v.fault taken.length) b
  | stopped {b : Scene σ τ Q} (h : Page.verdict limits taken = none) (hlogs : a.Logs b)
      (hraised : b.isRaised sur flag = true) : Ending start taken a (some .stopped) b
  | failed {a' b : Scene σ τ Q} {fault : Fault τ} (h : Page.verdict limits taken = none) (hlogs : a.Logs a')
      (hraised : a'.isRaised sur flag = false)
      (hfetch : (fetch (Page.cursorAfter start taken)).ComesTo sur a' (.error fault) b) :
      Ending start taken a (some fault) b

/-- A walk from a cursor on that took these pages and ended with this fault, or with none. -/
structure Walk.Lawful (start : Option String) (a : Scene σ τ Q) (taken : List (Page α)) (fault : Option (Fault τ))
    (w : Walk α) (b : Scene σ τ Q) : Prop where
  visited : ∃ c, Visited sur body fetch start a taken c ∧ Ending sur fetch limits flag start taken c fault b
  /-- The first verdict applies. -/
  onward : ∀ n < taken.length, Page.verdict limits (taken.take n) = none
  pages : w.pages = taken.length
  firstPage : w.firstPage = taken.head?
  finished : w.finished = true ↔ Page.verdict limits taken = some .finished
  truncated : w.truncated = true ↔ Page.verdict limits taken = some .truncated
  cursor : (∀ c, Page.verdict limits taken ≠ some (.repeated c)) → w.cursor = Page.cursorAfter start taken
  /-- The limits bound the requests that are made, one that fails included. -/
  at_most : taken.length ≤ limits.mostPages ∧ (Page.verdict limits taken = none → taken.length < limits.mostPages)
  /-- No cursor that was handed out is requested twice. -/
  distinct : (Page.cursors taken.dropLast).Nodup ∧
    (Page.verdict limits taken = none → (Page.cursors taken).Nodup)

/-- Something is done with each element of a collection, one after another, until it ends or breaks. -/
inductive Paging.Loops :
    Iterator α → Paging α → Scene σ τ Q → List α → Option (Fault τ) → Paging α → Scene σ τ Q → Prop where
  | stops {i i' : Iterator α} {p p' : Paging α} {a b : Scene σ τ Q}
      (h : (pull limits flag fetch i p).ComesTo sur a (.ok (.stop, i', p')) b) : Loops i p a [] none p' b
  | breaks {i i' : Iterator α} {p p' : Paging α} {a b : Scene σ τ Q} {fault : Fault τ}
      (h : (pull limits flag fetch i p).ComesTo sur a (.ok (.broken fault, i', p')) b) :
      Loops i p a [] (some fault) p' b
  | element {i i' : Iterator α} {p p' p'' : Paging α} {a b c d : Scene σ τ Q} {x : α} {xs : List α}
      {fault : Option (Fault τ)} (h : (pull limits flag fetch i p).ComesTo sur a (.ok (.element x, i', p')) b)
      (hx : (body x).ComesTo sur b (.ok ()) c) (hrest : Loops i' p' c xs fault p'' d) :
      Loops i p a (x :: xs) fault p'' d

end

/-! ## A turn of a walk -/

/-- The turn at which a walk ends, by the fault with which it breaks. -/
def Turn.ending : Option (Fault τ) → Turn τ α
  | none => .over
  | some fault => .broken fault

namespace Walk

open Work

variable {start : Option String} {taken : List (Page α)} {page : Page α} {cursor : String}

/-- A walk that stands at the last of the pages that it took. -/
def standing (start : Option String) (taken : List (Page α)) : Walk α :=
  ⟨taken.length, Page.cursorAfter start taken.dropLast, false, false, taken.head?,
    (Page.cursors taken.dropLast).reverse, taken.getLast?⟩

/-- A walk that is to request the page after those that it took. -/
def ready (start : Option String) (taken : List (Page α)) : Walk α :=
  ⟨taken.length, Page.cursorAfter start taken, false, false, taken.head?, (Page.cursors taken).reverse, none⟩

/-- A walk at its end, by the verdict on the pages that it took. -/
def closed (start : Option String) (taken : List (Page α)) : Option Verdict → Walk α
  | some .finished => (standing start taken).finish
  | some (.repeated _) => standing start taken
  | some .truncated => { ready start taken with truncated := true }
  | some .exhausted | none => ready start taken

theorem take_ready (start : Option String) (taken : List (Page α)) (page : Page α) :
    (ready start taken).take page = standing start (taken ++ [page]) := by
  simp [take, ready, standing, List.head?_append]

theorem moveTo_standing (start : Option String) (taken : List (Page α)) (hnext : page.next = some cursor) :
    (standing start (taken ++ [page])).moveTo cursor = ready start (taken ++ [page]) := by
  have hcursors : Page.cursors [page] = [cursor] := by simp [Page.cursors, hnext]
  simp [moveTo, ready, standing, hnext, Page.cursors_append, hcursors]

section

variable [Seconds τ] (sur : Surroundings σ τ Q R) (fetch : Option String → Work τ Q R (Page α)) (flag : Option Flag)

/-- What a turn makes of a walk that took these pages, by the verdict on them. -/
inductive Steps (start : Option String) (taken : List (Page α)) (a : Scene σ τ Q) :
    Option Verdict → Turn τ α × Walk α → Scene σ τ Q → Prop where
  | settled {v : Verdict} {b : Scene σ τ Q} (hlogs : a.Logs b) :
      Steps start taken a (some v) (.ending (v.fault taken.length), closed start taken (some v)) b
  | stopped {b : Scene σ τ Q} (hlogs : a.Logs b) (hraised : b.isRaised sur flag = true) :
      Steps start taken a none (.broken .stopped, ready start taken) b
  | answered {a' b : Scene σ τ Q} {x : Except (Fault τ) (Page α)} (hlogs : a.Logs a')
      (hraised : a'.isRaised sur flag = false)
      (hfetch : (fetch (Page.cursorAfter start taken)).ComesTo sur a' x b) :
      Steps start taken a none ((ready start taken).turned x) b

end

variable [Seconds τ] {sur : Surroundings σ τ Q R} {fetch : Option String → Work τ Q R (Page α)} {flag : Option Flag}
  {limits : WalkLimits} {body : α → Work τ Q R Unit} {a a' b c d : Scene σ τ Q} {w w' w₁ : Walk α}
  {fault : Option (Fault τ)} {p p' : Paging α} {xs ys : List α}

theorem Steps.after {v : Option Verdict} {r : Turn τ α × Walk α} (hlogs : a.Logs a')
    (h : Steps sur fetch flag start taken a' v r b) : Steps sur fetch flag start taken a v r b := by
  cases h with
  | settled hlogs' => exact .settled (hlogs.trans hlogs')
  | stopped hlogs' hraised => exact .stopped (hlogs.trans hlogs') hraised
  | answered hlogs' hraised hfetch => exact .answered (hlogs.trans hlogs') hraised hfetch

section

variable (hfetch : ∀ cursor a, ∃ x b, (fetch cursor).ComesTo sur a x b)

include hfetch

theorem comesTo_takeNext (hallow : limits.Allows taken.length) (a : Scene σ τ Q) :
    ∃ r b, Steps sur fetch flag start taken a (limits.verdict taken.length) r b ∧
      (takeNext limits flag fetch (ready start taken)).ComesTo sur a (.ok r) b := by
  rw [WalkLimits.verdict_eq hallow]
  unfold takeNext
  change ∃ r b, _ ∧
    ComesTo sur (if limits.maxPages.any (fun m => decide (m ≤ (taken.length : Int))) then _ else _) _ _ _
  split
  · exact ⟨_, _, .settled (.once a _ _), (ComesTo.log _ _ a).bind (.pure _ _)⟩
  split
  next h =>
    rw [if_pos (show limits.ceiling ≤ ((ready start taken).pages : Int) from h)]
    exact ⟨_, _, .settled .refl, .pure _ _⟩
  next h =>
    rw [if_neg (show ¬ limits.ceiling ≤ ((ready start taken).pages : Int) from h)]
    cases hraised : a.isRaised sur flag with
    | true =>
        refine ⟨_, _, .stopped .refl hraised, (ComesTo.isStopped flag a).bind ?_⟩
        rw [hraised]
        exact .pure _ _
    | false =>
        obtain ⟨x, b, hx⟩ := hfetch (Page.cursorAfter start taken) a
        refine ⟨_, _, .answered .refl hraised hx, (ComesTo.isStopped flag a).bind ?_⟩
        rw [hraised]
        refine hx.result_bind ?_
        cases x <;> exact .pure _ _

/-- A walk closes the page that it stands at as the pages tell, or goes on to the next one. -/
theorem comesTo_advance (hallow : limits.Allows taken.length) (a : Scene σ τ Q) :
    ∃ r b, Steps sur fetch flag start taken a (Page.verdict limits taken) r b ∧
      (advance limits flag fetch (standing start taken)).ComesTo sur a (.ok r) b := by
  -- the walk stands at the page that it took last, so this is split off the end
  induction taken using List.reverseRecOn with
  | nil => exact comesTo_takeNext hfetch hallow a
  | append_singleton taken page _ =>
      have hcurrent : (standing start (taken ++ [page])).current = some page := by simp [standing]
      have hseen : (standing start (taken ++ [page])).seen = (Page.cursors taken).reverse := by simp [standing]
      unfold advance
      simp only [hcurrent, hseen]
      cases hnext : page.next with
      | none =>
          rw [Page.verdict_of_next_none hnext]
          exact ⟨_, _, .settled .refl, .pure _ a⟩
      | some cursor =>
          simp only [List.mem_reverse]
          by_cases hmem : cursor ∈ Page.cursors taken
          · rw [Page.verdict_of_mem hnext hmem, if_pos hmem]
            exact ⟨_, _, .settled .refl, .pure _ a⟩
          · rw [Page.verdict_of_not_mem hnext hmem, if_neg hmem, moveTo_standing start taken hnext]
            have hlength : taken.length + 1 = (taken ++ [page]).length := by simp
            rw [hlength]
            split
            · obtain ⟨r, b, hr, hb⟩ := comesTo_takeNext hfetch hallow (a.logged .debug _)
              exact ⟨r, b, hr.after (.once a _ _), (ComesTo.log _ _ a).bind hb⟩
            · exact comesTo_takeNext hfetch hallow a

end

/-! ## A whole walk -/

section

variable (sur body fetch flag limits)

/-- A walk takes pages, one after another, until it ends. The elements of each are used up before the next turn. -/
inductive Proceeds : Walk α → Scene σ τ Q → List (Page α) → Option (Fault τ) → Walk α → Scene σ τ Q → Prop where
  | ended {w w' : Walk α} {a b : Scene σ τ Q} {fault : Option (Fault τ)}
      (h : (advance limits flag fetch w).ComesTo sur a (.ok (.ending fault, w')) b) : Proceeds w a [] fault w' b
  | taken {w w₁ w' : Walk α} {a b c d : Scene σ τ Q} {page : Page α} {taken : List (Page α)} {fault : Option (Fault τ)}
      (h : (advance limits flag fetch w).ComesTo sur a (.ok (.taken page.items, w₁)) b)
      (hturns : w.turnsLeft limits = w₁.turnsLeft limits + 1) (hitems : Consumed sur body b page.items c)
      (hrest : Proceeds w₁ c taken fault w' d) : Proceeds w a (page :: taken) fault w' d

/-- A walk that took some pages takes the rest of them from there on, and ends. -/
structure Completes (start : Option String) (taken : List (Page α)) (a : Scene σ τ Q) (rest : List (Page α))
    (fault : Option (Fault τ)) (b : Scene σ τ Q) : Prop where
  proceeds : Proceeds sur fetch flag limits body (standing start taken) a rest fault
    (closed start (taken ++ rest) (Page.verdict limits (taken ++ rest))) b
  visited : ∃ c, Visited sur body fetch (Page.cursorAfter start taken) a rest c ∧
    Ending sur fetch limits flag start (taken ++ rest) c fault b
  onward : ∀ n < rest.length, Page.verdict limits (taken ++ rest.take n) = none

end

theorem exists_consumed (hbody : ∀ x a, ∃ b, (body x).ComesTo sur a (.ok ()) b) (xs : List α) (a : Scene σ τ Q) :
    ∃ b, Consumed sur body a xs b := by
  induction xs generalizing a with
  | nil => exact ⟨a, .nil a⟩
  | cons x xs ih =>
      obtain ⟨b, hb⟩ := hbody x a
      obtain ⟨c, hc⟩ := ih b
      exact ⟨c, .cons hb hc⟩

theorem turnsLeft_standing (start : Option String) (taken : List (Page α)) (page : Page α)
    (h : (taken.length : Int) < limits.ceiling) :
    (standing start taken).turnsLeft limits = (standing start (taken ++ [page])).turnsLeft limits + 1 := by
  simp only [turnsLeft, standing, List.length_append, List.length_singleton]
  omega

theorem Completes.ended (h : (advance limits flag fetch (standing start taken)).ComesTo sur a
    (.ok (.ending fault, closed start taken (Page.verdict limits taken))) b)
    (hending : Ending sur fetch limits flag start taken a fault b) :
    Completes sur fetch flag limits body start taken a [] fault b := by
  constructor
  case proceeds =>
    rw [List.append_nil]
    exact .ended h
  case visited =>
    rw [List.append_nil]
    exact ⟨a, .nil _ a, hending⟩
  case onward => exact fun n hn => absurd hn (Nat.not_lt_zero n)

theorem Completes.cons (hv : Page.verdict limits taken = none) (hceiling : (taken.length : Int) < limits.ceiling)
    (hlogs : a.Logs a') (hpage : (fetch (Page.cursorAfter start taken)).ComesTo sur a' (.ok page) b)
    (h : (advance limits flag fetch (standing start taken)).ComesTo sur a
      (.ok (.taken page.items, standing start (taken ++ [page]))) b)
    (hitems : Consumed sur body b page.items c)
    (hrest : Completes sur fetch flag limits body start (taken ++ [page]) c rest fault d) :
    Completes sur fetch flag limits body start taken a (page :: rest) fault d := by
  obtain ⟨hproceeds, ⟨e, hvisited, hending⟩, honward⟩ := hrest
  rw [List.append_assoc, List.singleton_append] at hproceeds hending
  rw [Page.cursorAfter_concat] at hvisited
  constructor
  case proceeds => exact .taken h (turnsLeft_standing start taken page hceiling) hitems hproceeds
  case visited => exact ⟨e, .cons hlogs hpage hitems hvisited, hending⟩
  case onward =>
    intro n hn
    cases n with
    | zero => simpa using hv
    | succ n => simpa using honward n (Nat.lt_of_succ_lt_succ hn)

/-- From the pages that it took on, a walk proceeds to its end. -/
theorem exists_completes (flag : Option Flag) (hfetch : ∀ cursor a, ∃ x b, (fetch cursor).ComesTo sur a x b)
    (hbody : ∀ x a, ∃ b, (body x).ComesTo sur a (.ok ()) b) (start : Option String)
    (hallow : limits.Allows taken.length) (a : Scene σ τ Q) :
    ∃ rest fault b, Completes sur fetch flag limits body start taken a rest fault b := by
  -- on the pages that the ceiling leaves; that no limit was passed so far is what each turn keeps
  induction hk : (limits.ceiling - taken.length).toNat using Nat.strongRecOn generalizing taken a with
  | ind k ih =>
      have hstep : ∃ r b, Steps sur fetch flag start taken a (Page.verdict limits taken) r b ∧ _ :=
        comesTo_advance hfetch hallow a
      obtain ⟨r, b, hr, hb⟩ := hstep
      generalize hv : Page.verdict limits taken = v at hr
      cases hr with
      | @settled v b hlogs => exact ⟨[], _, b, .ended (hv ▸ hb) (.settled hv hlogs)⟩
      | stopped hlogs hraised => exact ⟨[], _, b, .ended (hv ▸ hb) (.stopped hv hlogs hraised)⟩
      | @answered a' b x hlogs hraised hpage =>
          cases x with
          | error fault => exact ⟨[], some fault, b, .ended (hv ▸ hb) (.failed hv hlogs hraised hpage)⟩
          | ok page =>
              have hlimits := Page.limits_of_verdict hv
              have hceiling := ((WalkLimits.verdict_eq_none_iff hallow).mp hlimits).2
              have hallow' : limits.Allows (taken ++ [page]).length := by
                rw [List.length_append]
                exact hallow.succ hlimits
              have hsmaller : (limits.ceiling - (taken ++ [page]).length).toNat < k := by
                rw [List.length_append, List.length_singleton]
                omega
              have htaken : (advance limits flag fetch (standing start taken)).ComesTo sur a
                  (.ok (.taken page.items, standing start (taken ++ [page]))) b := take_ready start taken page ▸ hb
              obtain ⟨c, hitems⟩ := exists_consumed hbody page.items b
              obtain ⟨rest, fault, d, hrest⟩ := ih _ hsmaller hallow' c rfl
              exact ⟨page :: rest, fault, d, .cons hv hceiling hlogs hpage htaken hitems hrest⟩

theorem lawful_closed {fault : Option (Fault τ)}
    (hvisited : ∃ c, Visited sur body fetch start a taken c ∧ Ending sur fetch limits flag start taken c fault b)
    (honward : ∀ n < taken.length, Page.verdict limits (taken.take n) = none) :
    Lawful sur body fetch limits flag start a taken fault (closed start taken (Page.verdict limits taken)) b := by
  have hlimits : ∀ n < taken.length, limits.verdict n = none := fun n hn => by
    have := Page.limits_of_verdict (honward n hn)
    rwa [List.length_take, Nat.min_eq_left (Nat.le_of_lt hn)] at this
  have hallow := WalkLimits.allows_of_verdicts hlimits
  constructor
  case visited => exact hvisited
  case onward => exact honward
  case at_most =>
    exact ⟨hallow.le_mostPages, fun h => (hallow.succ (Page.limits_of_verdict h)).le_mostPages⟩
  case distinct =>
    refine ⟨Page.nodup_cursors_dropLast honward, fun h => ?_⟩
    have hall : ∀ n ≤ taken.length, Page.verdict limits (taken.take n) = none := fun n hn => by
      obtain hn | rfl := Nat.lt_or_eq_of_le hn
      · exact honward n hn
      · rwa [List.take_length]
    exact Page.nodup_cursors hall
  case cursor =>
    intro hrepeated
    cases hv : Page.verdict limits taken with
    | none => rfl
    | some v =>
        cases v with
        | finished => exact (Page.cursorAfter_of_finished hv).symm
        | repeated cursor => exact absurd hv (hrepeated cursor)
        | truncated => rfl
        | exhausted => rfl
  -- the other fields are read off the walk at its end, verdict by verdict
  all_goals
    generalize Page.verdict limits taken = v
    rcases v with _ | _ | _ | _ | _ <;> simp [closed, standing, ready, finish]

end Walk

/-! ## Element by element, and all at once -/

open Work

variable [Seconds τ] {sur : Surroundings σ τ Q R} {fetch : Option String → Work τ Q R (Page α)} {flag : Option Flag}
  {limits : WalkLimits} {body : α → Work τ Q R Unit} {a b c d : Scene σ τ Q} {w w' w₁ : Walk α} {begun : Bool}
  {fault : Option (Fault τ)} {p : Paging α} {x : α} {xs ys : List α} {rest : List (Page α)}

namespace Paging

theorem pull_cons (limits : WalkLimits) (flag : Option Flag) (fetch : Option String → Work τ Q R (Page α)) (x : α)
    (xs : List α) (w : Walk α) (begun : Bool) (a : Scene σ τ Q) :
    (pull limits flag fetch (.reading (x :: xs)) ⟨w, begun⟩).ComesTo sur a
      (.ok (.element x, .reading xs, ⟨w, true⟩)) a := rfl

theorem pull_iff_of_taken (h : (w.advance limits flag fetch).ComesTo sur a (.ok (.taken xs, w₁)) b)
    (hturns : w.turnsLeft limits = w₁.turnsLeft limits + 1) {r : Pulled τ α × Iterator α × Paging α} :
    (pull limits flag fetch (.reading []) ⟨w, begun⟩).ComesTo sur a (.ok r) c ↔
      (pull limits flag fetch (.reading xs) ⟨w₁, true⟩).ComesTo sur b (.ok r) c := by
  unfold pull
  -- the page that is taken uses up one of the turns that are left, so the loop goes on with the rest of them
  simp only [hturns]
  rw [pullFrom, bind_assoc]
  exact h.bind_iff

theorem pull_of_ending (h : (w.advance limits flag fetch).ComesTo sur a (.ok (.ending fault, w')) b) :
    (pull limits flag fetch (.reading []) ⟨w, begun⟩).ComesTo sur a
      (.ok (fault.elim .stop .broken, .ended, ⟨w', true⟩)) b := by
  unfold pull Walk.turnsLeft
  simp only
  rw [pullFrom, bind_assoc]
  refine h.bind ?_
  cases fault <;> exact .pure _ b

theorem Loops.of_taken (h : (w.advance limits flag fetch).ComesTo sur a (.ok (.taken xs, w₁)) b)
    (hturns : w.turnsLeft limits = w₁.turnsLeft limits + 1)
    (hloops : Loops sur body fetch limits flag (.reading xs) ⟨w₁, true⟩ b ys fault p c) :
    Loops sur body fetch limits flag (.reading []) ⟨w, begun⟩ a ys fault p c := by
  cases hloops with
  | stops hpull => exact .stops ((pull_iff_of_taken h hturns).mpr hpull)
  | breaks hpull => exact .breaks ((pull_iff_of_taken h hturns).mpr hpull)
  | element hpull hx hrest => exact .element ((pull_iff_of_taken h hturns).mpr hpull) hx hrest

/-- The elements that are left come before those of the pages to come. -/
theorem Loops.of_consumed (hitems : Consumed sur body a xs b)
    (hloops : Loops sur body fetch limits flag (.reading []) ⟨w, true⟩ b ys fault p c) :
    Loops sur body fetch limits flag (.reading xs) ⟨w, true⟩ a (xs ++ ys) fault p c := by
  induction hitems with
  | nil => exact hloops
  | cons hx _ ih => exact .element (pull_cons limits flag fetch _ _ w true _) hx (ih hloops)

theorem Loops.unused (h : Loops sur body fetch limits flag (.reading []) ⟨w, false⟩ a ys fault p c) :
    Loops sur body fetch limits flag .unused ⟨w, false⟩ a ys fault p c := by
  cases h with
  | stops hpull => exact .stops hpull
  | breaks hpull => exact .breaks hpull
  | element hpull hx hrest => exact .element hpull hx hrest

end Paging

namespace Walk

theorem Proceeds.loops (h : Proceeds sur fetch flag limits body w a rest fault w' b) :
    Paging.Loops sur body fetch limits flag (.reading []) ⟨w, begun⟩ a (rest.flatMap Page.items) fault
      ⟨w', true⟩ b := by
  induction h generalizing begun with
  | @ended _ _ _ _ fault h =>
      cases fault with
      | none => exact .stops (Paging.pull_of_ending h)
      | some fault => exact .breaks (Paging.pull_of_ending h)
  | taken h hturns hitems _ ih => exact .of_taken h hturns (.of_consumed hitems ih)

theorem eq_of_consumed_idle (h : Consumed sur (fun _ : α => pure ()) a xs b) : b = a := by
  induction h with
  | nil => rfl
  | cons hx _ ih => exact ih.trans (hx.unique (.pure () _)).2.symm

theorem Proceeds.collectFrom (h : Proceeds sur fetch flag limits (fun _ => pure ()) w a rest fault w' b)
    (before : List (List α)) :
    (collectFrom limits flag fetch (w.turnsLeft limits) before w).ComesTo sur a
      (.ok (fault.elim (.ok (before.reverse.flatten ++ rest.flatMap Page.items)) .error, w')) b := by
  induction h generalizing before with
  | @ended _ _ _ _ fault h =>
      refine h.bind ?_
      cases fault with
      | none =>
          rw [List.flatMap_nil, List.append_nil]
          exact .pure _ _
      | some fault => exact .pure _ _
  | taken h hturns hitems _ ih =>
      rw [hturns]
      refine h.bind ?_
      rw [← eq_of_consumed_idle hitems]
      simpa using ih (_ :: before)

end Walk

namespace Paging

theorem exists_proceeds_lawful (limits : WalkLimits) (flag : Option Flag) (start : Option String) (a : Scene σ τ Q)
    (hfetch : ∀ cursor a, ∃ x b, (fetch cursor).ComesTo sur a x b)
    (hbody : ∀ x a, ∃ b, (body x).ComesTo sur a (.ok ()) b) :
    ∃ (taken : List (Page α)) (fault : Option (Fault τ)) (w : Walk α) (b : Scene σ τ Q),
      Walk.Proceeds sur fetch flag limits body (.start start) a taken fault w b ∧
      Walk.Lawful sur body fetch limits flag start a taken fault w b := by
  have hallow : limits.Allows ([] : List (Page α)).length := .zero limits
  obtain ⟨taken, fault, b, h⟩ := Walk.exists_completes flag hfetch hbody start hallow a
  exact ⟨taken, fault, _, b, h.proceeds, Walk.lawful_closed h.visited h.onward⟩

/-- Going through a collection element by element takes the pages in the order of their cursors, each once and only when
the elements of the page before it are used up, and gives their elements in this order. It ends by the first verdict
on the pages that it took, unless it is stopped or a request fails. Collecting all elements does the same. -/
theorem goes_through_lawfully (sur : Surroundings σ τ Q R) (limits : WalkLimits) (flag : Option Flag)
    (fetch : Option String → Work τ Q R (Page α)) (body : α → Work τ Q R Unit) (start : Option String)
    (a : Scene σ τ Q) (hfetch : ∀ cursor a, ∃ x b, (fetch cursor).ComesTo sur a x b)
    (hbody : ∀ x a, ∃ b, (body x).ComesTo sur a (.ok ()) b) :
    (∃ (taken : List (Page α)) (fault : Option (Fault τ)) (w : Walk α) (b : Scene σ τ Q),
      Loops sur body fetch limits flag .unused (.start start) a (taken.flatMap Page.items) fault ⟨w, true⟩ b ∧
      Walk.Lawful sur body fetch limits flag start a taken fault w b) ∧
    ∃ (taken : List (Page α)) (fault : Option (Fault τ)) (w : Walk α) (b : Scene σ τ Q),
      (collect limits flag fetch (.start start)).ComesTo sur a
        (.ok (fault.elim (.ok (taken.flatMap Page.items)) .error, ⟨w, true⟩)) b ∧
      Walk.Lawful sur (fun _ => pure ()) fetch limits flag start a taken fault w b := by
  constructor
  · obtain ⟨taken, fault, w, b, h, hlawful⟩ := exists_proceeds_lawful limits flag start a hfetch hbody
    exact ⟨taken, fault, w, b, h.loops.unused, hlawful⟩
  · obtain ⟨taken, fault, w, b, h, hlawful⟩ :=
      exists_proceeds_lawful limits flag start a hfetch fun _ a => ⟨a, .pure () a⟩
    exact ⟨taken, fault, w, b, (h.collectFrom []).bind (.pure _ b), hlawful⟩

/-- Two pages with the elements 1 and 2 each, when no more than two are allowed. -/
theorem goes_through_of_two_pages :
    let sur : Surroundings Surroundings.Hours Rat (Option String) (Page Nat) :=
      .quiet fun cursor _ => .ok ⟨[1, 2], if cursor.isNone then some "next" else none, none⟩
    let a : Scene Surroundings.Hours Rat (Option String) := ⟨.start, .start ⟨0, 0, false⟩ ⟨0, [], 0⟩⟩
    ∃ taken w b, taken.flatMap Page.items = [1, 2, 1, 2] ∧
      Walk.Lawful sur (fun _ => pure ()) ask ⟨some 2, 2⟩ none none a taken none w b := by
  intro sur a
  have hfetch : ∀ cursor a, ∃ x b, (ask cursor).ComesTo sur a x b := fun cursor a => ⟨_, _, .ask cursor a⟩
  have hbody : ∀ (x : Nat) a, ∃ b, (pure () : Work Rat (Option String) (Page Nat) Unit).ComesTo sur a (.ok ()) b :=
    fun _ a => ⟨a, .pure () a⟩
  obtain ⟨-, taken, fault, w, b, hcollect, hlawful⟩ :=
    goes_through_lawfully sur ⟨some 2, 2⟩ none ask (fun _ => pure ()) none a hfetch hbody
  have hcollected : ((collect ⟨some 2, 2⟩ none ask (start none)).run sur a.session a.world).1.bind
      (fun r => r.1.toOption.map Prod.fst) = some (.ok [1, 2, 1, 2]) := rfl
  rw [show _ = _ from hcollect] at hcollected
  cases fault with
  | some fault => cases hcollected
  | none =>
      exact ⟨taken, w, b, Except.ok.inj (Option.some.inj hcollected), hlawful⟩

end Paging

end RepoCensus
