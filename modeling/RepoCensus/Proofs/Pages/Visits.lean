import RepoCensus.Pages.Walk
import RepoCensus.Proofs.Work.Does

/-!
# The pages that a walk visits

A walk takes one page after another, and between two pages it does no more than look at the flag and write to the log.
It ends with the last page or at a limit, or it breaks off: because a page is not to be had, or between two pages.
A walk that ends without a fault has gone a way along pages, each of which was had at the cursor that the page before it
tells, and gathered the elements of these pages, page by page.
-/

namespace RepoCensus

variable {τ Q R α π : Type}

/-- Parts that are done one after another, with nothing but idle steps between them. -/
inductive Series (Part : Session τ → List (Deed τ Q R) → π → Session τ → Prop) :
    Session τ → List (Deed τ Q R) → List π → Session τ → Prop where
  | idle {s : Session τ} {ds : List (Deed τ Q R)} (hidle : Deed.Idle ds) : Series Part s ds [] s
  | cons {s t s' : Session τ} {idle ds rest : List (Deed τ Q R)} {p : π} {ps : List π} (hidle : Deed.Idle idle)
      (hpart : Part s ds p t) (hrest : Series Part t rest ps s') : Series Part s (idle ++ (ds ++ rest)) (p :: ps) s'

namespace Series

variable {Part : Session τ → List (Deed τ Q R) → π → Session τ → Prop} {s t s' : Session τ}
  {ds ds' : List (Deed τ Q R)} {ps ps' : List π} {p : π}

theorem single (h : Part s ds p s') : Series Part s ds [p] s' := by
  have hseries : Series Part s ([] ++ (ds ++ [])) [p] s' := .cons .nil h (.idle .nil)
  simpa using hseries

theorem idle_append (hidle : Deed.Idle ds) (h : Series Part s ds' ps s') : Series Part s (ds ++ ds') ps s' := by
  cases h with
  | idle hidle' => exact .idle (hidle.append hidle')
  | cons hidle' hpart hrest =>
      rw [← List.append_assoc]
      exact .cons (hidle.append hidle') hpart hrest

theorem trans (h : Series Part s ds ps t) (h' : Series Part t ds' ps' s') :
    Series Part s (ds ++ ds') (ps ++ ps') s' := by
  induction h with
  | idle hidle => exact h'.idle_append hidle
  | cons hidle hpart _ ih =>
      rw [List.append_assoc, List.append_assoc]
      exact .cons hidle hpart (ih h')

theorem append_idle (h : Series Part s ds ps s') (hidle : Deed.Idle ds') : Series Part s (ds ++ ds') ps s' := by
  have hseries := h.trans (.idle hidle)
  rwa [List.append_nil] at hseries

theorem exists_of_mem (h : Series Part s ds ps s') (hp : p ∈ ps) : ∃ t ds' t', Part t ds' p t' ∧ ds' ⊆ ds := by
  induction h with
  | idle => cases hp
  | @cons s t s' idle ds rest q ps _ hpart _ ih =>
      rcases List.mem_cons.mp hp with rfl | hp
      · refine ⟨s, ds, t, hpart, ?_⟩
        exact List.subset_append_of_subset_right _ (List.subset_append_left _ _)
      · obtain ⟨u, ds', u', hpart', hds'⟩ := ih hp
        refine ⟨u, ds', u', hpart', ?_⟩
        exact List.subset_append_of_subset_right _ (List.subset_append_of_subset_right _ hds')

theorem eq_of_nil (h : Series Part s ds [] s') : s' = s := by
  cases h
  rfl

/-- The last part leaves the record as it is at the end. -/
theorem exists_of_concat (h : Series Part s ds (ps ++ [p]) s') : ∃ t ds', Part t ds' p s' := by
  induction ps generalizing s ds with
  | nil =>
      cases h with
      | cons _ hpart hrest =>
          obtain rfl := hrest.eq_of_nil
          exact ⟨_, _, hpart⟩
  | cons q ps ih =>
      cases h with
      | cons _ _ hrest => exact ih hrest

end Series

/-- The faults that end a walk between two pages. -/
inductive Fault.IsPause : Fault τ → Prop where
  | stopped : IsPause .stopped
  | endlessPages (pages : Int) (text : String) : IsPause (.endlessPages pages text)

namespace Walk

open Work

variable {limits : WalkLimits} {flag : Option Flag} {fetch : Option String → Work τ Q R (Page α)}
  {s s' : Session τ} {ds : List (Deed τ Q R)} {w w' : Walk α}

/-- What a walk can do in one turn, if it was or was not cut off before. -/
inductive Turns (limits : WalkLimits) (fetch : Option String → Work τ Q R (Page α)) (cut : Bool) (s : Session τ) :
    List (Deed τ Q R) → Turn τ α → Walk α → Session τ → Prop where
  | ended {ds : List (Deed τ Q R)} {w' : Walk α} (hidle : Deed.Idle ds)
      (hcut : w'.truncated = true → cut = true ∨ limits.maxPages.isSome = true) :
      Turns limits fetch cut s ds .over w' s
  | paused {ds : List (Deed τ Q R)} {fault : Fault τ} {w' : Walk α} (hidle : Deed.Idle ds) (hpause : fault.IsPause)
      (hcut : w'.truncated = cut) : Turns limits fetch cut s ds (.broken fault) w' s
  | taken {idle ds : List (Deed τ Q R)} {cursor : Option String} {page : Page α} {w' : Walk α} {s' : Session τ}
      (hidle : Deed.Idle idle) (hfetch : (fetch cursor).Does s ds (.ok page) s') (hcut : w'.truncated = cut) :
      Turns limits fetch cut s (idle ++ ds) (.taken page.items) w' s'
  | missed {idle ds : List (Deed τ Q R)} {cursor : Option String} {fault : Fault τ} {w' : Walk α} {s' : Session τ}
      (hidle : Deed.Idle idle) (hfetch : (fetch cursor).Does s ds (.error fault) s') (hcut : w'.truncated = cut) :
      Turns limits fetch cut s (idle ++ ds) (.broken fault) w' s'

theorem Turns.idle_append {cut : Bool} {idle : List (Deed τ Q R)} {turn : Turn τ α} (hidle : Deed.Idle idle)
    (h : Turns limits fetch cut s ds turn w' s') : Turns limits fetch cut s (idle ++ ds) turn w' s' := by
  cases h with
  | ended hidle' hcut => exact .ended (hidle.append hidle') hcut
  | paused hidle' hpause hcut => exact .paused (hidle.append hidle') hpause hcut
  | taken hidle' hfetch hcut =>
      rw [← List.append_assoc]
      exact .taken (hidle.append hidle') hfetch hcut
  | missed hidle' hfetch hcut =>
      rw [← List.append_assoc]
      exact .missed (hidle.append hidle') hfetch hcut

theorem turns_of_takeNext {x : Except (Fault τ) (Turn τ α × Walk α)}
    (h : (takeNext limits flag fetch w).Does s ds x s') :
    ∃ turn w', x = .ok (turn, w') ∧ Turns limits fetch w.truncated s ds turn w' s' := by
  unfold takeNext at h
  split at h
  case isTrue hcut =>
    obtain ⟨ds, rfl, hend⟩ := h.exists_of_log_bind
    obtain ⟨rfl, rfl, rfl⟩ := does_pure_iff.mp hend
    refine ⟨_, _, rfl, .ended (.cons rfl .nil) fun _ => .inr ?_⟩
    obtain ⟨m, hm, -⟩ := (Option.any_eq_true _ _).mp hcut
    exact Option.isSome_of_mem hm
  split at h
  · obtain ⟨rfl, rfl, rfl⟩ := does_pure_iff.mp h
    exact ⟨_, _, rfl, .paused .nil (.endlessPages _ _) rfl⟩
  obtain ⟨raised, looked, rest, rfl, hidle, hgo⟩ := h.exists_of_isStopped_bind
  cases raised with
  | true =>
      obtain ⟨rfl, rfl, rfl⟩ := does_pure_iff.mp hgo
      rw [List.append_nil]
      exact ⟨_, _, rfl, .paused hidle .stopped rfl⟩
  | false =>
      obtain ⟨fetched, outcome, u, rest, rfl, hfetch, hend⟩ := Does.exists_of_result_bind hgo
      cases outcome with
      | ok page =>
          obtain ⟨rfl, rfl, rfl⟩ := does_pure_iff.mp hend
          rw [List.append_nil]
          exact ⟨_, _, rfl, .taken hidle hfetch rfl⟩
      | error fault =>
          obtain ⟨rfl, rfl, rfl⟩ := does_pure_iff.mp hend
          rw [List.append_nil]
          exact ⟨_, _, rfl, .missed hidle hfetch rfl⟩

theorem turns_of_advance {x : Except (Fault τ) (Turn τ α × Walk α)}
    (h : (advance limits flag fetch w).Does s ds x s') :
    ∃ turn w', x = .ok (turn, w') ∧ Turns limits fetch w.truncated s ds turn w' s' := by
  unfold advance at h
  split at h
  case h_1 => exact turns_of_takeNext h
  case h_2 page _ =>
    split at h
    case h_1 =>
      obtain ⟨rfl, rfl, rfl⟩ := does_pure_iff.mp h
      exact ⟨_, _, rfl, .ended .nil .inl⟩
    case h_2 cursor _ =>
      split at h
      · obtain ⟨rfl, rfl, rfl⟩ := does_pure_iff.mp h
        exact ⟨_, _, rfl, .paused .nil (.endlessPages _ _) rfl⟩
      · dsimp only at h
        split at h
        · obtain ⟨ds, rfl, hgo⟩ := h.exists_of_log_bind
          obtain ⟨turn, w', rfl, hturns⟩ := turns_of_takeNext hgo
          exact ⟨turn, w', rfl, hturns.idle_append (.cons rfl .nil)⟩
        · exact turns_of_takeNext (w := w.moveTo cursor) h

/-- How a walk ends that visited these pages, where `Gives` tells what a visit came to. -/
inductive Visited (Gives : π → Except (Fault τ) (Page α) → Prop) : List π → Except (Fault τ) (List α) → Prop where
  | whole {ps : List π} (hgiven : ∀ p ∈ ps, ∃ page, Gives p (.ok page)) (items : List α) : Visited Gives ps (.ok items)
  | paused {ps : List π} {fault : Fault τ} (hgiven : ∀ p ∈ ps, ∃ page, Gives p (.ok page)) (hpause : fault.IsPause) :
      Visited Gives ps (.error fault)
  | missed {ps : List π} {p : π} {fault : Fault τ} (hgiven : ∀ p ∈ ps, ∃ page, Gives p (.ok page))
      (hmissed : Gives p (.error fault)) : Visited Gives (ps ++ [p]) (.error fault)

variable {Part : Session τ → List (Deed τ Q R) → π → Session τ → Prop}
  {Gives : π → Except (Fault τ) (Page α) → Prop}

theorem Visited.cons {p : π} {page : Page α} {ps : List π} {r : Except (Fault τ) (List α)} (hp : Gives p (.ok page))
    (h : Visited Gives ps r) : Visited Gives (p :: ps) r := by
  cases h with
  | whole hgiven items => exact .whole (List.forall_mem_cons.mpr ⟨⟨page, hp⟩, hgiven⟩) items
  | paused hgiven hpause => exact .paused (List.forall_mem_cons.mpr ⟨⟨page, hp⟩, hgiven⟩) hpause
  | @missed ps q fault hgiven hmissed =>
      have hvisited : Visited Gives ((p :: ps) ++ [q]) (.error fault) :=
        .missed (List.forall_mem_cons.mpr ⟨⟨page, hp⟩, hgiven⟩) hmissed
      exact hvisited

theorem Visited.single {p : π} {fault : Fault τ} (hp : Gives p (.error fault)) : Visited Gives [p] (.error fault) := by
  have hvisited : Visited Gives ([] ++ [p]) (.error fault) := .missed (List.forall_mem_nil _) hp
  exact hvisited

/-- A walk visits one page after another, and is cut off only at a number of pages. -/
theorem visited_of_collectFrom
    (hfetch : ∀ cursor s ds x s', (fetch cursor).Does s ds x s' → ∃ p, Part s ds p s' ∧ Gives p x) {turns : Nat}
    {taken : List (List α)} {x : Except (Fault τ) (Except (Fault τ) (List α) × Walk α)}
    (h : (collectFrom limits flag fetch turns taken w).Does s ds x s') :
    ∃ r w' ps, x = .ok (r, w') ∧ Series Part s ds ps s' ∧ Visited Gives ps r ∧
      (w'.truncated = true → w.truncated = true ∨ limits.maxPages.isSome = true) := by
  -- on the turns that are left; a turn ends the walk in every case but that of a page that is taken
  induction turns generalizing taken w s ds with
  | zero =>
      obtain ⟨rfl, rfl, rfl⟩ := does_pure_iff.mp h
      exact ⟨_, _, [], rfl, .idle .nil, .paused nofun (.endlessPages _ _), .inl⟩
  | succ turns ih =>
      rcases h.exists_of_bind with ⟨fault, hadvance, rfl⟩ | ⟨ds, ⟨turn, w'⟩, t, rest, rfl, hadvance, hgo⟩
      · obtain ⟨_, _, ⟨⟩, -⟩ := turns_of_advance hadvance
      obtain ⟨_, _, ⟨⟩, hturns⟩ := turns_of_advance hadvance
      cases hturns with
      | ended hidle hcut =>
          obtain ⟨rfl, rfl, rfl⟩ := does_pure_iff.mp hgo
          rw [List.append_nil]
          exact ⟨_, _, [], rfl, .idle hidle, .whole nofun _, hcut⟩
      | paused hidle hpause hcut =>
          obtain ⟨rfl, rfl, rfl⟩ := does_pure_iff.mp hgo
          rw [List.append_nil]
          exact ⟨_, _, [], rfl, .idle hidle, .paused nofun hpause, fun h => .inl (hcut ▸ h)⟩
      | missed hidle hmissed hcut =>
          obtain ⟨rfl, rfl, rfl⟩ := does_pure_iff.mp hgo
          obtain ⟨p, hpart, hgives⟩ := hfetch _ _ _ _ _ hmissed
          rw [List.append_nil]
          exact ⟨_, _, [p], rfl, (Series.single hpart).idle_append hidle, .single hgives,
            fun h => .inl (hcut ▸ h)⟩
      | taken hidle htaken hcut =>
          obtain ⟨p, hpart, hgives⟩ := hfetch _ _ _ _ _ htaken
          obtain ⟨r, w'', ps, rfl, hseries, hvisited, hcut'⟩ := ih hgo
          refine ⟨r, w'', p :: ps, rfl, ?_, hvisited.cons hgives, fun h => hcut ▸ hcut' h⟩
          rw [List.append_assoc]
          exact .cons hidle hpart hseries

theorem visited_of_collect
    (hfetch : ∀ cursor s ds x s', (fetch cursor).Does s ds x s' → ∃ p, Part s ds p s' ∧ Gives p x)
    {x : Except (Fault τ) (Except (Fault τ) (List α) × Walk α)} (h : (collect limits flag fetch w).Does s ds x s') :
    ∃ r w' ps, x = .ok (r, w') ∧ Series Part s ds ps s' ∧ Visited Gives ps r ∧
      (w'.truncated = true → w.truncated = true ∨ limits.maxPages.isSome = true) :=
  visited_of_collectFrom hfetch h

end Walk

/-! ## What a walk gathers -/

/-- Pages on the way from a cursor on. Each is had at the cursor that the page before it tells, until a page tells none
or the way is cut off. -/
inductive Page.Way (next : π → Option String) (Had : Option String → π → Prop) :
    Bool → Option String → List π → Prop where
  | cut (cursor : Option String) : Way next Had true cursor []
  | last {cursor : Option String} {p : π} (hp : Had cursor p) (hnext : next p = none) : Way next Had false cursor [p]
  | onward {truncated : Bool} {cursor : Option String} {c : String} {p : π} {ps : List π} (hp : Had cursor p)
      (hnext : next p = some c) (hrest : Way next Had truncated (some c) ps) : Way next Had truncated cursor (p :: ps)

namespace Walk

open Work

variable {limits : WalkLimits} {flag : Option Flag} {fetch : Option String → Work τ Q R (Page α)} {s s' : Session τ}
  {ds all : List (Deed τ Q R)} {w w' v : Walk α} {turn : Turn τ α}

/-- The cursor at which a walk is to request a page: its own one at the beginning, and then the one that its page
tells. -/
inductive Seeks (w : Walk α) : Option String → Prop where
  | first (hcurrent : w.current = none) : Seeks w w.cursor
  | onward {page : Page α} {c : String} (hcurrent : w.current = some page) (hnext : page.next = some c) :
      Seeks w (some c)

/-- What a walk can do in one turn, when its requests are among these deeds. -/
inductive Advances (fetch : Option String → Work τ Q R (Page α)) (all : List (Deed τ Q R)) (w w' : Walk α)
    (s' : Session τ) : Turn τ α → Prop where
  | ended {page : Page α} (hcurrent : w.current = some page) (hnext : page.next = none)
      (htruncated : w'.truncated = w.truncated) : Advances fetch all w w' s' .over
  | cut {cursor : Option String} (hseeks : w.Seeks cursor) (htruncated : w'.truncated = true) :
      Advances fetch all w w' s' .over
  | taken {cursor : Option String} {s : Session τ} {ds : List (Deed τ Q R)} {page : Page α} (hseeks : w.Seeks cursor)
      (hds : ds ⊆ all) (hfetch : (fetch cursor).Does s ds (.ok page) s') (hcurrent : w'.current = some page)
      (htruncated : w'.truncated = w.truncated) : Advances fetch all w w' s' (.taken page.items)
  | broken (fault : Fault τ) : Advances fetch all w w' s' (.broken fault)

theorem advances_of_takeNext (hseeks : w.Seeks v.cursor) (hv : v.truncated = w.truncated)
    (h : (takeNext limits flag fetch v).Does s ds (.ok (turn, w')) s') (hds : ds ⊆ all) :
    Advances fetch all w w' s' turn := by
  unfold takeNext at h
  split at h
  · obtain ⟨ds, rfl, hend⟩ := h.exists_of_log_bind
    obtain ⟨-, ⟨⟩, -⟩ := does_pure_iff.mp hend
    exact .cut hseeks rfl
  split at h
  · obtain ⟨-, ⟨⟩, -⟩ := does_pure_iff.mp h
    exact .broken _
  obtain ⟨raised, looked, rest, rfl, -, hgo⟩ := h.exists_of_isStopped_bind
  cases raised with
  | true =>
      obtain ⟨-, ⟨⟩, -⟩ := does_pure_iff.mp hgo
      exact .broken _
  | false =>
      obtain ⟨fetched, outcome, u, rest, rfl, hfetch, hend⟩ := Does.exists_of_result_bind hgo
      cases outcome with
      | ok page =>
          obtain ⟨rfl, ⟨⟩, rfl⟩ := does_pure_iff.mp hend
          have hfetched : fetched ⊆ all := fun d hd => hds (by simp [hd])
          exact .taken hseeks hfetched hfetch rfl hv
      | error fault =>
          obtain ⟨-, ⟨⟩, -⟩ := does_pure_iff.mp hend
          exact .broken _

theorem advances_of_advance (h : (advance limits flag fetch w).Does s ds (.ok (turn, w')) s') (hds : ds ⊆ all) :
    Advances fetch all w w' s' turn := by
  unfold advance at h
  split at h
  case h_1 hcurrent => exact advances_of_takeNext (.first hcurrent) rfl h hds
  case h_2 page hcurrent =>
    split at h
    case h_1 hnext =>
      obtain ⟨-, ⟨⟩, -⟩ := does_pure_iff.mp h
      exact .ended hcurrent hnext rfl
    case h_2 cursor hnext =>
      have hseeks : w.Seeks (w.moveTo cursor).cursor := .onward hcurrent hnext
      split at h
      · obtain ⟨-, ⟨⟩, -⟩ := does_pure_iff.mp h
        exact .broken _
      · dsimp only at h
        split at h
        · obtain ⟨rest, rfl, hgo⟩ := h.exists_of_log_bind
          exact advances_of_takeNext hseeks rfl hgo fun d hd => hds (List.mem_cons_of_mem _ hd)
        · exact advances_of_takeNext hseeks rfl h hds

section

variable {next : π → Option String} {gives : π → List α} {Had : Option String → π → Prop} {truncated : Bool}
  {cursor : Option String} {ps : List π} {items : List α}

/-- A walk goes along these pages from here on: the way from its cursor, or the way on which its own page comes
first. -/
def Goes (next : π → Option String) (Had : Option String → π → Prop) (w : Walk α) (truncated : Bool) (ps : List π) :
    Prop :=
  match w.current with
  | none => Page.Way next Had truncated w.cursor ps
  | some page => ∀ cursor p, Had cursor p → next p = page.next → Page.Way next Had truncated cursor (p :: ps)

theorem Seeks.goes (h : w.Seeks cursor) (hway : Page.Way next Had truncated cursor ps) :
    w.Goes next Had truncated ps := by
  unfold Goes
  cases h with
  | first hcurrent =>
      rw [hcurrent]
      exact hway
  | onward hcurrent hnext =>
      rw [hcurrent]
      exact fun _ _ hp hleads => .onward hp (hleads.trans hnext) hway

/-- A walk that ends without a fault has gone its way, and adds the elements of the pages on it to those that were
taken before. -/
theorem exists_goes_of_collectFrom (hfetch : ∀ cursor s ds page s', ds ⊆ all →
      (fetch cursor).Does s ds (.ok page) s' → ∃ p, Had cursor p ∧ next p = page.next ∧ gives p = page.items)
    {turns : Nat} {taken : List (List α)} (hds : ds ⊆ all) (hw : w.truncated = false)
    (h : (collectFrom limits flag fetch turns taken w).Does s ds (.ok (.ok items, w')) s') :
    ∃ ps, w.Goes next Had w'.truncated ps ∧ items = taken.reverse.flatten ++ ps.flatMap gives := by
  -- on the turns that are left; where no turn is left the walk ends with a fault, so there are no items
  induction turns generalizing taken w s ds with
  | zero => obtain ⟨-, ⟨⟩, -⟩ := does_pure_iff.mp h
  | succ turns ih =>
      obtain ⟨_, -, ⟨⟩⟩ | ⟨ds, ⟨turn, w₁⟩, t, rest, rfl, hadvance, hgo⟩ := h.exists_of_bind
      have hturn := advances_of_advance hadvance fun d hd => hds (List.mem_append_left _ hd)
      cases hturn with
      | @ended page hcurrent hnext htruncated =>
          obtain ⟨-, ⟨⟩, -⟩ := does_pure_iff.mp hgo
          refine ⟨[], ?_, by rw [List.flatMap_nil, List.append_nil]⟩
          unfold Goes
          rw [hcurrent, htruncated, hw]
          exact fun _ _ hp hleads => .last hp (hleads.trans hnext)
      | cut hseeks htruncated =>
          obtain ⟨-, ⟨⟩, -⟩ := does_pure_iff.mp hgo
          refine ⟨[], ?_, by rw [List.flatMap_nil, List.append_nil]⟩
          rw [htruncated]
          exact hseeks.goes (.cut _)
      | @taken cursor _ _ page hseeks hpart hpage hcurrent htruncated =>
          obtain ⟨p, hp, hleads, hgives⟩ := hfetch _ _ _ _ _ hpart hpage
          obtain ⟨ps, hgoes, hitems⟩ := ih (fun d hd => hds (List.mem_append_right _ hd)) (htruncated.trans hw) hgo
          unfold Goes at hgoes
          rw [hcurrent] at hgoes
          refine ⟨p :: ps, hseeks.goes (hgoes cursor p hp hleads), ?_⟩
          rw [hitems, List.flatMap_cons, hgives]
          simp
      | broken fault => obtain ⟨-, ⟨⟩, -⟩ := does_pure_iff.mp hgo

theorem exists_way_of_collect (hfetch : ∀ cursor s ds page s', ds ⊆ all →
      (fetch cursor).Does s ds (.ok page) s' → ∃ p, Had cursor p ∧ next p = page.next ∧ gives p = page.items)
    (hds : ds ⊆ all) (h : (collect limits flag fetch (.start cursor)).Does s ds (.ok (.ok items, w')) s') :
    ∃ ps, Page.Way next Had w'.truncated cursor ps ∧ items = ps.flatMap gives :=
  exists_goes_of_collectFrom hfetch hds rfl h

end

end Walk

end RepoCensus
