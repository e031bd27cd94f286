import Mathlib.Data.List.Nodup
import RepoCensus.Proofs.Fetch.Interrupts
import RepoCensus.Proofs.Fetch.Stages

/-!
# Joining outcomes

The work on a category comes to an outcome, unless somebody interrupts it, and its task tells which: a finding, or a
failure. Only a failure that the service itself tells is handed on without the task's hearing of it. The outcomes of all
categories are joined into results and failures.
-/

namespace RepoCensus

open RepoCensus.Calendar

variable {τ : Type}

/-! ## The work on one category -/

/-- The fault by which a service tells of a failure. -/
def Failure.toFault (failure : Failure τ) : Fault τ :=
  .failed failure.category failure.reason failure.cause failure.attempts

namespace Fetcher

open Work

variable [Seconds τ] {f : Fetcher τ} {r : Repository} {category : Category} {earlier : Option (Finding τ)}
  {s s' : Session τ} {ds : List (Deed τ Request Reply)} {outcome : Outcome τ}

/-- What a fetch hands back is of its own category. -/
theorem category_of_fetch (h : (f.fetch r category earlier).Does s ds (.ok outcome) s') :
    (∀ finding, outcome = .ok finding → finding.category = category) ∧
      ∀ failure, outcome = .error failure → failure.category = category := by
  obtain ⟨idle, raw, rest, y, u, -, -, hraw, hend⟩ := exists_of_fetch h
  cases hend with
  | found =>
      obtain ⟨ps, hmade⟩ := exists_made_of_fetchRaw hraw
      refine ⟨?_, nofun⟩
      rintro _ ⟨⟩
      exact hmade.category _ rfl
  | unchanged hprevious =>
      obtain ⟨-, hcomparable⟩ := Option.filter_eq_some_iff.mp hprevious
      rw [Bool.and_eq_true, decide_eq_true_eq] at hcomparable
      refine ⟨?_, nofun⟩
      rintro _ ⟨⟩
      exact hcomparable.1
  | failed hreason hfailure =>
      refine ⟨nofun, ?_⟩
      rintro _ ⟨⟩
      rw [hfailure]

end Fetcher

namespace Census

open Work

variable {category : Category} {ds : List (Deed τ Request Reply)}

/-- How the work on a category leaves its task, when these deeds were done for it and it came to an outcome. -/
inductive Leaves (category : Category) (ds : List (Deed τ Request Reply)) (t : Task τ) : Outcome τ → Prop where
  | found {finding : Finding τ} (hcategory : finding.category = category) (hstage : t.stage = .succeeded) :
      Leaves category ds t (.ok finding)
  | failed {failure : Failure τ} (hcategory : failure.category = category) (hstage : t.stage = .failed)
      (htold : t.failure = some failure) : Leaves category ds t (.error failure)
  /-- The failure is one that the service told. -/
  | handed {failure : Failure τ} (hanswered : ∃ q, Deed.Answered ds q (.error failure.toFault))
      (hstage : t.stage = .inProgress) (huntold : t.failure = none) : Leaves category ds t (.error failure)

/-- The work on a category has come to its end: to an outcome, and with a task that tells of it. -/
def Settled (category : Category) (ds : List (Deed τ Request Reply)) (e : TaskEnd τ) : Prop :=
  ∃ outcome t, e.1 = .ok outcome ∧ e.2.task = some t ∧ t.category = category ∧ Leaves category ds t outcome

variable [Seconds τ] {f : Fetcher τ} {flag : Flag} {r : Repository} {earlier : Option (Finding τ)}
  {x : Except (Fault τ) (Outcome τ)} {s s' : Session τ}

/-- The work on a category comes to an outcome, or it is interrupted. -/
theorem settled_or_interrupted
    (h : (runTask f flag r category earlier).Does ⟨none, some (.start category)⟩ ds x s') :
    Settled category ds (x, s') ∨ isInterrupted x = true := by
  obtain ⟨raised, ds, rfl, hgo⟩ := Does.exists_of_act_bind (e := .cancelled flag) h
  cases (raised : Bool) with
  | true =>
      -- the work was cancelled before it began
      obtain ⟨rest, rfl, hend⟩ := Does.exists_of_updateTask_bind hgo
      obtain ⟨rfl, rfl, rfl⟩ := does_pure_iff.mp hend
      exact .inl ⟨_, _, rfl, rfl, rfl, .failed rfl rfl rfl⟩
  | false =>
      obtain ⟨fetched, y, u, rest, rfl, hfetch, hend⟩ := Does.exists_of_result_bind hgo
      obtain ⟨raw, z, v, ps, t, hraw, -, hmade, ht, hleaves⟩ := Fetcher.exists_leavesTask rfl rfl hfetch
      split at hend
      case h_1 outcome =>
        obtain ⟨rfl, rfl, rfl⟩ := does_pure_iff.mp hend
        obtain ⟨hfinding, hfailure⟩ := Fetcher.category_of_fetch hfetch
        refine .inl ⟨outcome, t, rfl, ht, hleaves.category, ?_⟩
        cases outcome with
        | ok finding => exact .found (hfinding _ rfl) (hleaves.succeeded.mpr (.inl ⟨finding, rfl⟩))
        | error failure =>
            obtain ⟨hstage, htold, -⟩ := hleaves.failed failure rfl
            exact .failed (hfailure _ rfl) hstage htold
      case h_2 category' reason cause attempts =>
        obtain ⟨rfl, rfl, rfl⟩ := does_pure_iff.mp hend
        have hunchanged : z ≠ .error .unchanged := fun hz => nomatch (hleaves.lost _ rfl hz).2
        obtain ⟨hstage, huntold, rfl, -⟩ := hleaves.escaped _ rfl hunchanged
        obtain ⟨q, hq⟩ | ⟨⟨⟩, -⟩ := hmade.told trivial
        have hanswered : Deed.Answered (fetched ++ []) q (.error _) := List.mem_append_left _ (hraw hq)
        exact .inl ⟨_, t, rfl, ht, hleaves.category, .handed ⟨q, List.mem_cons_of_mem _ hanswered⟩ hstage huntold⟩
      case h_3 fault _ =>
        cases hordinary : fault.isOrdinary with
        | false =>
            rw [hordinary] at hend
            obtain ⟨-, rfl, -⟩ := does_throw_iff.mp hend
            exact .inr (by simp [interruptedBy, hordinary])
        | true =>
            rw [hordinary] at hend
            obtain ⟨rest, rfl, hlog⟩ := Does.exists_of_log_bind hend
            obtain ⟨rest, rfl, hdone⟩ := Does.exists_of_updateTask_bind hlog.session_bind
            obtain ⟨rfl, rfl, rfl⟩ := does_pure_iff.mp hdone
            refine .inl ⟨_, t.fail _, rfl, ?_, hleaves.category, .failed rfl rfl rfl⟩
            rw [ht]
            rfl

/-- Who fetches for the workers is one of a crew, and so are they. -/
theorem within_runTask {σ : Type} {c : Crew σ τ Request Reply} (hf : { f with flag := some flag }.Joins c)
    (r : Repository) (category : Category) (earlier : Option (Finding τ)) :
    Within c (f.cost c.prices category) (fun _ => True) (runTask f flag r category earlier) := by
  refine (Within.cancelled flag).free fun raised _ => ?_
  refine .ite (fun _ => (Within.updateTask _).free fun _ _ => .pure trivial) fun _ => ?_
  refine (Fetcher.within_fetch hf r category earlier).result.bind (m := 0) fun x hx => ?_
  split
  · exact .pure trivial
  · exact .pure trivial
  · refine .ite (fun _ => ?_) fun _ => .throw hx
    refine (Within.log _ _).free fun _ _ => Within.session.free fun s _ => ?_
    exact (Within.updateTask _).free fun _ _ => .pure trivial

end Census

/-! ## Lists of categories -/

namespace Category

theorem mem_foldl_distinct (cs seen : List Category) (c : Category) :
    c ∈ cs.foldl (fun seen c => if c ∈ seen then seen else seen ++ [c]) seen ↔ c ∈ seen ∨ c ∈ cs := by
  induction cs generalizing seen with
  | nil => simp
  | cons d cs ih =>
      rw [List.foldl_cons, ih]
      split
      · rename_i hd
        constructor
        · rintro (h | h)
          · exact .inl h
          · exact .inr (List.mem_cons_of_mem _ h)
        · rintro (h | h)
          · exact .inl h
          · rcases List.mem_cons.mp h with rfl | h
            · exact .inl hd
            · exact .inr h
      · simp [or_assoc]

theorem nodup_foldl_distinct (cs seen : List Category) (h : seen.Nodup) :
    (cs.foldl (fun seen c => if c ∈ seen then seen else seen ++ [c]) seen).Nodup := by
  induction cs generalizing seen with
  | nil => exact h
  | cons d cs ih =>
      rw [List.foldl_cons]
      split
      · exact ih seen h
      · rename_i hd
        refine ih _ (List.nodup_append.mpr ⟨h, by simp, ?_⟩)
        rintro a ha b hb rfl
        exact hd (List.mem_singleton.mp hb ▸ ha)

theorem mem_distinct {cs : List Category} {c : Category} : c ∈ distinct cs ↔ c ∈ cs := by
  unfold distinct
  rw [mem_foldl_distinct]
  simp

theorem nodup_distinct (cs : List Category) : (distinct cs).Nodup :=
  nodup_foldl_distinct cs [] List.nodup_nil

theorem foldl_distinct_of_nodup (cs seen : List Category) (h : (seen ++ cs).Nodup) :
    cs.foldl (fun seen c => if c ∈ seen then seen else seen ++ [c]) seen = seen ++ cs := by
  induction cs generalizing seen with
  | nil => simp
  | cons d cs ih =>
      have hd : d ∉ seen := fun hd => (List.nodup_append.mp h).2.2 d hd d (List.mem_cons_self ..) rfl
      have happend : seen ++ d :: cs = seen ++ [d] ++ cs := by simp
      rw [List.foldl_cons, if_neg hd, ih _ (happend ▸ h), happend]

theorem distinct_distinct (cs : List Category) : distinct (distinct cs) = distinct cs :=
  foldl_distinct_of_nodup (distinct cs) [] (nodup_distinct cs)

theorem eq_of_parseAll {texts : List String} {cs : List Category} (h : parseAll texts = .ok cs) :
    cs = distinct (texts.filterMap parse?) := by
  unfold parseAll at h
  generalize hread : (List.mapM _ texts : Except Invalid _) = read at h
  cases read with
  | error why => cases h
  | ok read =>
      cases h
      congr 1
      induction texts generalizing read with
      | nil => cases hread; rfl
      | cons t texts ih =>
          rw [List.mapM_cons] at hread
          cases ht : parse? t with
          | none => rw [ht] at hread; cases hread
          | some c =>
              rw [ht] at hread
              generalize hrest : (List.mapM _ texts : Except Invalid _) = rest at hread
              cases rest with
              | error why => cases hread
              | ok rest =>
                  cases hread
                  rw [List.filterMap_cons_some ht, ih rest hrest]

end Category

namespace Census

/-! ## Joining the outcomes -/

theorem eq_of_mem_of_mem {κ β : Type} {l : List (κ × β)} (hl : (l.map Prod.fst).Nodup) {k : κ} {b b' : β}
    (hb : (k, b) ∈ l) (hb' : (k, b') ∈ l) : b = b' :=
  congrArg Prod.snd (List.inj_on_of_nodup_map hl hb hb' rfl)

theorem findSome?_eq_some_iff {κ β γ : Type} [DecidableEq κ] {l : List (κ × β)}
    (hl : (l.map Prod.fst).Nodup) {f : β → Option γ} {k : κ} {x : γ} :
    (l.findSome? fun e => if e.1 = k then f e.2 else none) = some x ↔ ∃ b, (k, b) ∈ l ∧ f b = some x := by
  have hmem : ∀ y, (l.findSome? fun e => if e.1 = k then f e.2 else none) = some y → ∃ b, (k, b) ∈ l ∧ f b = some y := by
    intro y hy
    obtain ⟨⟨k', b⟩, hb, hfound⟩ := List.exists_of_findSome?_eq_some hy
    split at hfound
    · rename_i hk
      exact ⟨b, hk ▸ hb, hfound⟩
    · cases hfound
  refine ⟨hmem x, ?_⟩
  rintro ⟨b, hb, hx⟩
  cases hfound : l.findSome? fun e => if e.1 = k then f e.2 else none with
  | none =>
      have hnone := List.findSome?_eq_none_iff.mp hfound (k, b) hb
      rw [if_pos rfl, hx] at hnone
      cases hnone
  | some y =>
      obtain ⟨b', hb', hy⟩ := hmem y hfound
      rw [← hy, eq_of_mem_of_mem hl hb' hb, hx]

def findingOf : Option (TaskEnd τ) → Option (Finding τ)
  | some (.ok (.ok finding), _) => some finding
  | _ => none

def failureOf : Option (TaskEnd τ) → Option (Failure τ)
  | some (.ok (.error failure), _) => some failure
  | _ => none

variable {ends : List (Category × Option (TaskEnd τ))} {c : Category}

/-- The findings are those of the ends. -/
theorem results_eq_some_iff (hnodup : (ends.map Prod.fst).Nodup) {finding : Finding τ} :
    results ends c = some finding ↔ ∃ e, (c, e) ∈ ends ∧ findingOf e = some finding := by
  have h : results ends c = ends.findSome? fun e => if e.1 = c then findingOf e.2 else none := by
    unfold results
    congr 1
    funext e
    obtain ⟨d, _ | ⟨_ | _ | _, _⟩⟩ := e <;> simp [findingOf]
  rw [h, findSome?_eq_some_iff hnodup]

theorem failures_eq_some_iff (hnodup : (ends.map Prod.fst).Nodup) {failure : Failure τ} :
    failures ends c = some failure ↔ ∃ e, (c, e) ∈ ends ∧ failureOf e = some failure := by
  have h : failures ends c = ends.findSome? fun e => if e.1 = c then failureOf e.2 else none := by
    unfold failures
    congr 1
    funext e
    obtain ⟨d, _ | ⟨_ | _ | _, _⟩⟩ := e <;> simp [failureOf]
  rw [h, findSome?_eq_some_iff hnodup]

/-- The finding of a category is that of its end. -/
theorem results_of_mem (hnodup : (ends.map Prod.fst).Nodup) {e : Option (TaskEnd τ)} (he : (c, e) ∈ ends) :
    results ends c = findingOf e := by
  refine Option.ext fun finding => (results_eq_some_iff hnodup).trans ⟨?_, fun h => ⟨e, he, h⟩⟩
  rintro ⟨e', he', h⟩
  exact eq_of_mem_of_mem hnodup he' he ▸ h

/-- The failure of a category is that of its end. -/
theorem failures_of_mem (hnodup : (ends.map Prod.fst).Nodup) {e : Option (TaskEnd τ)} (he : (c, e) ∈ ends) :
    failures ends c = failureOf e := by
  refine Option.ext fun failure => (failures_eq_some_iff hnodup).trans ⟨?_, fun h => ⟨e, he, h⟩⟩
  rintro ⟨e', he', h⟩
  exact eq_of_mem_of_mem hnodup he' he ▸ h

/-- A category without an end has neither a finding nor a failure. -/
theorem untold_of_not_mem (hnodup : (ends.map Prod.fst).Nodup) (hc : ∀ e, (c, e) ∉ ends) :
    results ends c = none ∧ failures ends c = none := by
  constructor
  · refine Option.eq_none_iff_forall_ne_some.mpr fun finding h => ?_
    obtain ⟨e, he, _⟩ := (results_eq_some_iff hnodup).mp h
    exact hc e he
  · refine Option.eq_none_iff_forall_ne_some.mpr fun failure h => ?_
    obtain ⟨e, he, _⟩ := (failures_eq_some_iff hnodup).mp h
    exact hc e he

end Census

end RepoCensus
