import RepoCensus.Proofs.Retry.Rounds

/-!
# What a task is told

A task is told its stages one after another. While a request is made again and again it is told that it is retrying,
once for each attempt that is to be repeated, and it is told nothing else.
-/

namespace RepoCensus

open RepoCensus.Calendar Work

variable {τ Q R α : Type}

/-! ## What is told of a task -/

def Effect.stage? : Effect τ Q → Option Stage
  | .note (.task t) => some t.stage
  | _ => none

/-- The stages that a task is told, in order. -/
def Deed.stages (ds : List (Deed τ Q R)) : List Stage := ds.filterMap fun d => d.effect.stage?

/-- The stages that are written to a task at some stage. A task that is in progress and is told so again has only
its attempts counted. -/
def Stage.written : Stage → List Stage → List Stage
  | _, [] => []
  | now, stage :: rest =>
    if now = .inProgress ∧ stage = .inProgress then written .inProgress rest else stage :: written stage rest

/-- A task is retrying so many times, and then in progress. -/
def Stage.burst (n : Nat) : List Stage := List.replicate n .retrying ++ [.inProgress]

namespace Deed

variable {ds ds' : List (Deed τ Q R)}

@[simp] theorem stages_append : stages (ds ++ ds') = stages ds ++ stages ds' := List.filterMap_append

theorem stages_cons_of_none {d : Deed τ Q R} (h : d.effect.stage? = none) : stages (d :: ds) = stages ds :=
  List.filterMap_cons_none h

@[simp] theorem stages_tells_some (t : Task τ) : stages (tells (some t) : List (Deed τ Q R)) = [t.stage] := rfl

theorem stages_eq_nil (h : ∀ d ∈ ds, d.effect.stage? = none) : stages ds = [] := List.filterMap_eq_nil_iff.mpr h

theorem Idle.stages (h : Idle ds) : stages ds = [] := by
  refine stages_eq_nil fun d hd => ?_
  have hidle := h d hd
  obtain ⟨e, a⟩ := d
  cases e with
  | note n =>
      cases n with
      | task t => cases hidle
      | _ => rfl
  | _ => rfl

end Deed

namespace Stage

theorem written_retrying (n : Nat) (rest : List Stage) :
    written .retrying (List.replicate n .retrying ++ rest) = List.replicate n .retrying ++ written .retrying rest := by
  induction n with
  | zero => rfl
  | succ n ih => simp [List.replicate_succ, written, ih]

theorem written_burst (n : Nat) (rest : List Stage) :
    written .inProgress (burst n ++ rest) = (if n = 0 then [] else burst n) ++ written .inProgress rest := by
  cases n with
  | zero => simp [burst, written]
  | succ n => simp [burst, List.replicate_succ, written, written_retrying]

theorem written_bursts (ns : List Nat) (rest : List Stage) :
    written .inProgress (ns.flatMap burst ++ rest) =
      (ns.filter (0 < ·)).flatMap burst ++ written .inProgress rest := by
  induction ns with
  | nil => rfl
  | cons n ns ih =>
      rw [List.flatMap_cons, List.append_assoc, written_burst, ih]
      cases n <;> simp

theorem not_isDone_of_mem_burst {n : Nat} {stage : Stage} (h : stage ∈ burst n) : stage.isDone = false := by
  rcases List.mem_append.mp h with h | h
  · rw [List.eq_of_mem_replicate h]
    rfl
  · rw [List.mem_singleton.mp h]
    rfl

end Stage

/-! ## Attempts that are to be repeated -/

/-- The task after it was told of so many attempts that are to be repeated. -/
def Task.repeated (n : Nat) (t : Task τ) : Task τ := { t with stage := if n = 0 then t.stage else .retrying }

@[simp] theorem Task.repeated_zero : Task.repeated 0 = (id : Task τ → Task τ) := rfl

theorem Task.repeated_comp (m n : Nat) :
    Task.repeated n ∘ Task.repeated m = (Task.repeated (m + n) : Task τ → Task τ) := by
  funext t
  cases m with
  | zero => rw [Nat.zero_add]; rfl
  | succ m => cases n <;> rfl

/-- The task is told of so many attempts that are to be repeated, and of nothing else. -/
structure Repeats (n : Nat) (s : Session τ) (ds : List (Deed τ Q R)) (s' : Session τ) : Prop where
  told : s.task.isSome → Deed.stages ds = List.replicate n .retrying
  task : s'.task = s.task.map (Task.repeated n)

variable {s s' t : Session τ} {ds ds' : List (Deed τ Q R)} {m n : Nat}

theorem Repeats.trans (h : Repeats m s ds t) (h' : Repeats n t ds' s') : Repeats (m + n) s (ds ++ ds') s' where
  told hs := by
    have ht : t.task.isSome := by rwa [h.task, Option.isSome_map]
    rw [Deed.stages_append, h.told hs, h'.told ht, List.replicate_append_replicate]
  task := by rw [h'.task, h.task, Option.map_map, Task.repeated_comp]

theorem Repeats.of_untold (hs : s'.task = s.task) (hds : Deed.stages ds = []) : Repeats 0 s ds s' where
  told _ := hds
  task := by rw [hs, Task.repeated_zero, Option.map_id, id]

theorem Work.Plain.repeats {w : Work τ Q R α} {x : Except (Fault τ) α} (hw : Plain w) (h : w.Does s ds x s') :
    Repeats 0 s ds s' := by
  obtain ⟨hs, hds⟩ := hw s ds x s' h
  refine .of_untold (congrArg Session.task hs) (Deed.stages_eq_nil fun d hd => ?_)
  have htells := hds d hd
  obtain ⟨e, a⟩ := d
  cases e with
  | note n =>
      cases n with
      | task t => cases htells
      | _ => rfl
  | _ => rfl

/-! ## A run of attempts -/

theorem Deed.stages_of_isOwn (h : ∀ d ∈ ds, d.effect.isOwn = true) : Deed.stages ds = [] := by
  refine Deed.stages_eq_nil fun d hd => ?_
  have hown := h d hd
  obtain ⟨e, a⟩ := d
  cases e with
  | note n =>
      cases n with
      | task t => cases hown
      | _ => rfl
  | _ => rfl

namespace Retry

theorem Minds.repeats {f : Attempts τ → Attempts τ} (h : Minds f s ds s') : Repeats 0 s ds s' :=
  .of_untold (by rw [h.record]) (Deed.stages_of_isOwn h.own)

theorem Looks.repeats (h : Looks s ds s') : Repeats 0 s ds s' :=
  .of_untold (congrArg Session.task h.record) (Deed.stages_of_isOwn h.own)

variable [Seconds τ] {r : Retry τ} {flag : Option Flag} {onRetry : RetryListener τ Q R} {operation : Work τ Q R α}

theorem plain_sleepBetween (flag : Option Flag) (delay : τ) : Plain (r.sleepBetween flag delay : Work τ Q R Unit) :=
  .ite (.bind (.act (e := .sleep delay) rfl) fun _ => Plain.check flag) (Plain.sleepWatching flag delay)

theorem Troubled.repeats {own called worked noted : List (Deed τ Q R)} {fault : Fault τ} {base delay : τ}
    {f : Attempts τ → Attempts τ} (hoperation : Plain operation)
    (h : Troubled r operation n s own called worked fault base delay t) (hnoted : Minds f t noted s') :
    Repeats 0 s (own ++ called ++ worked ++ noted) s' := by
  obtain ⟨u, v, hbegun, hcall, hwait⟩ := h.course
  have hworked := (looks_delayAfter hwait).1.repeats
  exact ((hbegun.repeats.trans (hoperation.repeats hcall)).trans hworked).trans hnoted.repeats

section

variable (hoperation : Plain operation)
  (hlisten : ∀ n delay fault s ds x s', (onRetry n delay fault).Does s ds x s' → x = .ok () ∧ Repeats 1 s ds s')

include hoperation hlisten

theorem exists_repeats_of_attemptFrom {left n : Nat} {x : Except (Fault τ) (Ending τ α)}
    (h : (r.attemptFrom flag onRetry operation left n).Does s ds x s') : ∃ k, Repeats k s ds s' := by
  -- on the attempts that are left
  induction left using Nat.strongRecOn generalizing n s ds with
  | _ left ih =>
      cases once_of_does h with
      | stopped hlooks => exact ⟨_, hlooks.repeats⟩
      | value hbegun hcall => exact ⟨_, hbegun.repeats.trans (hoperation.repeats hcall)⟩
      | fault hbegun hcall hlasting => exact ⟨_, hbegun.repeats.trans (hoperation.repeats hcall)⟩
      | refused hbegun hcall htransient hwait =>
          exact ⟨_, (hbegun.repeats.trans (hoperation.repeats hcall)).trans (looks_delayAfter hwait).1.repeats⟩
      | exhausted htroubled hnoted hleft => exact ⟨_, htroubled.repeats hoperation hnoted⟩
      | abandoned htroubled hnoted hleft htold => cases (hlisten _ _ _ _ _ _ _ htold).1
      | woken htroubled hnoted hleft htold hsleep =>
          have htold := (hlisten _ _ _ _ _ _ _ htold).2
          exact ⟨_, ((htroubled.repeats hoperation hnoted).trans htold).trans ((plain_sleepBetween _ _).repeats hsleep)⟩
      | again htroubled hnoted hleft htold hsleep hrest =>
          have htold := (hlisten _ _ _ _ _ _ _ htold).2
          obtain ⟨k, hrepeats⟩ := ih _ (by omega) hrest
          exact ⟨_, (((htroubled.repeats hoperation hnoted).trans htold).trans
            ((plain_sleepBetween _ _).repeats hsleep)).trans hrepeats⟩

theorem exists_repeats_of_attempt {y : Except (Fault τ) α} (h : (r.attempt flag onRetry operation).Does s ds y s') :
    ∃ k, Repeats k s ds s' := by
  obtain ⟨tried, x, u, settled, rfl, hattempts, hsettle⟩ := exists_of_attempt h
  obtain ⟨-, f, hminds, -⟩ := minds_settle hsettle
  obtain ⟨k, hrepeats⟩ := exists_repeats_of_attemptFrom hoperation hlisten hattempts
  have hstart : Repeats 0 s ([⟨.note (.attempts .start), ()⟩] : List (Deed τ Q R)) { s with attempts := some .start } :=
    .of_untold rfl rfl
  exact ⟨_, hstart.trans (hrepeats.trans hminds.repeats)⟩

end

end Retry

end RepoCensus
