import RepoCensus.Budget.Acquire
import RepoCensus.Proofs.Work.Always
import RepoCensus.Proofs.World.Company

/-!
# What work does

Work that begins with a record does some deeds and comes to an end with a record, whatever its steps are answered. Work
that is made of parts does what its parts do, one after another, so that what it did can be taken apart.
-/

namespace RepoCensus

open RepoCensus.Calendar

variable {τ Q R G α β : Type}

namespace Program

theorem Plays.exists_of_bind {p : Program τ Q R α} {f : α → Program τ Q R β} {ds : List (Deed τ Q R)} {b : β}
    (h : (p.bind f).Plays ds (done b)) :
    ∃ ds₁ a ds₂, ds = ds₁ ++ ds₂ ∧ p.Plays ds₁ (done a) ∧ (f a).Plays ds₂ (done b) := by
  induction p generalizing ds with
  | done a => exact ⟨[], a, ds, rfl, .refl _, h⟩
  | stalled => cases h
  | act e next ih =>
      obtain ⟨x, ds', rfl, hnext⟩ := exists_of_act (a := some b) h
      obtain ⟨ds₁, a, ds₂, rfl, hp, hf⟩ := ih x hnext
      exact ⟨⟨e, x⟩ :: ds₁, a, ds₂, rfl, .act hp, hf⟩

/-- What always holds at the end of a program holds where it came to its end, if the state moves in one way only. -/
theorem Always.of_plays {B : Behaviour τ Q R G} {post : α → G → Prop} {p : Program τ Q R α} {g : G} {a : α}
    {ds : List (Deed τ Q R)} (move : G → Deed τ Q R → G) (hdrifts : ∀ g, B.drifts g g)
    (hanswers : ∀ g (d : Deed τ Q R), d ∈ ds → B.answers g d.effect d.answer (move g d)) (h : p.Always B post g)
    (hp : p.Plays ds (done a)) : post a (ds.foldl move g) := by
  generalize hend : (done a : Program τ Q R α) = p' at hp
  induction hp generalizing g with
  | refl p =>
      subst hend
      exact h
  | act _ ih =>
      have hnext := (h g (hdrifts g)).2 _ _ (hanswers g _ List.mem_cons_self)
      exact ih (fun g d hd => hanswers g d (List.mem_cons_of_mem _ hd)) hnext hend

end Program

/-- What is told of a task, if there is one. -/
def Deed.tells (task : Option (Task τ)) : List (Deed τ Q R) := (task.map fun t => ⟨.note (.task t), ()⟩).toList

/-- The record with the task at this stage. -/
def Session.staged (s : Session τ) (stage : Stage) : Session τ :=
  { s with task := s.task.map fun t => { t with stage := stage } }

namespace Work

/-- Work that begins with the record `s` does these deeds and comes to the end `x` with the record `s'`. -/
def Does (w : Work τ Q R α) (s : Session τ) (ds : List (Deed τ Q R)) (x : Except (Fault τ) α) (s' : Session τ) :
    Prop :=
  (w.start s).Plays ds (.done (x, s'))

variable {w : Work τ Q R α} {k : α → Work τ Q R β} {s s' : Session τ} {ds : List (Deed τ Q R)}
  {x : Except (Fault τ) α} {y : Except (Fault τ) β} {flag : Option Flag}

/-- What work comes to in a world is an end that it comes to with some deeds. -/
theorem exists_does_of_run {σ : Type} [Seconds τ] {sur : Surroundings σ τ Q R} {world : World σ τ Q}
    (h : (w.run sur s world).1 = some (x, s')) : ∃ ds, w.Does s ds x s' := by
  obtain ⟨ds, hamong⟩ : ∃ ds, (w.start s).Among sur (fun _ => True) world ds (.ended ((w.start s).run sur world).1)
      ((w.start s).run sur world).2 := Program.Among.exists_of_run _ _
  have hplays := hamong.plays
  rw [show ((w.start s).run sur world).1 = some (x, s') from h] at hplays
  exact ⟨ds, hplays⟩

/-! ## Parts -/

theorem done_plays_iff {a a' : α} {ds : List (Deed τ Q R)} :
    (Program.done a : Program τ Q R α).Plays ds (.done a') ↔ ds = [] ∧ a' = a := by
  constructor
  · intro h
    cases h
    exact ⟨rfl, rfl⟩
  · rintro ⟨rfl, rfl⟩
    exact .refl _

@[simp] theorem does_pure_iff {a : α} : (pure a : Work τ Q R α).Does s ds x s' ↔ ds = [] ∧ x = .ok a ∧ s' = s := by
  simp [Does, done_plays_iff]

@[simp] theorem does_throw_iff {fault : Fault τ} :
    (throw fault : Work τ Q R α).Does s ds x s' ↔ ds = [] ∧ x = .error fault ∧ s' = s := by
  simp [Does, done_plays_iff]

@[simp] theorem does_ofExcept_iff {y : Except (Fault τ) α} :
    (ofExcept y : Work τ Q R α).Does s ds x s' ↔ ds = [] ∧ x = y ∧ s' = s := by
  simp [Does, done_plays_iff]

namespace Does

theorem exists_of_bind (h : (w >>= k).Does s ds y s') :
    (∃ fault, w.Does s ds (.error fault) s' ∧ y = .error fault) ∨
      ∃ ds₁ a t ds₂, ds = ds₁ ++ ds₂ ∧ w.Does s ds₁ (.ok a) t ∧ (k a).Does t ds₂ y s' := by
  rw [Does, start_bind] at h
  obtain ⟨ds₁, ⟨x, t⟩, ds₂, rfl, hw, hk⟩ := h.exists_of_bind
  cases x with
  | ok a => exact .inr ⟨ds₁, a, t, ds₂, rfl, hw, hk⟩
  | error fault =>
      obtain ⟨rfl, hend⟩ := done_plays_iff.mp hk
      cases hend
      exact .inl ⟨fault, by rwa [List.append_nil], rfl⟩

theorem exists_of_result_bind {k : Except (Fault τ) α → Work τ Q R β} (h : (w.result >>= k).Does s ds y s') :
    ∃ ds₁ x t ds₂, ds = ds₁ ++ ds₂ ∧ w.Does s ds₁ x t ∧ (k x).Does t ds₂ y s' := by
  rw [Does, start_bind, start_result, Program.bind_assoc] at h
  obtain ⟨ds₁, ⟨x, t⟩, ds₂, rfl, hw, hk⟩ := h.exists_of_bind
  exact ⟨ds₁, x, t, ds₂, rfl, hw, hk⟩

theorem exists_of_act {e : Effect τ Q} {x : Except (Fault τ) (e.Answer R)}
    (h : (act e : Work τ Q R (e.Answer R)).Does s ds x s') : ∃ a, ds = [⟨e, a⟩] ∧ x = .ok a ∧ s' = s := by
  rw [Does, start_act] at h
  obtain ⟨a, ds', rfl, hdone⟩ := Program.Plays.exists_of_act (a := some (x, s')) h
  obtain ⟨rfl, hend⟩ := done_plays_iff.mp hdone
  cases hend
  exact ⟨a, rfl, rfl, rfl⟩

theorem exists_of_act_bind {e : Effect τ Q} {k : e.Answer R → Work τ Q R β} (h : (act e >>= k).Does s ds y s') :
    ∃ a ds', ds = ⟨e, a⟩ :: ds' ∧ (k a).Does s ds' y s' := by
  rw [Does, start_bind, start_act] at h
  exact Program.Plays.exists_of_act (a := some (y, s')) h

theorem exists_of_log_bind {level : Level} {text : String} {k : Unit → Work τ Q R β}
    (h : (log level text >>= k).Does s ds y s') :
    ∃ ds', ds = ⟨.note (.log level text), ()⟩ :: ds' ∧ (k ()).Does s ds' y s' := by
  obtain ⟨_, ds', rfl, hk⟩ := h.exists_of_act_bind
  exact ⟨ds', rfl, hk⟩

theorem exists_of_clock_bind {k : τ → Work τ Q R β} (h : (clock >>= k).Does s ds y s') :
    ∃ now ds', ds = ⟨.clock, now⟩ :: ds' ∧ (k now).Does s ds' y s' := h.exists_of_act_bind

theorem exists_of_ofExcept_bind {x : Except (Fault τ) α} (h : (ofExcept x >>= k).Does s ds y s') :
    (∃ fault, x = .error fault ∧ y = .error fault ∧ ds = [] ∧ s' = s) ∨ ∃ a, x = .ok a ∧ (k a).Does s ds y s' := by
  cases x with
  | ok a => exact .inr ⟨a, rfl, h⟩
  | error fault =>
      obtain ⟨rfl, rfl, rfl⟩ := does_throw_iff.mp h
      exact .inl ⟨fault, rfl, rfl, rfl, rfl⟩

theorem session_bind {k : Session τ → Work τ Q R β} (h : (session >>= k).Does s ds y s') : (k s).Does s ds y s' := h

theorem attemptCount_bind {k : Nat → Work τ Q R β} (h : (attemptCount >>= k).Does s ds y s') :
    (k ((s.attempts.map Attempts.count).getD 0)).Does s ds y s' := h

/-! ## The record -/

theorem of_setAttempts {a : Attempts τ} {x : Except (Fault τ) Unit}
    (h : (setAttempts a : Work τ Q R Unit).Does s ds x s') :
    ds = [⟨.note (.attempts a), ()⟩] ∧ x = .ok () ∧ s' = { s with attempts := some a } := by
  obtain ⟨_, rfl, rfl, rfl⟩ := exists_of_act (s := { s with attempts := some a }) h
  exact ⟨rfl, rfl, rfl⟩

theorem of_updateAttempts {f : Attempts τ → Attempts τ} {x : Except (Fault τ) Unit}
    (h : (updateAttempts f : Work τ Q R Unit).Does s ds x s') :
    x = .ok () ∧ s' = { s with attempts := s.attempts.map f } ∧
      ds = (s.attempts.map fun a => ⟨.note (.attempts (f a)), ()⟩).toList := by
  obtain ⟨attempts, task⟩ := s
  cases attempts with
  | none =>
      obtain ⟨rfl, rfl, rfl⟩ := does_pure_iff.mp h
      exact ⟨rfl, rfl, rfl⟩
  | some a =>
      obtain ⟨rfl, rfl, rfl⟩ := of_setAttempts h
      exact ⟨rfl, rfl, rfl⟩

theorem of_updateTask {f : Task τ → Task τ} {x : Except (Fault τ) Unit}
    (h : (updateTask f : Work τ Q R Unit).Does s ds x s') :
    x = .ok () ∧ s' = { s with task := s.task.map f } ∧ ds = Deed.tells (s.task.map f) := by
  obtain ⟨attempts, task⟩ := s
  cases task with
  | none =>
      rw [Does, start_updateTask_none rfl] at h
      obtain ⟨rfl, hend⟩ := done_plays_iff.mp h
      cases hend
      exact ⟨rfl, rfl, rfl⟩
  | some t =>
      rw [Does, start_updateTask rfl] at h
      obtain ⟨_, ds', rfl, hdone⟩ := Program.Plays.exists_of_act (a := some (x, s')) h
      obtain ⟨rfl, hend⟩ := done_plays_iff.mp hdone
      cases hend
      exact ⟨rfl, rfl, rfl⟩

theorem exists_of_updateTask_bind {f : Task τ → Task τ} {k : Unit → Work τ Q R β}
    (h : (updateTask f >>= k).Does s ds y s') :
    ∃ rest, ds = Deed.tells (s.task.map f) ++ rest ∧ (k ()).Does { s with task := s.task.map f } rest y s' := by
  rcases h.exists_of_bind with ⟨why, hupdate, -⟩ | ⟨told, _, t, rest, rfl, hupdate, hk⟩
  · cases hupdate.of_updateTask.1
  · obtain ⟨-, rfl, rfl⟩ := hupdate.of_updateTask
    exact ⟨rest, rfl, hk⟩

end Does

end Work

/-! ## Looking and telling -/

/-- Steps that learn or tell something, but neither send nor wait nor tell of the record. -/
def Effect.isIdle : Effect τ Q → Bool
  | .clock | .cancelled _ | .note (.log ..) => true
  | _ => false

namespace Deed

def Idle (ds : List (Deed τ Q R)) : Prop := ∀ d ∈ ds, d.effect.isIdle = true

variable {ds ds' : List (Deed τ Q R)}

theorem Idle.nil : Idle ([] : List (Deed τ Q R)) := List.forall_mem_nil _

theorem Idle.cons {e : Effect τ Q} {a : e.Answer R} (he : e.isIdle = true) (h : Idle ds) : Idle (⟨e, a⟩ :: ds) :=
  List.forall_mem_cons.mpr ⟨he, h⟩

theorem Idle.append (h : Idle ds) (h' : Idle ds') : Idle (ds ++ ds') := List.forall_mem_append.mpr ⟨h, h'⟩

end Deed

namespace Work.Does

variable {flag : Option Flag} {s s' : Session τ} {ds : List (Deed τ Q R)} {y : Except (Fault τ) β}

theorem exists_of_isStopped_bind {k : Bool → Work τ Q R β} (h : (isStopped flag >>= k).Does s ds y s') :
    ∃ raised idle rest, ds = idle ++ rest ∧ Deed.Idle idle ∧ (k raised).Does s rest y s' := by
  cases flag with
  | none => exact ⟨false, [], ds, rfl, .nil, h⟩
  | some f =>
      obtain ⟨raised, rest, rfl, hk⟩ := exists_of_act_bind (e := .cancelled f) h
      exact ⟨raised, [⟨.cancelled f, raised⟩], rest, rfl, .cons rfl .nil, hk⟩

theorem of_check {x : Except (Fault τ) Unit} (h : (check flag : Work τ Q R Unit).Does s ds x s') :
    (x = .ok () ∨ x = .error .stopped) ∧ Deed.Idle ds ∧ s' = s := by
  obtain ⟨raised, idle, rest, rfl, hidle, hend⟩ := exists_of_isStopped_bind h
  cases raised with
  | true =>
      obtain ⟨rfl, hx, hs⟩ := does_throw_iff.mp hend
      exact ⟨.inr hx, hidle.append .nil, hs⟩
  | false =>
      obtain ⟨rfl, hx, hs⟩ := does_pure_iff.mp hend
      exact ⟨.inl hx, hidle.append .nil, hs⟩

theorem exists_of_check_bind {k : Unit → Work τ Q R β} (h : (check flag >>= k).Does s ds y s') :
    (y = .error .stopped ∧ Deed.Idle ds ∧ s' = s) ∨
      ∃ idle rest, ds = idle ++ rest ∧ Deed.Idle idle ∧ (k ()).Does s rest y s' := by
  rcases h.exists_of_bind with ⟨why, hcheck, rfl⟩ | ⟨idle, _, t, rest, rfl, hcheck, hk⟩
  · obtain ⟨hwhy | hwhy, hidle, rfl⟩ := hcheck.of_check
    · cases hwhy
    · obtain rfl := Except.error.inj hwhy
      exact .inl ⟨rfl, hidle, rfl⟩
  · obtain ⟨-, hidle, rfl⟩ := hcheck.of_check
    exact .inr ⟨idle, rest, rfl, hidle, hk⟩

end Work.Does

/-! ## Work that keeps to some steps -/

namespace Work

/-- Work that takes only steps of some kind and leaves a part of the record as it is. -/
def Confined {γ : Type} (part : Session τ → γ) (Kind : Effect τ Q → Prop) (w : Work τ Q R α) : Prop :=
  ∀ s ds x s', w.Does s ds x s' → part s' = part s ∧ ∀ d ∈ ds, Kind d.effect

namespace Confined

variable {γ : Type} {part : Session τ → γ} {Kind : Effect τ Q → Prop} {w w' : Work τ Q R α}
  {k : α → Work τ Q R β}

theorem pure (a : α) : Confined part Kind (pure a : Work τ Q R α) := by
  intro s ds x s' h
  obtain ⟨rfl, -, rfl⟩ := does_pure_iff.mp h
  exact ⟨rfl, List.forall_mem_nil _⟩

theorem throw (fault : Fault τ) : Confined part Kind (throw fault : Work τ Q R α) := by
  intro s ds x s' h
  obtain ⟨rfl, -, rfl⟩ := does_throw_iff.mp h
  exact ⟨rfl, List.forall_mem_nil _⟩

theorem ofExcept (x : Except (Fault τ) α) : Confined part Kind (ofExcept x : Work τ Q R α) := by
  cases x with
  | ok a => exact pure a
  | error fault => exact throw fault

theorem act {e : Effect τ Q} (he : Kind e) : Confined part Kind (act e : Work τ Q R (e.Answer R)) := by
  intro s ds x s' h
  obtain ⟨a, rfl, -, rfl⟩ := h.exists_of_act
  exact ⟨rfl, List.forall_mem_singleton.mpr he⟩

theorem stall : Confined part Kind (stall : Work τ Q R α) := by
  intro s ds x s' h
  cases h

theorem bind (h : Confined part Kind w) (hk : ∀ a, Confined part Kind (k a)) : Confined part Kind (w >>= k) := by
  intro s ds y s' hdoes
  rcases hdoes.exists_of_bind with ⟨fault, hw, -⟩ | ⟨ds₁, a, t, ds₂, rfl, hw, hrest⟩
  · exact h _ _ _ _ hw
  · obtain ⟨hkept, hds₁⟩ := h _ _ _ _ hw
    obtain ⟨hkept', hds₂⟩ := hk a _ _ _ _ hrest
    exact ⟨hkept'.trans hkept, List.forall_mem_append.mpr ⟨hds₁, hds₂⟩⟩

theorem ite {p : Prop} [Decidable p] (hpos : Confined part Kind w) (hneg : Confined part Kind w') :
    Confined part Kind (if p then w else w') := by
  split
  · exact hpos
  · exact hneg

end Confined

end Work

/-- Steps that tell how attempts or a task stand. -/
def Effect.tellsRecord : Effect τ Q → Bool
  | .note (.task _) | .note (.attempts _) => true
  | _ => false

namespace Work

/-- Work that leaves the record as it is and tells nothing of it. -/
abbrev Plain (w : Work τ Q R α) : Prop := Confined id (fun e => e.tellsRecord = false) w

namespace Plain

theorem log (level : Level) (text : String) : Plain (log level text : Work τ Q R Unit) := .act rfl

theorem isStopped : (flag : Option Flag) → Plain (isStopped flag : Work τ Q R Bool)
  | none => .pure false
  | some _ => .act rfl

theorem check (flag : Option Flag) : Plain (check flag : Work τ Q R Unit) :=
  (isStopped flag).bind fun _ => .ite (.throw _) (.pure _)

variable [Seconds τ]

theorem sleepWatching (flag : Option Flag) (s : τ) : Plain (sleepWatching flag s : Work τ Q R Unit) := by
  cases flag with
  | none => exact .act rfl
  | some f => exact .ite (.bind (.act rfl) fun _ => check (some f)) (check (some f))

theorem acquire (b : Bucket) (flag : Option Flag) (margin : Option Int) (patience : Nat) (mostWait : τ) :
    Plain (acquire b flag margin patience mostWait : Work τ Q R Permit) := by
  induction patience generalizing mostWait with
  | zero => exact .stall
  | succ patience ih =>
      refine .bind (.act (e := .reserve b margin) rfl) fun reserved => ?_
      cases reserved with
      | ok permit => exact .pure permit
      | error refusal =>
          refine .bind (.act (e := .clock) rfl) fun now => .ite (.throw _) ?_
          exact (log _ _).bind fun _ => (sleepWatching flag _).bind fun _ => ih _

end Plain

end Work

end RepoCensus
