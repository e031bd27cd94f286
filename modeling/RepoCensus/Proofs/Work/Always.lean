import RepoCensus.Work.Basic

/-!
# What always holds at the end of a program

A proof about a program looks at a state of its own choice, which stands for the surroundings. `Behaviour`
says how this state may move; `Program.Always` says that a program comes to its end, and that something
holds there, however the state moves. Composition is an equivalence (`Program.always_bind`), so that a long
program is taken apart step by step.
-/

namespace RepoCensus

/-- How the surroundings of a program may behave, as far as the state of a proof shows it. -/
structure Behaviour (τ Q R G : Type) where
  /-- Whether the program may stall. -/
  stalls : Prop
  /-- How the state moves between two steps of the program. -/
  drifts : G → G → Prop
  /-- Which steps the program may take. -/
  allows : G → Effect τ Q → Prop
  /-- Which answers a step may get, and how the state moves with it. -/
  answers : G → (e : Effect τ Q) → e.Answer R → G → Prop

namespace Program

variable {τ Q R G α β : Type} {B : Behaviour τ Q R G}

/-- A program takes only steps that are allowed, stalls only if it may, and `post` holds at its end. -/
def Always (B : Behaviour τ Q R G) (post : α → G → Prop) : Program τ Q R α → G → Prop
  | done a, g => post a g
  | stalled, _ => B.stalls
  | act e next, g => ∀ g', B.drifts g g' →
      B.allows g' e ∧ ∀ a g'', B.answers g' e a g'' → (next a).Always B post g''

theorem Always.mono {post post' : α → G → Prop} (h : ∀ a g, post a g → post' a g) :
    {p : Program τ Q R α} → {g : G} → p.Always B post g → p.Always B post' g
  | done _, _, hp => h _ _ hp
  | stalled, _, hp => hp
  | act _ _, _, hp => fun g' hg => ⟨(hp g' hg).1, fun a g'' ha => ((hp g' hg).2 a g'' ha).mono h⟩

theorem always_bind {post : β → G → Prop} {p : Program τ Q R α} {f : α → Program τ Q R β} {g : G} :
    (p.bind f).Always B post g ↔ p.Always B (fun a g => (f a).Always B post g) g := by
  induction p generalizing g with
  | done a => exact Iff.rfl
  | stalled => exact Iff.rfl
  | act e next ih =>
      constructor
      · intro h g' hg
        exact ⟨(h g' hg).1, fun a g'' ha => (ih a).mp ((h g' hg).2 a g'' ha)⟩
      · intro h g' hg
        exact ⟨(h g' hg).1, fun a g'' ha => (ih a).mpr ((h g' hg).2 a g'' ha)⟩

/-- What always holds does not depend on how the state has moved in the meantime, if the end does not. -/
theorem Always.of_drifts {post : α → G → Prop}
    (htrans : ∀ {g₁ g₂ g₃}, B.drifts g₁ g₂ → B.drifts g₂ g₃ → B.drifts g₁ g₃)
    (hpost : ∀ {a g g'}, post a g → B.drifts g g' → post a g')
    {p : Program τ Q R α} {g g' : G} (hp : p.Always B post g) (hg : B.drifts g g') :
    p.Always B post g' := by
  cases p with
  | done a => exact hpost hp hg
  | stalled => exact hp
  | act e next => exact fun g'' hg' => hp g'' (htrans hg hg')

end Program

/-! ## Pieces of work as programs -/

namespace Work

variable {τ Q R α β : Type}

@[simp] theorem start_pure (a : α) (s : Session τ) :
    (pure a : Work τ Q R α).start s = .done (.ok a, s) := rfl

@[simp] theorem start_throw (fault : Fault τ) (s : Session τ) :
    (throw fault : Work τ Q R α).start s = .done (.error fault, s) := rfl

@[simp] theorem start_act (e : Effect τ Q) (s : Session τ) :
    (act e : Work τ Q R (e.Answer R)).start s = .act e fun a => .done (.ok a, s) := rfl

@[simp] theorem start_session (s : Session τ) :
    (session : Work τ Q R (Session τ)).start s = .done (.ok s, s) := rfl

@[simp] theorem start_modify (f : Session τ → Session τ) (s : Session τ) :
    (modify f : Work τ Q R PUnit).start s = .done (.ok ⟨⟩, f s) := rfl

@[simp] theorem start_ofExcept (x : Except (Fault τ) α) (s : Session τ) :
    (ofExcept x : Work τ Q R α).start s = .done (x, s) := by
  cases x <;> rfl

theorem start_bind (w : Work τ Q R α) (f : α → Work τ Q R β) (s : Session τ) :
    (w >>= f).start s = (w.start s).bind fun
      | (.ok a, s) => (f a).start s
      | (.error fault, s) => .done (.error fault, s) := by
  show Program.bind _ _ = Program.bind _ _
  congr 1
  funext r
  obtain ⟨r, s⟩ := r
  cases r <;> rfl

theorem start_result (w : Work τ Q R α) (s : Session τ) :
    w.result.start s = (w.start s).bind fun r => .done (.ok r.1, r.2) := by
  show Program.bind (Program.bind _ _) _ = _
  rw [Program.bind_assoc]
  congr 1
  funext r
  obtain ⟨r, s⟩ := r
  cases r <;> rfl

theorem start_updateTask {s : Session τ} {t : Task τ} (h : s.task = some t) (f : Task τ → Task τ) :
    (updateTask f : Work τ Q R Unit).start s =
      .act (.note (.task (f t))) fun _ => .done (.ok (), { s with task := some (f t) }) := by
  simp only [updateTask, start_bind, start_session, Program.done_bind, h, start_modify]
  rfl

theorem start_updateTask_none {s : Session τ} (h : s.task = none) (f : Task τ → Task τ) :
    (updateTask f : Work τ Q R Unit).start s = .done (.ok (), s) := by
  simp only [updateTask, start_bind, start_session, Program.done_bind, h, start_pure]

@[simp] theorem start_attemptCount (s : Session τ) :
    (attemptCount : Work τ Q R Nat).start s =
      .done (.ok ((s.attempts.map Attempts.count).getD 0), s) := rfl

end Work

end RepoCensus
