import RepoCensus.Work.Effect

/-!
# Programs

A program is done, or it takes a step and goes on with what it learned. A program that exceeds its own
patience stalls.
-/

namespace RepoCensus

/-- A program whose requests are of type `Q` and whose answers are of type `R`. -/
inductive Program (τ Q R α : Type) where
  | done (a : α)
  | stalled
  | act (e : Effect τ Q) (next : e.Answer R → Program τ Q R α)

namespace Program

variable {τ Q R α β γ : Type}

def bind : Program τ Q R α → (α → Program τ Q R β) → Program τ Q R β
  | done a, f => f a
  | stalled, _ => stalled
  | act e next, f => act e fun answer => (next answer).bind f

instance : Monad (Program τ Q R) where
  pure := done
  bind := bind

@[simp] theorem pure_eq (a : α) : (pure a : Program τ Q R α) = done a := rfl

@[simp] theorem bind_eq (p : Program τ Q R α) (f : α → Program τ Q R β) : p >>= f = p.bind f := rfl

@[simp] theorem done_bind (a : α) (f : α → Program τ Q R β) : (done a).bind f = f a := rfl

@[simp] theorem stalled_bind (f : α → Program τ Q R β) :
    (stalled : Program τ Q R α).bind f = stalled := rfl

@[simp] theorem act_bind (e : Effect τ Q) (next : e.Answer R → Program τ Q R α)
    (f : α → Program τ Q R β) : (act e next).bind f = act e fun answer => (next answer).bind f := rfl

@[simp] theorem bind_done (p : Program τ Q R α) : p.bind done = p := by
  induction p with
  | done a => rfl
  | stalled => rfl
  | act e next ih => simp [ih]

theorem bind_assoc (p : Program τ Q R α) (f : α → Program τ Q R β) (g : β → Program τ Q R γ) :
    (p.bind f).bind g = p.bind fun a => (f a).bind g := by
  induction p with
  | done a => rfl
  | stalled => rfl
  | act e next ih => simp [ih]

instance : LawfulMonad (Program τ Q R) :=
  LawfulMonad.mk' (Program τ Q R) (fun p => bind_done p) (fun _ _ => rfl) bind_assoc

end Program

end RepoCensus
