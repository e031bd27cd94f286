import RepoCensus.Proofs.Work.Always
import RepoCensus.World.Basic

/-!
# From scene to scene

A scene is all that a piece of work finds when it begins: its record and the world. In given surroundings work that
begins in a scene comes to one end, with a value or a fault, in one further scene.
-/

namespace RepoCensus

open RepoCensus.Calendar

variable {σ τ Q R α β : Type}

structure Scene (σ τ Q : Type) where
  session : Session τ
  world : World σ τ Q

namespace Scene

/-- The scene after an entry of the log. -/
def logged (a : Scene σ τ Q) (level : Level) (text : String) : Scene σ τ Q := ⟨a.session, a.world.log level text⟩

/-- The scene after a new record of attempts was set and noted. -/
def attempting (a : Scene σ τ Q) (x : Attempts τ) : Scene σ τ Q :=
  ⟨{ a.session with attempts := some x }, a.world.record (.noted (.attempts x))⟩

/-- Whether whoever looks at the flag finds it raised. -/
def isRaised (sur : Surroundings σ τ Q R) (flag : Option Flag) (a : Scene σ τ Q) : Bool :=
  flag.any (a.world.isRaised sur)

/-- Nothing happened but that entries of the log were made, if any. -/
inductive Logs (a : Scene σ τ Q) : Scene σ τ Q → Prop where
  | refl : Logs a a
  | entry {b : Scene σ τ Q} (h : Logs a b) (level : Level) (text : String) : Logs a (b.logged level text)

theorem Logs.once (a : Scene σ τ Q) (level : Level) (text : String) : a.Logs (a.logged level text) :=
  refl.entry level text

theorem Logs.trans {a b c : Scene σ τ Q} (h : a.Logs b) (h' : b.Logs c) : a.Logs c := by
  induction h' with
  | refl => exact h
  | entry _ level text ih => exact ih.entry level text

end Scene

variable [Seconds τ]

theorem Program.run_bind (sur : Surroundings σ τ Q R) (p : Program τ Q R α) (f : α → Program τ Q R β)
    (w : World σ τ Q) : (p.bind f).run sur w =
      match p.run sur w with
      | (some a, w) => (f a).run sur w
      | (none, w) => (none, w) := by
  induction p generalizing w with
  | done a => rfl
  | stalled => rfl
  | act e next ih => exact ih _ _

namespace Work

/-- Work that begins in the scene `a` comes to the end `x` in the scene `b`. -/
def ComesTo (sur : Surroundings σ τ Q R) (work : Work τ Q R α) (a : Scene σ τ Q) (x : Except (Fault τ) α)
    (b : Scene σ τ Q) : Prop :=
  work.run sur a.session a.world = (some (x, b.session), b.world)

variable {sur : Surroundings σ τ Q R} {work : Work τ Q R α} {k : α → Work τ Q R β} {a b c : Scene σ τ Q}
  {flag : Option Flag}

namespace ComesTo

theorem unique {x x' : Except (Fault τ) α} (h : work.ComesTo sur a x b) (h' : work.ComesTo sur a x' c) :
    x' = x ∧ c = b := by
  obtain ⟨session, world⟩ := b
  obtain ⟨session', world'⟩ := c
  cases h.symm.trans h'
  exact ⟨rfl, rfl⟩

theorem pure (v : α) (a : Scene σ τ Q) : (Pure.pure v : Work τ Q R α).ComesTo sur a (.ok v) a := rfl

theorem throw (fault : Fault τ) (a : Scene σ τ Q) :
    (MonadExcept.throw fault : Work τ Q R α).ComesTo sur a (.error fault) a := rfl

theorem ofExcept (x : Except (Fault τ) α) (a : Scene σ τ Q) :
    (MonadExcept.ofExcept x : Work τ Q R α).ComesTo sur a x a := by
  cases x <;> rfl

theorem ofExcept_of_eq {x y : Except (Fault τ) α} (h : x = y) (a : Scene σ τ Q) :
    (MonadExcept.ofExcept x : Work τ Q R α).ComesTo sur a y a := h ▸ ofExcept x a

theorem bind_iff {v : α} {x : Except (Fault τ) β} (h : work.ComesTo sur a (.ok v) b) :
    (work >>= k).ComesTo sur a x c ↔ (k v).ComesTo sur b x c := by
  unfold ComesTo Work.run at *
  rw [start_bind, Program.run_bind, h]

theorem bind {v : α} {x : Except (Fault τ) β} (h : work.ComesTo sur a (.ok v) b) (h' : (k v).ComesTo sur b x c) :
    (work >>= k).ComesTo sur a x c :=
  h.bind_iff.mpr h'

theorem bind_error {fault : Fault τ} (h : work.ComesTo sur a (.error fault) b) :
    (work >>= k).ComesTo sur a (.error fault) b := by
  unfold ComesTo Work.run at *
  rw [start_bind, Program.run_bind, h]
  rfl

theorem result {x : Except (Fault τ) α} (h : work.ComesTo sur a x b) : work.result.ComesTo sur a (.ok x) b := by
  unfold ComesTo Work.run at *
  rw [start_result, Program.run_bind, h]
  rfl

theorem result_bind {x : Except (Fault τ) α} {k : Except (Fault τ) α → Work τ Q R β} {y : Except (Fault τ) β}
    (h : work.ComesTo sur a x b) (h' : (k x).ComesTo sur b y c) : (work.result >>= k).ComesTo sur a y c :=
  h.result.bind h'

theorem act (e : Effect τ Q) (a : Scene σ τ Q) :
    (Work.act e : Work τ Q R (e.Answer R)).ComesTo sur a (.ok (a.world.perform sur e).1)
      ⟨a.session, (a.world.perform sur e).2⟩ := rfl

theorem log (level : Level) (text : String) (a : Scene σ τ Q) :
    (log level text : Work τ Q R Unit).ComesTo sur a (.ok ()) (a.logged level text) := rfl

theorem ask (q : Q) (a : Scene σ τ Q) :
    (ask q : Work τ Q R R).ComesTo sur a (a.world.perform sur (.ask q)).1
      ⟨a.session, (a.world.perform sur (.ask q)).2⟩ :=
  (act (.ask q) a).bind (ofExcept _ _)

theorem isStopped (flag : Option Flag) (a : Scene σ τ Q) :
    (isStopped flag : Work τ Q R Bool).ComesTo sur a (.ok (a.isRaised sur flag)) a := by
  cases flag <;> rfl

theorem check (h : a.isRaised sur flag = false) : (check flag : Work τ Q R Unit).ComesTo sur a (.ok ()) a := by
  refine (isStopped flag a).bind ?_
  rw [h]
  exact pure () a

theorem check_raised (h : a.isRaised sur flag = true) :
    (Work.check flag : Work τ Q R Unit).ComesTo sur a (.error .stopped) a := by
  refine (isStopped flag a).bind ?_
  rw [h]
  exact throw _ a

theorem setAttempts (x : Attempts τ) (a : Scene σ τ Q) :
    (setAttempts x : Work τ Q R Unit).ComesTo sur a (.ok ()) (a.attempting x) := rfl

theorem updateAttempts {x : Attempts τ} (h : a.session.attempts = some x) (f : Attempts τ → Attempts τ) :
    (updateAttempts f : Work τ Q R Unit).ComesTo sur a (.ok ()) (a.attempting (f x)) := by
  have hsession : (session : Work τ Q R (Session τ)).ComesTo sur a (.ok a.session) a := rfl
  refine hsession.bind ?_
  rw [h]
  exact setAttempts (f x) a

end ComesTo

end Work

end RepoCensus
