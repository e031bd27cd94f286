import RepoCensus.Fault.Basic
import RepoCensus.Proofs.Work.Always
import RepoCensus.Proofs.World.Drift

/-!
# Work within bounds

A piece of work is one of a crew that shares a world. `Work.Within c n post` says that it comes to its end
at a price of at most `n`, that a result satisfies `post`, and that a fault is an ordinary one if the service has no
others, whatever the others of the crew do in between. The rules below follow the ways in which work is put together.
-/

namespace RepoCensus

open RepoCensus.Calendar

/-! ## Ordinary faults

Only who sits at the keyboard interrupts the program. What the program works out by itself ends in a value or in an
ordinary fault.
-/

section

variable {τ α β : Type}

/-- A result that is as wished, or a fault, which is an ordinary one where it is quiet. -/
def Ends (quiet : Prop) (post : α → Prop) : Except (Fault τ) α → Prop
  | .ok a => post a
  | .error fault => quiet → fault.isOrdinary = true

theorem Ends.lift {quiet : Prop} (x : Except Anomaly α) :
    Ends quiet (fun _ => True) (Fault.lift x : Except (Fault τ) α) := by
  cases x with
  | ok a => trivial
  | error why => exact fun _ => rfl

/-! ### Flaws -/

/-- Faults that tell of something that nobody can work with. -/
def Fault.IsFlaw : Fault τ → Prop
  | .anomaly _ | .connection _ _ => True
  | _ => False

/-- A result, or a fault that tells of a flaw. -/
def Sound : Except (Fault τ) α → Prop
  | .ok _ => True
  | .error fault => fault.IsFlaw

theorem Sound.lift (x : Except Anomaly α) : Sound (Fault.lift x : Except (Fault τ) α) := by
  cases x <;> trivial

end

/-! ## Crews -/

/-- What a request and a budget that is passed on are charged with. -/
structure Prices where
  ask : Nat
  update : Nat

def Effect.price {τ Q : Type} (p : Prices) : Effect τ Q → Nat
  | .ask _ => p.ask
  | .update _ _ => p.update
  | _ => 0

/-- Those who share a world: its surroundings, what their steps are charged with, how often each of them
waits for a permit at most, and whether they may stall. -/
structure Crew (σ τ Q R : Type) where
  sur : Surroundings σ τ Q R
  prices : Prices
  patience : Nat
  stalls : Prop

/-- Where one of a crew stands. -/
structure Standing (σ τ Q : Type) where
  /-- What it can still pay. -/
  credit : Nat
  /-- How many budgets the others can still pass on. -/
  others : Nat
  world : World σ τ Q

variable {σ τ Q R α β : Type} [Seconds τ]

/-- The others of a crew drift, and the world answers. -/
def Crew.behaviour (c : Crew σ τ Q R) : Behaviour τ Q R (Standing σ τ Q) where
  stalls := c.stalls
  drifts g g' := g'.credit = g.credit ∧
    ∃ n, g'.others + n ≤ g.others ∧ World.Drift c.sur g.world n g'.world
  allows g e := e.price c.prices ≤ g.credit
  answers g e a g' := g.world.perform c.sur e = (a, g'.world) ∧
    g'.credit + e.price c.prices = g.credit ∧ g'.others = g.others

/-- Whoever waits for a permit comes to an end of it if so many budgets can still be passed on by others. -/
def Crew.Endures (c : Crew σ τ Q R) (others : Nat) : Prop := c.stalls ∨ others + 2 ≤ c.patience

omit [Seconds τ] in
theorem Crew.Endures.mono {c : Crew σ τ Q R} {n m : Nat} (h : c.Endures m) (hn : n ≤ m) : c.Endures n := by
  rcases h with h | h
  · exact .inl h
  · exact .inr (by omega)

/-- Where a piece of work that began at a standing may end, at a price of at most `n`. -/
structure Standing.Reaches (g : Standing σ τ Q) (n : Nat) (g' : Standing σ τ Q) : Prop where
  credit : g.credit ≤ g'.credit + n
  others : g'.others ≤ g.others

namespace Standing.Reaches

variable {g g' g'' : Standing σ τ Q} {n m : Nat}

omit [Seconds τ] in
theorem refl (g : Standing σ τ Q) (n : Nat) : g.Reaches n g := ⟨Nat.le_add_right _ _, Nat.le_refl _⟩

omit [Seconds τ] in
theorem trans (h : g.Reaches n g') (h' : g'.Reaches m g'') : g.Reaches (n + m) g'' where
  credit := by have := h.credit; have := h'.credit; omega
  others := Nat.le_trans h'.others h.others

omit [Seconds τ] in
theorem mono (hn : n ≤ m) (h : g.Reaches n g') : g.Reaches m g' where
  credit := by have := h.credit; omega
  others := h.others

end Standing.Reaches

namespace Work

/-- A piece of work comes to its end at a price of at most `n`, with a result that satisfies `post` or a
fault, which is an ordinary one if the service has no others. -/
def Within (c : Crew σ τ Q R) (n : Nat) (post : α → Prop) (w : Work τ Q R α) : Prop :=
  ∀ s g, n ≤ g.credit → c.Endures g.others →
    (w.start s).Always c.behaviour (fun r g' => g.Reaches n g' ∧ Ends c.sur.Ordinary post r.1) g

namespace Within

variable {c : Crew σ τ Q R} {n m : Nat} {post : α → Prop} {post' : β → Prop} {w : Work τ Q R α}

theorem pure {a : α} (h : post a) : Within c n post (pure a) :=
  fun _ _ _ _ => ⟨.refl _ _, h⟩

theorem throw {fault : Fault τ} (h : c.sur.Ordinary → fault.isOrdinary = true) :
    Within c n post (throw fault) :=
  fun _ _ _ _ => ⟨.refl _ _, h⟩

theorem ofExcept {x : Except (Fault τ) α} (h : Ends c.sur.Ordinary post x) : Within c n post (ofExcept x) := by
  intro s g _ _
  rw [start_ofExcept]
  exact ⟨.refl _ _, h⟩

theorem mono {post' : α → Prop} (h : Within c n post w) (hn : n ≤ m) (hpost : ∀ a, post a → post' a) :
    Within c m post' w := by
  intro s g hg hp
  refine (h s g (Nat.le_trans hn hg) hp).mono ?_
  rintro ⟨r, s'⟩ g' ⟨hr, he⟩
  refine ⟨hr.mono hn, ?_⟩
  cases r with
  | ok a => exact hpost a he
  | error fault => exact he

/-- One thing after another: the prices add up. -/
theorem bind {f : α → Work τ Q R β} (h : Within c n post w)
    (hf : ∀ a, post a → Within c m post' (f a)) : Within c (n + m) post' (w >>= f) := by
  intro s g hg hp
  rw [start_bind, Program.always_bind]
  refine (h s g (by omega) hp).mono ?_
  rintro ⟨r, s'⟩ g' ⟨hr, he⟩
  cases r with
  | ok a =>
      have hc := hr.credit
      have ho := hr.others
      refine (hf a he s' g' (by omega) (hp.mono ho)).mono ?_
      rintro ⟨r', s''⟩ g'' ⟨hr', he'⟩
      exact ⟨hr.trans hr', he'⟩
  | error fault => exact ⟨hr.mono (Nat.le_add_right n m), he⟩

theorem free {f : α → Work τ Q R β} (h : Within c 0 post w)
    (hf : ∀ a, post a → Within c m post' (f a)) : Within c m post' (w >>= f) := by
  have := h.bind hf
  rwa [Nat.zero_add] at this

theorem result (h : Within c n post w) : Within c n (Ends c.sur.Ordinary post) w.result := by
  intro s g hg hp
  rw [start_result, Program.always_bind]
  exact (h s g hg hp).mono fun r g' hr => hr

theorem ite {p : Prop} [Decidable p] {v w : Work τ Q R α} (hv : p → Within c n post v)
    (hw : ¬ p → Within c n post w) : Within c n post (if p then v else w) := by
  split
  · exact hv ‹_›
  · exact hw ‹_›

/-! ## Single steps -/

theorem act (e : Effect τ Q) {post : e.Answer R → Prop}
    (h : ∀ w : World σ τ Q, post (w.perform c.sur e).1) : Within c (e.price c.prices) post (act e) := by
  intro s g hg _ g' hd
  obtain ⟨hc, n, ho, _⟩ := hd
  refine ⟨Nat.le_trans hg (Nat.le_of_eq hc.symm), ?_⟩
  rintro a g'' ⟨hw, hc', ho'⟩
  refine ⟨⟨by omega, by omega⟩, ?_⟩
  have := h g'.world
  rwa [hw] at this

theorem actFree (e : Effect τ Q) (he : e.price c.prices = 0) :
    Within c 0 (fun _ => True) (Work.act e : Work τ Q R (e.Answer R)) := by
  have h : Within c (e.price c.prices) (fun _ => True) (Work.act e : Work τ Q R (e.Answer R)) :=
    act e fun _ => trivial
  rwa [he] at h

theorem clock : Within c 0 (fun _ => True) (clock : Work τ Q R τ) := actFree _ rfl

theorem jitter : Within c 0 (fun _ => True) (jitter : Work τ Q R τ) := actFree _ rfl

theorem cancelled (f : Flag) : Within c 0 (fun _ => True) (cancelled f : Work τ Q R Bool) :=
  actFree _ rfl

theorem sleep (s : τ) : Within c 0 (fun _ => True) (sleep s : Work τ Q R Unit) := actFree _ rfl

theorem wait (f : Flag) (s : τ) : Within c 0 (fun _ => True) (wait f s : Work τ Q R Unit) :=
  actFree _ rfl

theorem openBucket (b : Bucket) : Within c 0 (fun _ => True) (openBucket b : Work τ Q R Unit) := actFree _ rfl

theorem reserve (b : Bucket) (margin : Option Int) :
    Within c 0 (fun _ => True) (reserve b margin : Work τ Q R (Except (Refusal τ) Permit)) :=
  actFree _ rfl

theorem note (n : Note τ) : Within c 0 (fun _ => True) (note n : Work τ Q R Unit) := actFree _ rfl

theorem log (level : Level) (text : String) :
    Within c 0 (fun _ => True) (log level text : Work τ Q R Unit) := note _

theorem update (b : Bucket) (budget : Budget τ) :
    Within c c.prices.update (fun _ => True) (update b budget : Work τ Q R (Except Anomaly Unit)) :=
  act (.update b budget) fun _ => trivial

theorem answer (q : Q) : Within c c.prices.ask (Ends c.sur.Ordinary fun _ => True)
    (answer q : Work τ Q R (Except (Fault τ) R)) := by
  refine act (.ask q) fun w => ?_
  show Ends c.sur.Ordinary (fun _ => True) (c.sur.serve q w.outside).1
  cases h : (c.sur.serve q w.outside).1 with
  | ok r => trivial
  | error fault => exact fun hsur => hsur q w.outside fault h

theorem ask (q : Q) : Within c c.prices.ask (fun _ => True) (ask q : Work τ Q R R) :=
  (answer q).bind (m := 0) fun _ ha => ofExcept ha

/-! ## Flags and sleeps -/

theorem isStopped : (flag : Option Flag) →
    Within c 0 (fun _ => True) (isStopped flag : Work τ Q R Bool)
  | none => pure trivial
  | some f => cancelled f

theorem check (flag : Option Flag) : Within c 0 (fun _ => True) (check flag : Work τ Q R Unit) :=
  (isStopped flag).free fun _ _ => ite (fun _ => throw fun _ => rfl) fun _ => pure trivial

theorem pause (f : Flag) (s : τ) : Within c 0 (fun _ => True) (pause f s : Work τ Q R Unit) :=
  ite (fun _ => (wait f s).free fun _ _ => check (some f)) fun _ => check (some f)

theorem sleepWatching : (flag : Option Flag) → (s : τ) →
    Within c 0 (fun _ => True) (sleepWatching flag s : Work τ Q R Unit)
  | some f, s => pause f s
  | none, s => sleep s

/-! ## The record -/

theorem session : Within c 0 (fun _ => True) (session : Work τ Q R (Session τ)) :=
  fun _ _ _ _ => ⟨.refl _ _, trivial⟩

theorem attemptCount : Within c 0 (fun _ => True) (attemptCount : Work τ Q R Nat) :=
  session.free fun _ _ => pure trivial

theorem modify (f : Session τ → Session τ) : Within c 0 (fun _ => True) (modify f : Work τ Q R PUnit) :=
  fun _ _ _ _ => ⟨.refl _ _, trivial⟩

theorem setAttempts (a : Attempts τ) :
    Within c 0 (fun _ => True) (setAttempts a : Work τ Q R Unit) :=
  (modify fun s => { s with attempts := some a }).free fun _ _ => note _

theorem updateAttempts (f : Attempts τ → Attempts τ) :
    Within c 0 (fun _ => True) (updateAttempts f : Work τ Q R Unit) := by
  refine session.free fun s _ => ?_
  cases s.attempts with
  | some a => exact setAttempts _
  | none => exact pure trivial

theorem updateTask (f : Task τ → Task τ) : Within c 0 (fun _ => True) (updateTask f : Work τ Q R Unit) := by
  refine session.free fun s _ => ?_
  cases s.task with
  | some t => exact (modify fun s => { s with task := some (f t) }).free fun _ _ => note _
  | none => exact pure trivial

theorem setStage (stage : Stage) : Within c 0 (fun _ => True) (setStage stage : Work τ Q R Unit) := updateTask _

end Within

end Work

end RepoCensus
