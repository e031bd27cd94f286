import RepoCensus.Budget.Acquire
import RepoCensus.Proofs.Work.Always

/-!
# Undisturbed work

Where nobody raises a flag and every permit is granted, work is followed step by step. Nothing but a request,
a permit or a budget that is passed on moves the state of a proof, and of the record only the numbers of
attempts matter.
-/

namespace RepoCensus

open RepoCensus.Calendar

variable {τ Q R G α β : Type}

/-- Steps that ask for nothing and pass nothing on. -/
def Effect.isQuiet : Effect τ Q → Bool
  | .ask _ | .reserve _ _ | .update _ _ => false
  | _ => true

/-- Nothing disturbs the work: the flag is not raised, and every permit is granted. -/
structure Behaviour.Calm (B : Behaviour τ Q R G) (flag : Option Flag) : Prop where
  stays : ∀ {g g'}, B.drifts g g' → g' = g
  allows : ∀ {g e}, e.isQuiet = true → B.allows g e
  quiet : ∀ {g e a g'}, e.isQuiet = true → B.answers g e a g' → g' = g
  unstopped : ∀ {g f a g'}, flag = some f → B.answers g (.cancelled f) a g' → a = false
  granted : ∀ {g b m a g'}, B.answers g (.reserve b m) a g' → ∃ permit, a = .ok permit

/-- How the state of a proof moves with permits, requests and budgets that are passed on. -/
structure Conduct (τ Q R G : Type) where
  pays : G → Bucket → Option Int → G → Prop
  asks : G → Q → Except (Fault τ) R → G → Prop
  tells : G → Bucket → Budget τ → Except Anomaly Unit → G → Prop

/-- The calm behaviour in which the state moves like this; what it cannot move with is not to be done. -/
def Conduct.behaviour (c : Conduct τ Q R G) (flag : Option Flag) : Behaviour τ Q R G where
  stalls := False
  drifts g g' := g' = g
  allows g
    | .reserve b margin => ∃ g', c.pays g b margin g'
    | .ask q => ∃ answer g', c.asks g q answer g'
    | .update b budget => ∃ told g', c.tells g b budget told g'
    | _ => True
  answers g
    | .reserve b margin, a, g' => (∃ permit, a = .ok permit) ∧ c.pays g b margin g'
    | .ask q, answer, g' => c.asks g q answer g'
    | .update b budget, told, g' => c.tells g b budget told g'
    | .cancelled f, a, g' => (flag = some f → a = false) ∧ g' = g
    | _, _, g' => g' = g

theorem Conduct.calm (c : Conduct τ Q R G) (flag : Option Flag) : (c.behaviour flag).Calm flag where
  stays h := h
  allows {_ e} he := by cases e <;> trivial
  quiet {_ e _ _} he h := by
    cases e with
    | cancelled f => exact h.2
    | reserve b margin => cases he
    | ask q => cases he
    | update b budget => cases he
    | _ => exact h
  unstopped hf h := h.1 hf
  granted h := h.1

/-- What a record tells of attempts: how many the latest request took, and how many the task took. -/
structure Numbers where
  latest : Option Nat
  total : Option Nat

def Session.numbers (s : Session τ) : Numbers := ⟨s.attempts.map Attempts.count, s.task.map Task.attempts⟩

namespace Work

/-- Work that begins with these numbers comes to its end, and `post` holds there. -/
def Attains (B : Behaviour τ Q R G) (w : Work τ Q R α) (n : Numbers) (g : G)
    (post : Except (Fault τ) α → Numbers → G → Prop) : Prop :=
  ∀ s, s.numbers = n → (w.start s).Always B (fun e g' => post e.1 e.2.numbers g') g

/-- What a first part must come to, if a second one goes on from its value. -/
def Onward (B : Behaviour τ Q R G) (k : α → Work τ Q R β) (post : Except (Fault τ) β → Numbers → G → Prop) :
    Except (Fault τ) α → Numbers → G → Prop
  | .ok a, n, g => Attains B (k a) n g post
  | .error fault, n, g => post (.error fault) n g

variable {B : Behaviour τ Q R G} {n : Numbers} {g g' : G} {w : Work τ Q R α} {k : α → Work τ Q R β}

theorem ofExcept_bind (x : Except (Fault τ) α) (y : α → Except (Fault τ) β) :
    (ofExcept (x >>= y) : Work τ Q R β) = ofExcept x >>= fun a => ofExcept (y a) := by
  cases x <;> rfl

namespace Attains

section

variable {post post' : Except (Fault τ) α → Numbers → G → Prop}

theorem mono (h : Attains B w n g post) (hpost : ∀ r n' g', post r n' g' → post' r n' g') :
    Attains B w n g post' :=
  fun s hs => (h s hs).mono fun _ _ => hpost _ _ _

theorem pure {a : α} (h : post (.ok a) n g) : Attains B (pure a) n g post := by
  rintro s rfl
  exact h

theorem throw {fault : Fault τ} (h : post (.error fault) n g) : Attains B (throw fault) n g post := by
  rintro s rfl
  exact h

theorem ofExcept {x : Except (Fault τ) α} (h : post x n g) : Attains B (ofExcept x) n g post := by
  rintro s rfl
  rw [start_ofExcept]
  exact h

theorem ite {p : Prop} [Decidable p] {w' : Work τ Q R α} (hpos : p → Attains B w n g post)
    (hneg : ¬ p → Attains B w' n g post) : Attains B (if p then w else w') n g post := by
  by_cases h : p
  · simpa [h] using hpos h
  · simpa [h] using hneg h

end

section

variable {post : Except (Fault τ) β → Numbers → G → Prop}

theorem bind (h : Attains B w n g (Onward B k post)) : Attains B (w >>= k) n g post := by
  intro s hs
  rw [start_bind, Program.always_bind]
  refine (h s hs).mono ?_
  rintro ⟨r, s'⟩ g' hr
  cases r with
  | ok a => exact hr s' rfl
  | error fault => exact hr

/-- A first part is known by what it comes to. -/
theorem andThen {mid : Except (Fault τ) α → Numbers → G → Prop} (h : Attains B w n g mid)
    (hfault : ∀ fault n' g', mid (.error fault) n' g' → post (.error fault) n' g')
    (hk : ∀ a n' g', mid (.ok a) n' g' → Attains B (k a) n' g' post) : Attains B (w >>= k) n g post := by
  refine .bind (h.mono fun x n' g' hx => ?_)
  cases x with
  | error fault => exact hfault fault n' g' hx
  | ok a => exact hk a n' g' hx

theorem result {post : Except (Fault τ) (Except (Fault τ) α) → Numbers → G → Prop}
    (h : Attains B w n g fun r => post (.ok r)) : Attains B w.result n g post := by
  intro s hs
  rw [start_result, Program.always_bind]
  exact h s hs

theorem result_bind {k : Except (Fault τ) α → Work τ Q R β}
    (h : Attains B w n g fun r n' g' => Attains B (k r) n' g' post) : Attains B (w.result >>= k) n g post :=
  bind (result h)

theorem pure_bind {a : α} (h : Attains B (k a) n g post) : Attains B (Pure.pure a >>= k) n g post := bind (pure h)

theorem ofExcept_bind {x : Except (Fault τ) α} {a : α} (hx : x = .ok a) (h : Attains B (k a) n g post) :
    Attains B (MonadExcept.ofExcept x >>= k) n g post := by
  subst hx
  exact pure_bind h

/-- A first part that is known to come to a value. -/
theorem ok_bind {a : α} {P : G → Prop} (h : Attains B w n g fun x _ g' => x = .ok a ∧ P g')
    (hk : ∀ n' g', P g' → Attains B (k a) n' g' post) : Attains B (w >>= k) n g post := by
  refine h.andThen ?_ ?_
  · rintro fault n' g' ⟨hx, _⟩
    cases hx
  · rintro _ n' g' ⟨⟨⟩, hg'⟩
    exact hk n' g' hg'

theorem attemptCount_bind {k : Nat → Work τ Q R β} (h : Attains B (k (n.latest.getD 0)) n g post) :
    Attains B (attemptCount >>= k) n g post := by
  rintro s rfl
  exact h s rfl

theorem session_bind {k : Session τ → Work τ Q R β} (h : ∀ s, s.numbers = n → Attains B (k s) n g post) :
    Attains B (session >>= k) n g post :=
  fun s hs => h s hs s hs

theorem modify_bind {f : Session τ → Session τ} {k : PUnit → Work τ Q R β} (n' : Numbers)
    (hf : ∀ s, s.numbers = n → (f s).numbers = n') (h : Attains B (k ⟨⟩) n' g post) :
    Attains B (modify f >>= k) n g post :=
  fun s hs => h (f s) (hf s hs)

end

end Attains

/-! ## Steps of any work -/

namespace Attains

section

variable (hstays : ∀ {g g'}, B.drifts g g' → g' = g)

include hstays

theorem step {e : Effect τ Q} {post : Except (Fault τ) (e.Answer R) → Numbers → G → Prop} (hallows : B.allows g e)
    (h : ∀ a g', B.answers g e a g' → post (.ok a) n g') : Attains B (act e) n g post := by
  rintro s rfl g₁ hg₁
  cases hstays hg₁
  exact ⟨hallows, fun a g₂ ha => h a g₂ ha⟩

variable {post : Except (Fault τ) Unit → Numbers → G → Prop}

theorem setAttempts {a : Attempts τ} (hallows : B.allows g (.note (.attempts a)))
    (h : ∀ g', B.answers g (.note (.attempts a)) () g' → post (.ok ()) ⟨some a.count, n.total⟩ g') :
    Attains B (setAttempts a) n g post := by
  refine .modify_bind ⟨some a.count, n.total⟩ ?_ (.step hstays hallows fun _ => h)
  rintro s rfl
  rfl

/-- A change of the record of attempts is noted if there is a record. -/
theorem updateAttempts {f : Attempts τ → Attempts τ} (count : Nat → Nat) (hf : ∀ a, (f a).count = count a.count)
    (hnone : n.latest = none → post (.ok ()) n g)
    (hsome : ∀ a c, n.latest = some c → a.count = count c → B.allows g (.note (.attempts a)) ∧
      ∀ g', B.answers g (.note (.attempts a)) () g' → post (.ok ()) ⟨some (count c), n.total⟩ g') :
    Attains B (updateAttempts f) n g post := by
  refine .session_bind ?_
  rintro ⟨attempts, task⟩ rfl
  cases attempts with
  | none => exact .pure (hnone rfl)
  | some a =>
      obtain ⟨hallows, h⟩ := hsome (f a) a.count rfl (hf a)
      refine .setAttempts hstays hallows fun g' hg' => ?_
      rw [hf a]
      exact h g' hg'

theorem updateTask {f : Task τ → Task τ} (count : Nat → Nat) (hf : ∀ t, (f t).attempts = count t.attempts)
    (hnone : n.total = none → post (.ok ()) n g)
    (hsome : ∀ t c, n.total = some c → B.allows g (.note (.task t)) ∧
      ∀ g', B.answers g (.note (.task t)) () g' → post (.ok ()) ⟨n.latest, some (count c)⟩ g') :
    Attains B (updateTask f) n g post := by
  refine .session_bind ?_
  rintro ⟨attempts, task⟩ rfl
  cases task with
  | none => exact .pure (hnone rfl)
  | some t =>
      obtain ⟨hallows, h⟩ := hsome (f t) t.attempts rfl
      refine .modify_bind ⟨attempts.map Attempts.count, some (count t.attempts)⟩ ?_ (.step hstays hallows fun _ => h)
      rintro s hs
      simp only [Session.numbers, Numbers.mk.injEq, Option.map_some, hf] at hs ⊢
      exact ⟨hs.1, trivial⟩

end

end Attains

/-! ## Steps of undisturbed work -/

section

variable {flag : Option Flag} (hB : B.Calm flag)

include hB

theorem attains_step {e : Effect τ Q} {post : Except (Fault τ) (e.Answer R) → Numbers → G → Prop}
    (hallows : B.allows g e) (h : ∀ a g', B.answers g e a g' → post (.ok a) n g') :
    Attains B (act e) n g post :=
  .step hB.stays hallows h

/-- A quiet step, whatever is learned from it. -/
theorem attains_act {e : Effect τ Q} {post : Except (Fault τ) (e.Answer R) → Numbers → G → Prop}
    (he : e.isQuiet = true) (h : ∀ a, post (.ok a) n g) : Attains B (act e) n g post := by
  refine attains_step hB (hB.allows he) fun a g' ha => ?_
  cases hB.quiet he ha
  exact h a

theorem attains_setAttempts {a : Attempts τ} {post : Except (Fault τ) Unit → Numbers → G → Prop}
    (h : post (.ok ()) ⟨some a.count, n.total⟩ g) : Attains B (setAttempts a) n g post := by
  refine .setAttempts hB.stays (hB.allows rfl) fun g' ha => ?_
  cases hB.quiet rfl ha
  exact h

theorem attains_updateAttempts {f : Attempts τ → Attempts τ} (count : Nat → Nat)
    {post : Except (Fault τ) Unit → Numbers → G → Prop} (hf : ∀ a, (f a).count = count a.count)
    (h : post (.ok ()) ⟨n.latest.map count, n.total⟩ g) : Attains B (updateAttempts f) n g post := by
  obtain ⟨latest, total⟩ := n
  refine .updateAttempts hB.stays count hf ?_ ?_
  · rintro rfl
    exact h
  · rintro a c rfl -
    refine ⟨hB.allows rfl, fun g' ha => ?_⟩
    cases hB.quiet rfl ha
    exact h

theorem attains_updateTask {f : Task τ → Task τ} (count : Nat → Nat)
    {post : Except (Fault τ) Unit → Numbers → G → Prop} (hf : ∀ t, (f t).attempts = count t.attempts)
    (h : post (.ok ()) ⟨n.latest, n.total.map count⟩ g) : Attains B (updateTask f) n g post := by
  obtain ⟨latest, total⟩ := n
  refine .updateTask hB.stays count hf ?_ ?_
  · rintro rfl
    exact h
  · rintro t c rfl
    refine ⟨hB.allows rfl, fun g' ha => ?_⟩
    cases hB.quiet rfl ha
    exact h

end

/-! ## Work that changes nothing -/

/-- Work that goes through, whatever its value, and leaves the numbers and the state as they are. -/
def Passes (B : Behaviour τ Q R G) (w : Work τ Q R α) : Prop :=
  ∀ n g, Attains B w n g fun r n' g' => (∃ a, r = .ok a) ∧ n' = n ∧ g' = g

namespace Passes

theorem attains {post : Except (Fault τ) α → Numbers → G → Prop} (h : Passes B w) (hpost : ∀ a, post (.ok a) n g) :
    Attains B w n g post := by
  refine (h n g).mono ?_
  rintro r n' g' ⟨⟨a, rfl⟩, rfl, rfl⟩
  exact hpost a

theorem attains_bind {post : Except (Fault τ) β → Numbers → G → Prop} (h : Passes B w)
    (hk : ∀ a, Attains B (k a) n g post) : Attains B (w >>= k) n g post :=
  .bind (h.attains hk)

theorem of_attains (h : ∀ n g post, (∀ a, post (.ok a) n g) → Attains B w n g post) : Passes B w :=
  fun n g => h n g _ fun a => ⟨⟨a, rfl⟩, rfl, rfl⟩

theorem pure (a : α) : Passes B (pure a : Work τ Q R α) := .of_attains fun _ _ _ h => .pure (h a)

theorem bind (h : Passes B w) (hk : ∀ a, Passes B (k a)) : Passes B (w >>= k) :=
  fun n g => h.attains_bind fun a => hk a n g

theorem ite {p : Prop} [Decidable p] {w' : Work τ Q R α} (hpos : p → Passes B w) (hneg : ¬ p → Passes B w') :
    Passes B (if p then w else w') :=
  fun n g => .ite (fun h => hpos h n g) fun h => hneg h n g

variable {flag : Option Flag} (hB : B.Calm flag)

include hB

theorem act {e : Effect τ Q} (he : e.isQuiet = true) : Passes B (Work.act e : Work τ Q R (e.Answer R)) :=
  .of_attains fun _ _ _ h => attains_act hB he h

theorem log (level : Level) (text : String) : Passes B (log level text : Work τ Q R Unit) := act hB rfl

theorem clock : Passes B (clock : Work τ Q R τ) := act hB rfl

theorem jitter : Passes B (jitter : Work τ Q R τ) := act hB rfl

theorem openBucket (b : Bucket) : Passes B (openBucket b : Work τ Q R Unit) := act hB rfl

theorem updateAttempts {f : Attempts τ → Attempts τ} (hf : ∀ a, (f a).count = a.count) :
    Passes B (updateAttempts f : Work τ Q R Unit) :=
  .of_attains fun n g post h => attains_updateAttempts hB id hf (by simpa using h ())

theorem updateTask {f : Task τ → Task τ} (hf : ∀ t, (f t).attempts = t.attempts) :
    Passes B (updateTask f : Work τ Q R Unit) :=
  .of_attains fun n g post h => attains_updateTask hB id hf (by simpa using h ())

theorem setStage (stage : Stage) : Passes B (setStage stage : Work τ Q R Unit) := updateTask hB fun _ => rfl

end Passes

/-! ## Flags, waits and permits -/

section

variable {flag : Option Flag} (hB : B.Calm flag)

include hB

theorem attains_isStopped {post : Except (Fault τ) Bool → Numbers → G → Prop} (h : post (.ok false) n g) :
    Attains B (isStopped flag) n g post := by
  cases flag with
  | none => exact .pure h
  | some f =>
      refine attains_step hB (hB.allows rfl) fun a g' ha => ?_
      cases hB.quiet rfl ha
      cases hB.unstopped rfl ha
      exact h

theorem Passes.check : Passes B (check flag : Work τ Q R Unit) :=
  fun n g => .bind (attains_isStopped hB (Passes.pure () n g))

variable [Seconds τ]

theorem Passes.sleepWatching (wait : τ) : Passes B (sleepWatching flag wait : Work τ Q R Unit) := by
  cases flag with
  | none => exact act hB rfl
  | some f =>
      refine .ite (fun _ => ?_) fun _ => .check hB
      exact (Passes.act hB rfl).bind fun _ => .check hB

/-- A permit that may be asked for is had at once. -/
theorem attains_acquire {bucket : Bucket} {margin : Option Int} {patience : Nat} {mostWait : τ}
    {post : Except (Fault τ) Permit → Numbers → G → Prop} (hpatience : 1 ≤ patience)
    (hallows : B.allows g (.reserve bucket margin))
    (h : ∀ permit g', B.answers g (.reserve bucket margin) (.ok permit) g' → post (.ok permit) n g') :
    Attains B (acquire bucket flag margin patience mostWait) n g post := by
  obtain ⟨left, rfl⟩ := Nat.exists_eq_add_of_le' hpatience
  refine .bind (attains_step hB hallows fun a g' ha => ?_)
  obtain ⟨permit, rfl⟩ := hB.granted ha
  exact .pure (h permit g' ha)

end

/-! ## Work that leaves one value

Faults may differ from one run to the next, for a wait or a time that they tell. What counts is which value is
left, and that none is missing because nothing has changed. -/

/-- An end with this value, or with none; then not because nothing has changed. -/
def Leaves (o : Option α) : Except (Fault τ) α → Prop
  | .ok a => o = some a
  | .error fault => o = none ∧ fault ≠ .unchanged

theorem Leaves.of_error {fault : Fault τ} (h : fault ≠ .unchanged) : Leaves (none : Option α) (.error fault) :=
  ⟨rfl, h⟩

theorem Leaves.map {o : Option α} {x : Except (Fault τ) α} (h : Leaves o x) (f : α → β) :
    Leaves (o.map f) (x.map f) := by
  cases x with
  | ok a => cases h; rfl
  | error fault => exact ⟨by rw [h.1]; rfl, h.2⟩

theorem Leaves.bind {o : Option α} {x : Except (Fault τ) α} (h : Leaves o x) {k : α → Except (Fault τ) β}
    {o' : α → Option β} (hk : ∀ a, o = some a → Leaves (o' a) (k a)) : Leaves (o.bind o') (x.bind k) := by
  cases x with
  | ok a => cases h; exact hk a rfl
  | error fault => exact ⟨by rw [h.1]; rfl, h.2⟩

/-- Work that always ends with this value, or always with none. -/
def Yields (B : Behaviour τ Q R G) (w : Work τ Q R α) (o : Option α) : Prop :=
  ∀ n g, Attains B w n g fun r _ _ => Leaves o r

end Work

end RepoCensus
