import RepoCensus.Budget.Acquire
import RepoCensus.Http.Transport
import RepoCensus.Proofs.Work.Calm
import RepoCensus.Proofs.Work.Does
import RepoCensus.Proofs.World.Journal

/-!
# Accounts

How many requests were sent, how many permits were taken, and how the attempts stand. Every attempt at a request
takes a permit and sends the request; only an attempt to which the permit is denied does neither.
-/

namespace RepoCensus

open RepoCensus.Calendar

variable {τ Q R G α β : Type}

/-! ## What the journal tells of attempts -/

/-- The attempts at a request: how many were begun, and whether there is no permit for the latest one. -/
structure Tries where
  begun : Nat
  unpaid : Bool

namespace Tries

def start : Tries := ⟨0, false⟩

/-- An attempt is begun when the record tells of more attempts than before. -/
def after (x : Tries) : Event τ Q → Tries
  | .granted _ => ⟨x.begun, false⟩
  | .noted (.attempts a) => ⟨a.count, x.unpaid || decide (x.begun < a.count)⟩
  | _ => x

end Tries

/-- The latest attempt has come to its end without a permit. -/
def Journal.lacksPermit (events : List (Event τ Q)) : Bool := (events.foldl Tries.after .start).unpaid

/-! ## Accounts of events -/

structure Accounts where
  sends : Nat
  permits : Nat
  tries : Tries

namespace Accounts

variable {g g' g'' : Accounts} {b : Bucket} {m n : Nat} {denied : Prop}

def of (events : List (Event τ Request)) : Accounts :=
  ⟨(Journal.requests events).length, (Journal.permits events).length, events.foldl Tries.after .start⟩

def enter (g : Accounts) (e : Event τ Request) : Accounts :=
  ⟨g.sends + (Journal.requests [e]).length, g.permits + (Journal.permits [e]).length, g.tries.after e⟩

theorem of_append (events : List (Event τ Request)) (e : Event τ Request) :
    of (events ++ [e]) = (of events).enter e := by
  simp only [of, enter, List.foldl_append, List.foldl_cons, List.foldl_nil, Journal.requests, Journal.permits,
    List.filterMap_append, List.length_append]

/-- The accounts after a permit. -/
def pay (g : Accounts) : Accounts := ⟨g.sends, g.permits + 1, ⟨g.tries.begun, false⟩⟩

/-- The accounts after a request. -/
def send (g : Accounts) : Accounts := ⟨g.sends + 1, g.permits, g.tries⟩

/-- The accounts after the record of attempts has been changed. -/
def count (g : Accounts) (n : Nat) : Accounts := ⟨g.sends, g.permits, ⟨n, g.tries.unpaid || decide (g.tries.begun < n)⟩⟩

@[simp] theorem enter_granted : g.enter (.granted b : Event τ Request) = g.pay := rfl

@[simp] theorem enter_slept {s : τ} : g.enter (.slept s) = g := rfl

@[simp] theorem enter_attempts {a : Attempts τ} : g.enter (.noted (.attempts a)) = g.count a.count := rfl

@[simp] theorem enter_task {x : Task τ} : g.enter (.noted (.task x)) = g := rfl

theorem count_begun (h : n = g.tries.begun) : g.count n = g := by
  subst h
  obtain ⟨_, _, _, unpaid⟩ := g
  cases unpaid <;> simp [count]

@[simp] theorem enter_log {level : Level} {text : String} :
    g.enter (.noted (.log level text) : Event τ Request) = g := rfl

/-! ## Steps -/

/-- The accounts after a step. -/
def after (g : Accounts) : (e : Effect τ Request) → e.Answer Reply → Accounts
  | .ask q, _ => g.enter (.asked q : Event τ Request)
  | .reserve b _, a => (b.granted a).foldl (fun g _ => g.pay) g
  | .note n, _ => g.enter (.noted n)
  | _, _ => g

/-- The accounts after some deeds. -/
def afterAll (g : Accounts) (ds : List (Deed τ Request Reply)) : Accounts :=
  ds.foldl (fun g d => g.after d.effect d.answer) g

/-- The steps of work that keeps to one bucket move the accounts; it may stall. -/
def behaviour (b : Bucket) : Behaviour τ Request Reply Accounts where
  stalls := True
  drifts g g' := g' = g
  allows _
    | .openBucket b' | .reserve b' _ | .update b' _ => b' = b
    | _ => True
  answers g e a g' := g' = g.after e a

/-! ## Growth -/

/-- The accounts have grown by so many attempts: each of them took a permit and sent a request, unless the latest one
was denied a permit. -/
def Grows (g : Accounts) (n : Nat) (denied : Prop) (g' : Accounts) : Prop :=
  ∃ sent, g'.sends = g.sends + sent ∧ g'.permits = g.permits + sent ∧ n = sent + g'.tries.unpaid.toNat ∧
    (g'.tries.unpaid = true → denied)

theorem Grows.refl (h : g.tries.unpaid = false) : g.Grows 0 denied g := by
  refine ⟨0, rfl, rfl, ?_, fun hunpaid => ?_⟩
  · rw [h]
    rfl
  · rw [h] at hunpaid
    cases hunpaid

/-- An attempt to which a permit is denied. -/
theorem Grows.unpaid (hbegun : g.tries.begun < n) (hdenied : denied) : g.Grows 1 denied (g.count n) := by
  refine ⟨0, rfl, rfl, ?_, fun _ => hdenied⟩
  simp [count, hbegun]

/-- An attempt that takes a permit and sends a request. -/
theorem Grows.sent : g.Grows 1 denied (g.count n).pay.send := ⟨1, rfl, rfl, rfl, nofun⟩

theorem Grows.paid (h : g.Grows n denied g') (hdenied : ¬ denied) : g'.tries.unpaid = false := by
  obtain ⟨_, _, _, _, hunpaid⟩ := h
  exact eq_false_of_ne_true fun h => hdenied (hunpaid h)

theorem Grows.mono {denied' : Prop} (h : g.Grows n denied g') (himp : denied → denied') : g.Grows n denied' g' := by
  obtain ⟨sent, hsends, hpermits, hn, hunpaid⟩ := h
  exact ⟨sent, hsends, hpermits, hn, fun h => himp (hunpaid h)⟩

theorem Grows.trans {denied' : Prop} (h : g.Grows m denied g') (hdenied : ¬ denied) (h' : g'.Grows n denied' g'') :
    g.Grows (m + n) denied' g'' := by
  have hpaid := h.paid hdenied
  obtain ⟨sent, hsends, hpermits, hm, _⟩ := h
  obtain ⟨sent', hsends', hpermits', hn, hunpaid⟩ := h'
  rw [hpaid] at hm
  refine ⟨sent + sent', ?_, ?_, ?_, hunpaid⟩
  · omega
  · omega
  · simp only [Bool.toNat_false] at hm
    omega

end Accounts

/-- The number of attempts that the task tells has grown as the accounts have. -/
def Accounts.Tallies (n : Numbers) (g : Accounts) (denied : Prop) (n' : Numbers) (g' : Accounts) : Prop :=
  ∃ k, g.Grows k denied g' ∧ n'.total = n.total.map (· + k)

namespace Accounts.Tallies

variable {n n' n'' : Numbers} {g g' g'' : Accounts} {denied denied' : Prop}

theorem refl (h : g.tries.unpaid = false) : Tallies n g denied n g := ⟨0, .refl h, by simp⟩

theorem paid (h : Tallies n g denied n' g') (hdenied : ¬ denied) : g'.tries.unpaid = false := by
  obtain ⟨k, hgrows, _⟩ := h
  exact hgrows.paid hdenied

theorem mono (h : Tallies n g denied n' g') (himp : denied → denied') : Tallies n g denied' n' g' := by
  obtain ⟨k, hgrows, htotal⟩ := h
  exact ⟨k, hgrows.mono himp, htotal⟩

theorem trans (h : Tallies n g denied n' g') (hdenied : ¬ denied) (h' : Tallies n' g' denied' n'' g'') :
    Tallies n g denied' n'' g'' := by
  obtain ⟨k, hgrows, htotal⟩ := h
  obtain ⟨k', hgrows', htotal'⟩ := h'
  refine ⟨k + k', hgrows.trans hdenied hgrows', ?_⟩
  rw [htotal', htotal, Option.map_map]
  congr 1
  funext attempts
  exact Nat.add_assoc attempts k k'

end Accounts.Tallies

/-! ## Denials -/

/-- A permit was denied: the budget is used up, or the wait for it was cancelled. -/
def Fault.isDenial : Fault τ → Bool
  | .overBudget .. | .cancelled .. => true
  | _ => false

theorem Fault.not_isDenial_of_isTransient {fault : Fault τ} (h : fault.isTransient = true) : fault.isDenial = false := by
  cases fault <;> first | rfl | cases h

/-- Work that ended because a permit was denied to it. -/
def Denied : Except (Fault τ) α → Prop
  | .ok _ => False
  | .error fault => fault.isDenial = true

/-- One attempt: it takes a permit and sends a request, or a permit is denied to it. -/
def Accounts.Attempted (g : Accounts) (x : Except (Fault τ) α) (g' : Accounts) : Prop :=
  g' = g.pay.send ∨ Denied x ∧ g' = g

/-! ## Work that may be stopped -/

/-- Steps that look at a flag or wait. -/
def Effect.isPause : Effect τ Q → Bool
  | .cancelled _ | .sleep _ | .wait _ _ => true
  | _ => false

/-- Nothing moves while work looks at a flag or waits. -/
structure Behaviour.Pauses (B : Behaviour τ Q R G) : Prop where
  stays : ∀ {g g'}, B.drifts g g' → g' = g
  allows : ∀ {g e}, e.isPause = true → B.allows g e
  still : ∀ {g e a g'}, e.isPause = true → B.answers g e a g' → g' = g

namespace Work

/-- Work that comes to its end, or is stopped by a flag. -/
def Stops (x : Except (Fault τ) Unit) : Prop := x = .ok () ∨ x = .error .stopped

section

variable {B : Behaviour τ Q R G} {n : Numbers} {g : G} (hB : B.Pauses)

include hB

theorem attains_pause_bind {e : Effect τ Q} {k : e.Answer R → Work τ Q R β}
    {post : Except (Fault τ) β → Numbers → G → Prop} (he : e.isPause = true) (h : ∀ a, Attains B (k a) n g post) :
    Attains B (act e >>= k) n g post := by
  refine .bind (.step hB.stays (hB.allows he) fun a g' ha => ?_)
  cases hB.still he ha
  exact h a

theorem attains_check_stops (flag : Option Flag) :
    Attains B (check flag : Work τ Q R Unit) n g fun x n' g' => Stops x ∧ n' = n ∧ g' = g := by
  have hend : ∀ stopped : Bool, Attains B (if stopped then throw .stopped else pure () : Work τ Q R Unit) n g
      fun x n' g' => Stops x ∧ n' = n ∧ g' = g := by
    intro stopped
    apply Attains.ite
    · intro _
      exact .throw ⟨.inr rfl, rfl, rfl⟩
    · intro _
      exact .pure ⟨.inl rfl, rfl, rfl⟩
  cases flag with
  | none => exact .pure_bind (hend false)
  | some f => exact attains_pause_bind hB (e := .cancelled f) rfl hend

theorem attains_sleepWatching_stops [Seconds τ] (flag : Option Flag) (s : τ) :
    Attains B (sleepWatching flag s : Work τ Q R Unit) n g fun x n' g' => Stops x ∧ n' = n ∧ g' = g := by
  cases flag with
  | none => exact attains_pause_bind hB (e := .sleep s) rfl fun _ => .pure ⟨.inl rfl, rfl, rfl⟩
  | some f =>
      apply Attains.ite
      · intro _
        exact attains_pause_bind hB (e := .wait f s) rfl fun _ => attains_check_stops hB (some f)
      · intro _
        exact attains_check_stops hB (some f)

end

end Work

theorem Accounts.pauses (b : Bucket) : (Accounts.behaviour (τ := τ) b).Pauses where
  stays h := h
  allows {_ e} he := by cases e <;> trivial
  still {_ e _ _} he h := by cases e <;> first | exact h | cases he

/-! ## Work that leaves the accounts alone -/

namespace Work

variable {b : Bucket} {n : Numbers} {g : Accounts} {w : Work τ Request Reply α}
  {k : α → Work τ Request Reply β}

theorem attains_booked {e : Effect τ Request} {post : Except (Fault τ) (e.Answer Reply) → Numbers → Accounts → Prop}
    (hallows : (Accounts.behaviour b).allows g e) (h : ∀ a, post (.ok a) n (g.after e a)) :
    Attains (Accounts.behaviour b) (act e) n g post := by
  refine .step id hallows ?_
  rintro a _ rfl
  exact h a

theorem attains_booked_bind {e : Effect τ Request} {k : e.Answer Reply → Work τ Request Reply β}
    {post : Except (Fault τ) β → Numbers → Accounts → Prop} (hallows : (Accounts.behaviour b).allows g e)
    (h : ∀ a, Attains (Accounts.behaviour b) (k a) n (g.after e a) post) :
    Attains (Accounts.behaviour b) (act e >>= k) n g post :=
  .bind (attains_booked hallows h)

/-- A step that makes no difference to the accounts. -/
theorem attains_still_bind {e : Effect τ Request} {k : e.Answer Reply → Work τ Request Reply β}
    {post : Except (Fault τ) β → Numbers → Accounts → Prop} (hallows : (Accounts.behaviour b).allows g e)
    (hstill : ∀ a, g.after e a = g) (h : ∀ a, Attains (Accounts.behaviour b) (k a) n g post) :
    Attains (Accounts.behaviour b) (act e >>= k) n g post := by
  refine attains_booked_bind hallows fun a => ?_
  rw [hstill a]
  exact h a

/-- The number of attempts that the task tells is changed. -/
theorem attains_updateTask_booked {f : Task τ → Task τ} {post : Except (Fault τ) Unit → Numbers → Accounts → Prop}
    (count : Nat → Nat) (hf : ∀ x, (f x).attempts = count x.attempts)
    (h : post (.ok ()) ⟨n.latest, n.total.map count⟩ g) :
    Attains (Accounts.behaviour b) (updateTask f : Work τ Request Reply Unit) n g post := by
  obtain ⟨latest, total⟩ := n
  refine .updateTask id count hf ?_ ?_
  · rintro rfl
    exact h
  · rintro x c rfl
    refine ⟨trivial, ?_⟩
    rintro _ rfl
    have hkept : g.enter (.noted (.task x) : Event τ Request) = g := Accounts.enter_task
    refine Eq.mpr ?_ h
    exact congrArg (post _ _ ·) hkept

theorem attains_updateTask_bind {f : Task τ → Task τ} {k : Unit → Work τ Request Reply β}
    {post : Except (Fault τ) β → Numbers → Accounts → Prop} (count : Nat → Nat)
    (hf : ∀ x, (f x).attempts = count x.attempts)
    (h : Attains (Accounts.behaviour b) (k ()) ⟨n.latest, n.total.map count⟩ g post) :
    Attains (Accounts.behaviour b) (updateTask f >>= k) n g post :=
  .bind (attains_updateTask_booked count hf h)

/-- Work that adds nothing to the accounts and the numbers, however it ends. -/
def Abstains (b : Bucket) (w : Work τ Request Reply α) : Prop :=
  ∀ n g, Attains (Accounts.behaviour b) w n g fun _ n' g' => n' = n ∧ g' = g

namespace Abstains

theorem attains {post : Except (Fault τ) α → Numbers → Accounts → Prop} (h : Abstains b w)
    (hpost : ∀ x, post x n g) : Attains (Accounts.behaviour b) w n g post := by
  refine (h n g).mono ?_
  rintro x _ _ ⟨rfl, rfl⟩
  exact hpost x

theorem attains_bind {post : Except (Fault τ) β → Numbers → Accounts → Prop} (h : Abstains b w)
    (hfault : ∀ fault, post (.error fault) n g) (hk : ∀ a, Attains (Accounts.behaviour b) (k a) n g post) :
    Attains (Accounts.behaviour b) (w >>= k) n g post := by
  refine .bind (h.attains fun x => ?_)
  cases x with
  | error fault => exact hfault fault
  | ok a => exact hk a

theorem pure (a : α) : Abstains b (pure a : Work τ Request Reply α) := fun _ _ => .pure ⟨rfl, rfl⟩

theorem throw (fault : Fault τ) : Abstains b (throw fault : Work τ Request Reply α) := fun _ _ => .throw ⟨rfl, rfl⟩

theorem ofExcept (x : Except (Fault τ) α) : Abstains b (ofExcept x : Work τ Request Reply α) :=
  fun _ _ => .ofExcept ⟨rfl, rfl⟩

theorem bind (h : Abstains b w) (hk : ∀ a, Abstains b (k a)) : Abstains b (w >>= k) :=
  fun n g => h.attains_bind (fun _ => ⟨rfl, rfl⟩) fun a => hk a n g

theorem ite {p : Prop} [Decidable p] {w' : Work τ Request Reply α} (hpos : p → Abstains b w)
    (hneg : ¬ p → Abstains b w') : Abstains b (if p then w else w') :=
  fun n g => .ite (fun h => hpos h n g) fun h => hneg h n g

/-- A step that makes no difference to the accounts. -/
theorem act {e : Effect τ Request} (hallows : ∀ g, (Accounts.behaviour b).allows g e)
    (h : ∀ (g : Accounts) (a : e.Answer Reply), g.after e a = g) : Abstains b (act e : Work τ Request Reply (e.Answer Reply)) :=
  fun _ g => attains_booked (hallows g) fun a => ⟨rfl, h g a⟩

theorem clock : Abstains b (clock : Work τ Request Reply τ) := act (fun _ => trivial) fun _ _ => rfl

theorem jitter : Abstains b (jitter : Work τ Request Reply τ) := act (fun _ => trivial) fun _ _ => rfl

theorem sleep (s : τ) : Abstains b (sleep s : Work τ Request Reply Unit) := act (fun _ => trivial) fun _ _ => rfl

theorem openBucket : Abstains b (openBucket b : Work τ Request Reply Unit) := act (fun _ => rfl) fun _ _ => rfl

theorem update (budget : Budget τ) : Abstains b (update b budget : Work τ Request Reply (Except Anomaly Unit)) :=
  act (fun _ => rfl) fun _ _ => rfl

theorem log (level : Level) (text : String) : Abstains b (log level text : Work τ Request Reply Unit) :=
  act (fun _ => trivial) fun _ _ => rfl

theorem isStopped : (flag : Option Flag) → Abstains b (isStopped flag : Work τ Request Reply Bool)
  | none => pure false
  | some _ => act (fun _ => trivial) fun _ _ => rfl

theorem updateTask {f : Task τ → Task τ} (hf : ∀ x, (f x).attempts = x.attempts) :
    Abstains b (updateTask f : Work τ Request Reply Unit) :=
  fun _ _ => attains_updateTask_booked id hf ⟨by simp, rfl⟩

theorem setStage (stage : Stage) : Abstains b (setStage stage : Work τ Request Reply Unit) := updateTask fun _ => rfl

end Abstains

theorem Abstains.check (flag : Option Flag) : Abstains b (check flag : Work τ Request Reply Unit) :=
  fun _ _ => (attains_check_stops (Accounts.pauses b) flag).mono fun _ _ _ h => h.2

theorem Abstains.sleepWatching [Seconds τ] (flag : Option Flag) (s : τ) :
    Abstains b (sleepWatching flag s : Work τ Request Reply Unit) :=
  fun _ _ => (attains_sleepWatching_stops (Accounts.pauses b) flag s).mono fun _ _ _ h => h.2

/-! ## Deeds -/

theorem Attains.of_does {post : Except (Fault τ) α → Numbers → Accounts → Prop} {s s' : Session τ}
    {ds : List (Deed τ Request Reply)} {x : Except (Fault τ) α}
    (h : Attains (Accounts.behaviour b) w s.numbers g post) (hdoes : w.Does s ds x s') :
    post x s'.numbers (g.afterAll ds) := by
  have hend := Program.Always.of_plays (fun g d => g.after d.effect d.answer) (fun _ => rfl) (fun _ _ _ => rfl)
    (h s rfl) hdoes
  exact hend

/-! ## The record of attempts -/

section

variable {k : Unit → Work τ Request Reply β} {post : Except (Fault τ) β → Numbers → Accounts → Prop}

/-- A new record tells of no attempt. -/
theorem attains_startAttempts_bind
    (h : Attains (Accounts.behaviour b) (k ()) ⟨some 0, n.total⟩ (g.count 0) post) :
    Attains (Accounts.behaviour b) (setAttempts .start >>= k) n g post := by
  refine .bind (.setAttempts id trivial ?_)
  rintro _ rfl
  have hcount : g.enter (.noted (.attempts .start) : Event τ Request) = g.count 0 := Accounts.enter_attempts
  refine Eq.mpr ?_ h
  exact congrArg (Attains _ (k ()) _ · post) hcount

/-- An attempt is begun. -/
theorem attains_beginAttempt_bind {f : Attempts τ → Attempts τ} {c : Nat} (hf : ∀ a, (f a).count = c)
    (hlatest : n.latest = some g.tries.begun)
    (h : Attains (Accounts.behaviour b) (k ()) ⟨some c, n.total⟩ (g.count c) post) :
    Attains (Accounts.behaviour b) (updateAttempts f >>= k) n g post := by
  refine .bind (.updateAttempts id (fun _ => c) hf (fun hnone => ?_) fun a _ _ ha => ⟨trivial, ?_⟩)
  · rw [hlatest] at hnone
    cases hnone
  · rintro _ rfl
    have hcount : g.enter (.noted (.attempts a) : Event τ Request) = g.count c := by
      rw [Accounts.enter_attempts, ha]
    refine Eq.mpr ?_ h
    exact congrArg (Attains _ (k ()) _ · post) hcount

/-- The record is changed, but not the number of attempts. -/
theorem attains_keepAttempts_bind {f : Attempts τ → Attempts τ} (hf : ∀ a, (f a).count = a.count)
    (hlatest : n.latest = some g.tries.begun) (h : Attains (Accounts.behaviour b) (k ()) n g post) :
    Attains (Accounts.behaviour b) (updateAttempts f >>= k) n g post := by
  obtain ⟨latest, total⟩ := n
  cases hlatest
  refine .bind (.updateAttempts id id hf nofun ?_)
  rintro a _ ⟨⟩ ha
  refine ⟨trivial, ?_⟩
  rintro _ rfl
  have hcount : g.enter (.noted (.attempts a) : Event τ Request) = g :=
    Accounts.enter_attempts.trans (Accounts.count_begun ha)
  refine Eq.mpr ?_ h
  exact congrArg (Attains _ (k ()) _ · post) hcount

end

/-! ## Permits -/

variable [Seconds τ]

/-- Whoever asks for a permit is granted one, or it is denied. -/
theorem attains_acquire_booked (flag : Option Flag) (margin : Option Int) (patience : Nat) (mostWait : τ) :
    Attains (Accounts.behaviour b) (acquire b flag margin patience mostWait : Work τ Request Reply Permit) n g
      fun x n' g' => n' = n ∧ ((∃ permit, x = .ok permit) ∧ g' = g.pay ∨ Denied x ∧ g' = g) := by
  induction patience generalizing mostWait n g with
  | zero => exact fun _ _ => trivial
  | succ patience ih =>
      refine attains_booked_bind (e := .reserve b margin) rfl fun a => ?_
      cases a with
      | ok permit => exact .pure ⟨rfl, .inl ⟨⟨permit, rfl⟩, rfl⟩⟩
      | error refusal =>
          refine attains_still_bind (e := .clock) trivial (fun _ => rfl) fun now => ?_
          apply Attains.ite
          · intro _
            exact .throw ⟨rfl, .inr ⟨rfl, rfl⟩⟩
          · intro _
            refine attains_still_bind (e := .note _) trivial (fun _ => rfl) fun _ => ?_
            refine .bind ((attains_sleepWatching_stops (Accounts.pauses b) flag _).mono ?_)
            rintro _ _ _ ⟨rfl | rfl, rfl, rfl⟩
            · exact ih _
            · exact ⟨rfl, .inr ⟨rfl, rfl⟩⟩

end Work

/-! ## Requests -/

namespace Transport

open Work

variable {b : Bucket} {n : Numbers} {g : Accounts}

/-- Sending a request counts as one request, also when no answer is had. -/
theorem attains_send_booked (t : Transport) (q : Request) :
    Attains (Accounts.behaviour b) (t.send q : Work τ Request Reply Response) n g fun _ n' g' =>
      n' = n ∧ g' = g.send := by
  cases t with
  | direct =>
      simp only [send, ask, bind_assoc]
      refine attains_booked_bind (e := .ask q) trivial fun _ => ?_
      exact ((Abstains.ofExcept _).bind fun _ => .pure _) n g.send
  | wire client =>
      refine attains_still_bind (e := .note _) trivial (fun _ => rfl) fun _ => ?_
      refine attains_booked_bind (e := .ask { q with client := some client }) trivial fun answer => ?_
      cases answer with
      | ok reply => exact .pure ⟨rfl, rfl⟩
      | error fault => exact .throw ⟨rfl, rfl⟩

end Transport

end RepoCensus
