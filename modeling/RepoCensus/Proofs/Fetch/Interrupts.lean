import RepoCensus.Census.Basic
import RepoCensus.Proofs.Http.Verdict
import RepoCensus.Proofs.Retry.Undisturbed
import RepoCensus.Proofs.Work.Does

/-!
# Interruptions

Only an answer can bring an interruption. Work relays it: it ends with an interruption exactly if it heard one. What
work hands back as a value may tell of an interruption as well, so the lemmas have a view of values. Main statement: the
work on a category ends with an interruption exactly if one of its requests was answered by one.
-/

namespace RepoCensus

open RepoCensus.Calendar

variable {τ Q R α β : Type}

/-- Whether an end tells of an interruption, given which values do. -/
def interruptedBy (view : α → Bool) : Except (Fault τ) α → Bool
  | .ok a => view a
  | .error fault => !fault.isOrdinary

abbrev isInterrupted : Except (Fault τ) α → Bool := interruptedBy fun _ => false

namespace Deed

/-- Whether an answer is an interruption. -/
def interrupts : Deed τ Q R → Bool
  | ⟨.ask _, .error fault⟩ => !fault.isOrdinary
  | _ => false

def interrupted (ds : List (Deed τ Q R)) : Bool := ds.any interrupts

theorem interrupted_append (ds ds' : List (Deed τ Q R)) :
    interrupted (ds ++ ds') = (interrupted ds || interrupted ds') :=
  List.any_append

end Deed

namespace Effect

def isRequest : Effect τ Q → Bool
  | .ask _ => true
  | _ => false

end Effect

namespace Work

/-- Work that tells of an interruption at its end exactly if there was one before or while it was done. -/
def Relays (view : α → Bool) (before : Bool) (w : Work τ Q R α) : Prop :=
  ∀ s ds x s', w.Does s ds x s' → interruptedBy view x = (before || Deed.interrupted ds)

/-- Work that ends with an interruption exactly if it heard one. -/
abbrev Candid (w : Work τ Q R α) : Prop := Relays (fun _ => false) false w

namespace Relays

variable {view : α → Bool} {view' : β → Bool} {before : Bool} {w w' : Work τ Q R α} {k : α → Work τ Q R β}

theorem pure {a : α} (h : view a = before) : Relays view before (pure a : Work τ Q R α) := by
  intro s ds x s' hdoes
  obtain ⟨rfl, rfl, -⟩ := does_pure_iff.mp hdoes
  simp [interruptedBy, Deed.interrupted, h]

theorem throw {fault : Fault τ} (h : (!fault.isOrdinary) = before) :
    Relays view before (throw fault : Work τ Q R α) := by
  intro s ds x s' hdoes
  obtain ⟨rfl, rfl, -⟩ := does_throw_iff.mp hdoes
  simp [interruptedBy, Deed.interrupted, h]

theorem ofExcept {x : Except (Fault τ) α} (h : interruptedBy view x = before) :
    Relays view before (ofExcept x : Work τ Q R α) := by
  cases x with
  | ok a => exact pure h
  | error fault => exact throw h

theorem bind (h : Relays view before w) (hk : ∀ a, Relays view' (view a) (k a)) : Relays view' before (w >>= k) := by
  intro s ds y s' hdoes
  rcases hdoes.exists_of_bind with ⟨fault, hw, rfl⟩ | ⟨ds₁, a, t, ds₂, rfl, hw, hrest⟩
  · exact h _ _ _ _ hw
  · have hfirst : view a = _ := h _ _ _ _ hw
    have hsecond := hk a _ _ _ _ hrest
    rw [hsecond, hfirst, Deed.interrupted_append, Bool.or_assoc]

theorem result_bind {k : Except (Fault τ) α → Work τ Q R β} (h : Relays view before w)
    (hk : ∀ x, Relays view' (interruptedBy view x) (k x)) : Relays view' before (w.result >>= k) := by
  intro s ds y s' hdoes
  obtain ⟨ds₁, x, t, ds₂, rfl, hw, hrest⟩ := hdoes.exists_of_result_bind
  have hfirst := h _ _ _ _ hw
  have hsecond := hk x _ _ _ _ hrest
  rw [hsecond, hfirst, Deed.interrupted_append, Bool.or_assoc]

theorem ite {p : Prop} [Decidable p] (hpos : p → Relays view before w) (hneg : ¬ p → Relays view before w') :
    Relays view before (if p then w else w') := by
  by_cases h : p
  · simpa [h] using hpos h
  · simpa [h] using hneg h

theorem stall : Relays view before (stall : Work τ Q R α) := by
  intro s ds x s' h
  cases h

/-! ## Single steps -/

theorem act {e : Effect τ Q} (he : e.isRequest = false) :
    Relays (fun _ => before) before (act e : Work τ Q R (e.Answer R)) := by
  intro s ds x s' hdoes
  obtain ⟨a, rfl, rfl, -⟩ := hdoes.exists_of_act
  cases e with
  | ask q => cases he
  | _ => simp [interruptedBy, Deed.interrupted, Deed.interrupts]

theorem answer (q : Q) :
    Relays (interruptedBy fun _ => false) false (answer q : Work τ Q R (Except (Fault τ) R)) := by
  intro s ds x s' hdoes
  obtain ⟨a, rfl, rfl, -⟩ := hdoes.exists_of_act
  cases a <;> simp [interruptedBy, Deed.interrupted, Deed.interrupts]

theorem ask (q : Q) : Candid (ask q : Work τ Q R R) := (answer q).bind fun _ => .ofExcept rfl

theorem log (level : Level) (text : String) : Relays (fun _ => before) before (log level text : Work τ Q R Unit) :=
  act (e := .note (.log level text)) rfl

theorem clock : Relays (fun _ => before) before (clock : Work τ Q R τ) := act (e := .clock) rfl

theorem session_bind {k : Session τ → Work τ Q R β} (h : ∀ s, Relays view' before (k s)) :
    Relays view' before (session >>= k) :=
  fun s ds y s' hdoes => h s s ds y s' hdoes.session_bind

theorem setAttempts (a : Attempts τ) : Relays (fun _ => before) before (setAttempts a : Work τ Q R Unit) := by
  intro s ds x s' hdoes
  obtain ⟨rfl, rfl, -⟩ := hdoes.of_setAttempts
  simp [interruptedBy, Deed.interrupted, Deed.interrupts]

theorem updateAttempts (f : Attempts τ → Attempts τ) :
    Relays (fun _ => before) before (updateAttempts f : Work τ Q R Unit) := by
  intro s ds x s' hdoes
  obtain ⟨rfl, -, rfl⟩ := hdoes.of_updateAttempts
  cases s.attempts <;> simp [interruptedBy, Deed.interrupted, Deed.interrupts]

theorem updateTask (f : Task τ → Task τ) : Relays (fun _ => before) before (updateTask f : Work τ Q R Unit) := by
  intro s ds x s' hdoes
  obtain ⟨rfl, -, rfl⟩ := hdoes.of_updateTask
  cases s.task <;> simp [interruptedBy, Deed.interrupted, Deed.interrupts, Deed.tells]

theorem isStopped : (flag : Option Flag) → Relays (fun _ => before) before (isStopped flag : Work τ Q R Bool)
  | none => pure rfl
  | some f => act (e := .cancelled f) rfl

theorem check (flag : Option Flag) : Candid (check flag : Work τ Q R Unit) :=
  (isStopped flag).bind fun _ => ite (fun _ => throw rfl) fun _ => pure rfl

variable [Seconds τ]

theorem sleepWatching (flag : Option Flag) (t : τ) : Candid (sleepWatching flag t : Work τ Q R Unit) := by
  cases flag with
  | none => exact act (e := .sleep t) rfl
  | some f => exact ite (fun _ => bind (act (e := .wait f t) rfl) fun _ => check (some f)) fun _ => check (some f)

theorem acquire (b : Bucket) (flag : Option Flag) (margin : Option Int) (patience : Nat) (mostWait : τ) :
    Candid (acquire b flag margin patience mostWait : Work τ Q R Permit) := by
  induction patience generalizing mostWait with
  | zero => exact stall
  | succ patience ih =>
      refine bind (act (e := .reserve b margin) rfl) fun reserved => ?_
      cases reserved with
      | ok permit => exact pure rfl
      | error refusal =>
          refine clock.bind fun now => ite (fun _ => throw rfl) fun _ => ?_
          exact (log _ _).bind fun _ => (sleepWatching flag _).bind fun _ => ih _

end Relays

end Work

/-! ## Requests -/

namespace Transport

open Work

end Transport

/-! ## Faults of requests -/

open Work

variable [Seconds τ]

/-! ## Attempts -/

namespace Retry

variable {r : Retry τ} {flag : Option Flag} {onRetry : RetryListener τ Q R} {operation : Work τ Q R α}

section

variable (hlisten : ∀ n delay fault, Candid (onRetry n delay fault))

include hlisten

variable (hoperation : Candid operation)

include hoperation

end

end Retry

/-! ## Walks -/

namespace Walk

variable {limits : WalkLimits} {flag : Option Flag} {fetch : Option String → Work τ Q R (Page α)}

variable (hfetch : ∀ cursor, Candid (fetch cursor))

include hfetch

end Walk

/-! ## Fetches -/

namespace Fetcher

variable {f : Fetcher τ} {b : Bucket} {q : Request} {r : Repository} {category : Category}
  {previous : Option (Finding τ)}

end Fetcher

namespace Census

end Census

end RepoCensus
