import RepoCensus.Budget.Acquire
import RepoCensus.Proofs.Work.Always
import RepoCensus.Proofs.Work.Deeds

/-!
# Work that heeds a flag

Work that heeds a flag looks at it before it makes a request, and again after it has made one or has waited. What counts
is whether a request may be made before the flag is looked at again: it may if the flag was just found not to be raised,
and it may not after a request or a wait.
-/

namespace RepoCensus

open RepoCensus.Calendar

variable {τ Q R α β : Type}

namespace Deed

variable (flag : Flag)

/-- Whether a request may be made after a deed, if `n` tells whether one might be made before it: not after a request or
a wait, and always once the flag was looked at and not found raised. -/
def left (n : Bool) : Deed τ Q R → Bool
  | ⟨.ask _, _⟩ | ⟨.sleep _, _⟩ | ⟨.wait _ _, _⟩ => false
  | ⟨.cancelled f, a⟩ => if f = flag then bif a then n else true else n
  | _ => n

/-- Whether a request may be made after some deeds. To begin with it may not. -/
def respite (ds : List (Deed τ Q R)) : Bool := ds.foldl (left flag) false

/-- A request or a wait. -/
def isBusy : Deed τ Q R → Bool
  | ⟨.ask _, _⟩ | ⟨.sleep _, _⟩ | ⟨.wait _ _, _⟩ => true
  | _ => false

/-- There is a request only where there may be one, and none after a request or a wait. -/
def Restrained : Bool → List (Deed τ Q R) → Prop
  | _, [] => True
  | n, ⟨.ask _, _⟩ :: ds => n = true ∧ Restrained false ds
  | _, ⟨.sleep _, _⟩ :: ds | _, ⟨.wait _ _, _⟩ :: ds => Restrained false ds
  | n, _ :: ds => Restrained n ds

variable {flag} {n : Bool} {ds : List (Deed τ Q R)}

/-- There may be no request after a request or a wait. -/
theorem respite_of_isBusy (h : ds.getLast?.any isBusy = true) : respite flag ds = false := by
  rcases ds.eq_nil_or_concat with rfl | ⟨ds, d, rfl⟩
  · rfl
  · rw [List.concat_eq_append, List.getLast?_concat] at h
    rw [List.concat_eq_append, respite, List.foldl_append]
    obtain ⟨e, a⟩ := d
    cases e with
    | ask q => rfl
    | sleep s => rfl
    | wait f s => rfl
    | _ => cases h

theorem Restrained.requests_eq_nil (h : Restrained false ds) : requests ds = [] := by
  induction ds with
  | nil => rfl
  | cons d ds ih =>
      obtain ⟨e, a⟩ := d
      cases e with
      | ask q => cases h.1
      | _ => exact ih h

theorem Restrained.length_requests_le_one (h : Restrained n ds) : (requests ds).length ≤ 1 := by
  induction ds generalizing n with
  | nil => exact Nat.zero_le 1
  | cons d ds ih =>
      obtain ⟨e, a⟩ := d
      cases e with
      | ask q =>
          show (q :: requests ds).length ≤ 1
          rw [h.2.requests_eq_nil]
          exact Nat.le_refl 1
      | sleep s => exact ih h
      | wait f s => exact ih h
      | _ => exact ih h

end Deed

/-- A word that work passes on only if it has heard it: that nothing has changed, or that a category has failed. -/
def Fault.IsWord : Fault τ → Prop
  | .unchanged | .failed .. => True
  | _ => False

/-- What is watched: a flag, which answers may be heard, and which words may be passed on. -/
structure Watch (τ Q R : Type) where
  flag : Flag
  Heard : Q → Except (Fault τ) R → Prop
  Told : Fault τ → Prop
  told_of_heard : ∀ {q fault}, Heard q (.error fault) → Told fault

namespace Watch

def left (v : Watch τ Q R) (n : Bool) (d : Deed τ Q R) : Bool := d.left v.flag n

/-- Any answers may come that may be heard, but a request is only to be made where it may be made. -/
def behaviour (v : Watch τ Q R) : Behaviour τ Q R Bool where
  stalls := True
  drifts n n' := n' = n
  allows n e := e.asked ≠ [] → n = true
  answers n e a n' := Deed.Hears v.Heard ⟨e, a⟩ ∧ n' = v.left n ⟨e, a⟩

end Watch

namespace Program.Always

variable {v : Watch τ Q R} {post : α → Bool → Prop} {p p' : Program τ Q R α} {n : Bool} {ds : List (Deed τ Q R)}

/-- What always holds at the end of a program goes on to hold while it plays. -/
theorem plays (h : p.Always v.behaviour post n) (hp : p.Plays ds p') (hheard : ∀ d ∈ ds, d.Hears v.Heard) :
    p'.Always v.behaviour post (ds.foldl v.left n) := by
  induction hp generalizing n with
  | refl p => exact h
  | act _ ih =>
      obtain ⟨hd, hds⟩ := List.forall_mem_cons.mp hheard
      exact ih ((h n rfl).2 _ _ ⟨hd, rfl⟩) hds

/-- Once the flag is raised a request is made only where it may be made. -/
theorem restrained (h : p.Always v.behaviour post n) (hp : p.Plays ds p') (hheard : ∀ d ∈ ds, d.Hears v.Heard)
    (hraised : ∀ d ∈ ds, d.FindsRaised v.flag) : Deed.Restrained n ds := by
  induction hp generalizing n with
  | refl p => trivial
  | @act e _ a ds _ _ ih =>
      obtain ⟨hd, hds⟩ := List.forall_mem_cons.mp hheard
      obtain ⟨hfinds, hraised⟩ := List.forall_mem_cons.mp hraised
      obtain ⟨hallowed, hnext⟩ := h n rfl
      have hrest := ih (hnext a _ ⟨hd, rfl⟩) hds hraised
      cases e with
      | ask q => exact ⟨hallowed (List.cons_ne_nil q []), hrest⟩
      | cancelled f =>
          -- the flag is found raised, which allows no more than there was
          have hleft : v.left n ⟨.cancelled f, a⟩ = n := by
            show (if _ then bif a then _ else _ else _) = _
            split
            · rw [hfinds ‹_›]
              rfl
            · rfl
          exact hleft ▸ hrest
      | _ => exact hrest

end Program.Always

/-! ## Pieces of work -/

namespace Work

/-- A result that satisfies `post`, or a fault, which is a word only if that was told. -/
def Tells (Told : Fault τ → Prop) (post : α → Prop) : Except (Fault τ) α → Prop
  | .ok a => post a
  | .error fault => fault.IsWord → Told fault

namespace Tells

variable {Told : Fault τ → Prop}

theorem mono {post post' : α → Prop} {x : Except (Fault τ) α} (h : Tells Told post x)
    (hpost : ∀ a, post a → post' a) : Tells Told post' x := by
  cases x with
  | ok a => exact hpost a h
  | error fault => exact h

theorem lift (x : Except Anomaly α) : Tells Told (fun _ => True) (Fault.lift x : Except (Fault τ) α) := by
  cases x with
  | ok a => trivial
  | error why => exact nofun

end Tells

/-- Work that makes a request only where it may make one. If `n` it may make one when it begins, and if `n'` it may make
one when it ends with a value. -/
def Heeds (v : Watch τ Q R) (n n' : Bool) (post : α → Prop) (w : Work τ Q R α) : Prop :=
  ∀ s k, n ≤ k → (w.start s).Always v.behaviour (fun e k' => Tells v.Told (fun a => n' ≤ k' ∧ post a) e.1) k

namespace Heeds

variable {v : Watch τ Q R} {n m k : Bool} {post : α → Prop} {post' : β → Prop} {w : Work τ Q R α} {flag : Option Flag}

theorem pure {a : α} (h : post a) : Heeds v n n post (pure a) := fun _ _ hn => ⟨hn, h⟩

theorem throw {fault : Fault τ} (h : fault.IsWord → v.Told fault) : Heeds v n m post (throw fault) :=
  fun _ _ _ => h

theorem ofExcept {x : Except (Fault τ) α} (h : Tells v.Told post x) : Heeds v n n post (ofExcept x) := by
  intro s k hn
  rw [start_ofExcept]
  cases x with
  | ok a => exact ⟨hn, h⟩
  | error fault => exact h

theorem mono {post' : α → Prop} (h : Heeds v n m post w) {n' m' : Bool} (hn : n ≤ n') (hm : m' ≤ m)
    (hpost : ∀ a, post a → post' a) : Heeds v n' m' post' w := fun s k hk =>
  (h s k (Bool.le_trans hn hk)).mono fun _ _ hr => hr.mono fun _ h => ⟨Bool.le_trans hm h.1, hpost _ h.2⟩

/-- Work after which no request need be made. -/
theorem weaken (h : Heeds v n m post w) : Heeds v n false post w :=
  h.mono (Bool.le_refl n) (Bool.false_le m) fun _ h => h

/-- Work that may make a request if it likes. -/
theorem strengthen (h : Heeds v false m post w) : Heeds v n m post w :=
  h.mono (Bool.false_le n) (Bool.le_refl m) fun _ h => h

theorem bind {f : α → Work τ Q R β} (h : Heeds v n m post w) (hf : ∀ a, post a → Heeds v m k post' (f a)) :
    Heeds v n k post' (w >>= f) := by
  intro s l hl
  rw [start_bind, Program.always_bind]
  refine (h s l hl).mono ?_
  rintro ⟨r, s'⟩ l' hr
  cases r with
  | ok a => exact hf a hr.2 s' l' hr.1
  | error fault => exact hr

/-- When a fault is looked at no request need be made. -/
theorem result (h : Heeds v n m post w) : Heeds v n false (Tells v.Told post) w.result := by
  intro s l hl
  rw [start_result, Program.always_bind]
  refine (h s l hl).mono ?_
  rintro ⟨r, s'⟩ l' hr
  refine ⟨Bool.false_le _, ?_⟩
  cases r with
  | ok a => exact hr.2
  | error fault => exact hr

theorem ite {p : Prop} [Decidable p] {w' : Work τ Q R α} (hpos : p → Heeds v n m post w)
    (hneg : ¬ p → Heeds v n m post w') : Heeds v n m post (if p then w else w') := by
  split
  · exact hpos ‹_›
  · exact hneg ‹_›

/-! ## Single steps -/

theorem act {e : Effect τ Q} {post : e.Answer R → Prop} (hasked : e.asked = [])
    (h : ∀ k a, n ≤ k → m ≤ v.left k ⟨e, a⟩ ∧ post a) : Heeds v n m post (Work.act e) := by
  intro s l hl l' hl'
  cases hl'
  refine ⟨fun hne => absurd hasked hne, ?_⟩
  rintro a _ ⟨_, rfl⟩
  exact h l a hl

/-- A request is made only where it may be made, and then there may be no other. -/
theorem answer (q : Q) : Heeds v true false (v.Heard q) (answer q : Work τ Q R (Except (Fault τ) R)) := by
  intro s l hl l' hl'
  cases hl'
  refine ⟨fun _ => Bool.eq_true_of_true_le hl, ?_⟩
  rintro a _ ⟨ha, rfl⟩
  exact ⟨Bool.false_le _, ha⟩

theorem ask (q : Q) : Heeds v true false (fun r => v.Heard q (.ok r)) (ask q : Work τ Q R R) := by
  refine (answer q).bind fun a ha => ?_
  cases a with
  | ok r => exact pure ha
  | error fault => exact throw fun _ => v.told_of_heard ha

theorem clock : Heeds v n n (fun _ => True) (clock : Work τ Q R τ) := act rfl fun _ _ hk => ⟨hk, trivial⟩

theorem jitter : Heeds v n n (fun _ => True) (jitter : Work τ Q R τ) := act rfl fun _ _ hk => ⟨hk, trivial⟩

theorem note (t : Note τ) : Heeds v n n (fun _ => True) (note t : Work τ Q R Unit) :=
  act rfl fun _ _ hk => ⟨hk, trivial⟩

theorem log (level : Level) (text : String) : Heeds v n n (fun _ => True) (log level text : Work τ Q R Unit) := note _

theorem openBucket (b : Bucket) : Heeds v n n (fun _ => True) (openBucket b : Work τ Q R Unit) :=
  act rfl fun _ _ hk => ⟨hk, trivial⟩

theorem reserve (b : Bucket) (margin : Option Int) :
    Heeds v n n (fun _ => True) (reserve b margin : Work τ Q R (Except (Refusal τ) Permit)) :=
  act rfl fun _ _ hk => ⟨hk, trivial⟩

theorem update (b : Bucket) (budget : Budget τ) :
    Heeds v n n (fun _ => True) (update b budget : Work τ Q R (Except Anomaly Unit)) :=
  act rfl fun _ _ hk => ⟨hk, trivial⟩

theorem sleep (s : τ) : Heeds v n false (fun _ => True) (sleep s : Work τ Q R Unit) :=
  act rfl fun _ _ _ => ⟨Bool.false_le _, trivial⟩

theorem wait (f : Flag) (s : τ) : Heeds v n false (fun _ => True) (wait f s : Work τ Q R Unit) :=
  act rfl fun _ _ _ => ⟨Bool.false_le _, trivial⟩

/-! ## Flags and waits -/

section

variable (hflag : flag = some v.flag)

include hflag

/-- Where the flag was found not to be raised a request may be made. -/
theorem isStopped_bind {k : Bool → Work τ Q R α} (hstop : Heeds v n m post (k true))
    (hgo : Heeds v true m post (k false)) : Heeds v n m post (isStopped flag >>= k) := by
  subst hflag
  intro s l hl
  rw [start_bind]
  rintro l rfl
  refine ⟨fun hne => absurd rfl hne, ?_⟩
  rintro (a : Bool) _ ⟨-, rfl⟩
  have hleft : v.left l ⟨.cancelled v.flag, a⟩ = bif a then l else true := if_pos rfl
  cases a with
  | true => exact hstop s _ (hleft ▸ hl)
  | false => exact hgo s _ (hleft ▸ Bool.le_refl true)

theorem check : Heeds v n true (fun _ => True) (check flag : Work τ Q R Unit) :=
  isStopped_bind hflag (throw nofun) (pure trivial)

variable [Seconds τ]

theorem sleepWatching (s : τ) : Heeds v n true (fun _ => True) (sleepWatching flag s : Work τ Q R Unit) := by
  have hcheck : ∀ n, Heeds v n true (fun _ => True) (Work.check flag : Work τ Q R Unit) := fun _ => check hflag
  subst hflag
  exact .ite (fun _ => (wait _ s).bind fun _ _ => hcheck false) fun _ => hcheck n

/-- Whoever waits for a permit looks at the flag before the next request. -/
theorem acquire (bucket : Bucket) (margin : Option Int) (patience : Nat) (mostWait : τ) :
    Heeds v true true (fun _ => True) (acquire bucket flag margin patience mostWait : Work τ Q R Permit) := by
  induction patience generalizing mostWait with
  | zero => exact fun _ _ _ => trivial
  | succ patience ih =>
      refine (reserve bucket margin).bind fun a _ => ?_
      cases a with
      | ok permit => exact pure trivial
      | error refusal =>
          refine clock.bind fun now _ => ?_
          refine .ite (fun _ => throw nofun) fun _ => ?_
          exact (log _ _).bind fun _ _ => (sleepWatching hflag _).bind fun _ _ => ih _

end

/-! ## The record -/

theorem session : Heeds v n n (fun _ => True) (session : Work τ Q R (Session τ)) := fun _ _ hn => ⟨hn, trivial⟩

theorem attemptCount : Heeds v n n (fun _ => True) (attemptCount : Work τ Q R Nat) :=
  session.bind fun _ _ => pure trivial

theorem modify (f : Session τ → Session τ) : Heeds v n n (fun _ => True) (modify f : Work τ Q R PUnit) :=
  fun _ _ hn => ⟨hn, trivial⟩

theorem setAttempts (a : Attempts τ) : Heeds v n n (fun _ => True) (setAttempts a : Work τ Q R Unit) :=
  (modify fun s => { s with attempts := some a }).bind fun _ _ => note _

theorem updateAttempts (f : Attempts τ → Attempts τ) :
    Heeds v n n (fun _ => True) (updateAttempts f : Work τ Q R Unit) := by
  refine session.bind fun s _ => ?_
  cases s.attempts with
  | some a => exact setAttempts _
  | none => exact pure trivial

theorem updateTask (f : Task τ → Task τ) : Heeds v n n (fun _ => True) (updateTask f : Work τ Q R Unit) := by
  refine session.bind fun s _ => ?_
  cases s.task with
  | some t => exact (modify fun s => { s with task := some (f t) }).bind fun _ _ => note _
  | none => exact pure trivial

theorem setStage (stage : Stage) : Heeds v n n (fun _ => True) (setStage stage : Work τ Q R Unit) := updateTask _

end Heeds

end Work

end RepoCensus
