import RepoCensus.Budget.Acquire
import RepoCensus.Proofs.Work.Accounts
import RepoCensus.Proofs.Work.Deeds

/-!
# Which budget is blamed

Work that ends because a budget is exceeded names the budget. A permit that is denied is blamed on its own bucket, and a
wait that is too long on the usual one. What counts is whether the latest permit was denied.
-/

namespace RepoCensus

open RepoCensus.Calendar

variable {τ Q R α β : Type}

def Fault.isOverBudget : Fault τ → Bool
  | overBudget .. => true
  | _ => false

/-- No budget is said to be exceeded. -/
def Blameless : Except (Fault τ) α → Prop
  | .ok _ => True
  | .error fault => fault.isOverBudget = false

theorem Sound.blameless {x : Except (Fault τ) α} (h : Sound x) : Blameless x := by
  cases x with
  | ok a => trivial
  | error fault => cases fault <;> first | rfl | cases h

namespace Deed

/-- Whether the latest permit is denied after a deed, if it was or was not before. -/
def denies (denied : Bool) : Deed τ Q R → Bool
  | ⟨.reserve _ _, .ok _⟩ => false
  | ⟨.reserve _ _, .error _⟩ => true
  | _ => denied

/-- The last of the permits that were asked for was denied. -/
def endsDenied (ds : List (Deed τ Q R)) : Bool := ds.foldl denies false

/-- A refusal names the bucket of the permit, and the service does not speak of budgets. -/
def Fair : Deed τ Q R → Prop
  | ⟨.reserve b _, a⟩ => ∀ refusal : Refusal τ, a = .error refusal → refusal.resource = b.resource
  | ⟨.ask _, a⟩ => Blameless a
  | _ => True

end Deed

/-- Any fair answers may come. What is watched is whether the latest permit was denied. -/
def Behaviour.blaming (τ Q R : Type) : Behaviour τ Q R Bool where
  stalls := True
  drifts denied denied' := denied' = denied
  allows _ _ := True
  answers denied e a denied' := Deed.Fair ⟨e, a⟩ ∧ denied' = Deed.denies denied ⟨e, a⟩

theorem Behaviour.pauses_blaming : (Behaviour.blaming τ Q R).Pauses where
  stays h := h
  allows _ := trivial
  still {_ e _ _} he h := by cases e <;> first | exact h.2 | cases he

/-- What always holds at the end of a program holds when it has played. -/
theorem Program.Always.ended {post : α → Bool → Prop} {p : Program τ Q R α} {denied : Bool} {ds : List (Deed τ Q R)}
    {a : α} (h : p.Always (.blaming τ Q R) post denied) (hp : p.Plays ds (.done a)) (hfair : ∀ d ∈ ds, d.Fair) :
    post a (ds.foldl Deed.denies denied) := by
  generalize hend : (Program.done a : Program τ Q R α) = p' at hp
  induction hp generalizing denied with
  | refl p =>
      subst hend
      exact h
  | act _ ih =>
      obtain ⟨hd, hds⟩ := List.forall_mem_cons.mp hfair
      exact ih ((h denied rfl).2 _ _ ⟨hd, rfl⟩) hds hend

/-! ## Blame -/

namespace Work

/-- Who says that a budget is exceeded names the bucket if the latest permit was denied, and the usual one if not. -/
def Blames (b : Bucket) : Except (Fault τ) α → Bool → Prop
  | .error (.overBudget _ _ resource), denied => resource = if denied then b.resource else coreResource
  | _, _ => True

/-- A single attempt says that a budget is exceeded only if the permit was denied, and it meets with a passing trouble
only if it was not. -/
def Owns (b : Bucket) : Except (Fault τ) α → Bool → Prop
  | .error (.overBudget _ _ resource), denied => denied = true ∧ resource = b.resource
  | .error fault, denied => fault.isTransient = true → denied = false
  | .ok _, denied => denied = false

end Work

open Work in
theorem Blameless.blames {b : Bucket} {denied : Bool} {x : Except (Fault τ) α} (h : Blameless x) :
    Blames b x denied := by
  cases x with
  | ok a => trivial
  | error fault => cases fault <;> trivial

open Work in
theorem Blameless.owns {b : Bucket} {x : Except (Fault τ) α} (h : Blameless x) : Owns b x false := by
  cases x with
  | ok a => rfl
  | error fault => cases fault <;> first | exact fun _ => rfl | cases h

namespace Work

variable {b : Bucket} {n : Numbers} {denied : Bool} {w : Work τ Q R α} {k : α → Work τ Q R β}

/-- Blame does not depend on what the work would have given. -/
theorem Blames.error {fault : Fault τ} (h : Blames b (.error fault : Except (Fault τ) α) denied) :
    Blames b (.error fault : Except (Fault τ) β) denied := by
  cases fault with
  | overBudget => exact h
  | _ => trivial

theorem Owns.blames {fault : Fault τ} (h : Owns b (.error fault : Except (Fault τ) α) denied) :
    Blames b (.error fault : Except (Fault τ) β) denied := by
  cases fault with
  | overBudget reset remaining resource =>
      obtain ⟨rfl, rfl⟩ := h
      rfl
  | _ => trivial

theorem Owns.error {fault : Fault τ} (h : Owns b (.error fault : Except (Fault τ) α) denied) :
    Owns b (.error fault : Except (Fault τ) β) denied := by
  cases fault <;> exact h

theorem Owns.of_isTransient {fault : Fault τ} (h : Owns b (.error fault : Except (Fault τ) α) denied)
    (htransient : fault.isTransient = true) : denied = false := by
  cases fault with
  | overBudget => cases htransient
  | _ => exact h htransient

theorem attains_fair {e : Effect τ Q} {post : Except (Fault τ) (e.Answer R) → Numbers → Bool → Prop}
    (h : ∀ a, Deed.Fair ⟨e, a⟩ → post (.ok a) n (Deed.denies denied ⟨e, a⟩)) :
    Attains (.blaming τ Q R) (act e) n denied post := by
  refine .step id trivial ?_
  rintro a _ ⟨hfair, rfl⟩
  exact h a hfair

theorem attains_fair_bind {e : Effect τ Q} {k : e.Answer R → Work τ Q R β}
    {post : Except (Fault τ) β → Numbers → Bool → Prop}
    (h : ∀ a, Deed.Fair ⟨e, a⟩ → Attains (.blaming τ Q R) (k a) n (Deed.denies denied ⟨e, a⟩) post) :
    Attains (.blaming τ Q R) (act e >>= k) n denied post :=
  .bind (attains_fair h)

/-! ## Work that blames nobody -/

/-- Work that asks for no permit, and does not say that a budget is exceeded. -/
def Mute (w : Work τ Q R α) : Prop :=
  ∀ n denied, Attains (.blaming τ Q R) w n denied fun x _ denied' => Blameless x ∧ denied' = denied

namespace Mute

theorem attains {post : Except (Fault τ) α → Numbers → Bool → Prop} (h : Mute w)
    (hpost : ∀ x n', Blameless x → post x n' denied) : Attains (.blaming τ Q R) w n denied post := by
  refine (h n denied).mono ?_
  rintro x n' _ ⟨hx, rfl⟩
  exact hpost x n' hx

theorem attains_bind {post : Except (Fault τ) β → Numbers → Bool → Prop} (h : Mute w)
    (hfault : ∀ fault n', fault.isOverBudget = false → post (.error fault) n' denied)
    (hk : ∀ a n', Attains (.blaming τ Q R) (k a) n' denied post) :
    Attains (.blaming τ Q R) (w >>= k) n denied post := by
  refine (h n denied).andThen ?_ ?_
  · rintro fault n' _ ⟨hx, rfl⟩
    exact hfault fault n' hx
  · rintro a n' _ ⟨-, rfl⟩
    exact hk a n'

theorem pure (a : α) : Mute (pure a : Work τ Q R α) := fun _ _ => .pure ⟨trivial, rfl⟩

theorem throw {fault : Fault τ} (h : fault.isOverBudget = false) : Mute (throw fault : Work τ Q R α) :=
  fun _ _ => .throw ⟨h, rfl⟩

theorem ofExcept {x : Except (Fault τ) α} (h : Blameless x) : Mute (ofExcept x : Work τ Q R α) :=
  fun _ _ => .ofExcept ⟨h, rfl⟩

theorem bind (h : Mute w) (hk : ∀ a, Mute (k a)) : Mute (w >>= k) :=
  fun _ denied => h.attains_bind (fun _ _ hfault => ⟨hfault, rfl⟩) fun a n' => hk a n' denied

theorem ofExcept_bind {x : Except (Fault τ) α} (h : Blameless x) (hk : ∀ a, x = .ok a → Mute (k a)) :
    Mute (MonadExcept.ofExcept x >>= k) := by
  cases x with
  | ok a => exact hk a rfl
  | error fault => exact throw h

theorem ite {p : Prop} [Decidable p] {w' : Work τ Q R α} (hpos : p → Mute w) (hneg : ¬ p → Mute w') :
    Mute (if p then w else w') :=
  fun n denied => .ite (fun h => hpos h n denied) fun h => hneg h n denied

/-! ## Single steps -/

theorem act {e : Effect τ Q} (h : ∀ denied (a : e.Answer R), Deed.denies denied ⟨e, a⟩ = denied) :
    Mute (act e : Work τ Q R (e.Answer R)) :=
  fun _ denied => attains_fair fun a _ => ⟨trivial, h denied a⟩

theorem clock : Mute (clock : Work τ Q R τ) := act fun _ _ => rfl

theorem jitter : Mute (jitter : Work τ Q R τ) := act fun _ _ => rfl

theorem sleep (s : τ) : Mute (sleep s : Work τ Q R Unit) := act fun _ _ => rfl

theorem openBucket (b : Bucket) : Mute (openBucket b : Work τ Q R Unit) := act fun _ _ => rfl

theorem update (b : Bucket) (budget : Budget τ) : Mute (update b budget : Work τ Q R (Except Anomaly Unit)) :=
  act fun _ _ => rfl

theorem log (level : Level) (text : String) : Mute (log level text : Work τ Q R Unit) := act fun _ _ => rfl

theorem ask (q : Q) : Mute (ask q : Work τ Q R R) := by
  refine fun _ _ => attains_fair_bind fun a ha => .ofExcept ?_
  exact ⟨ha, rfl⟩

theorem isStopped : (flag : Option Flag) → Mute (isStopped flag : Work τ Q R Bool)
  | none => pure false
  | some _ => act fun _ _ => rfl

end Mute

/-! ## Work that may be stopped -/

theorem Stops.blameless {x : Except (Fault τ) Unit} (h : Stops x) : Blameless x := by
  rcases h with rfl | rfl
  · trivial
  · rfl

namespace Mute

theorem check (flag : Option Flag) : Mute (check flag : Work τ Q R Unit) :=
  fun _ _ => (attains_check_stops Behaviour.pauses_blaming flag).mono fun _ _ _ h => ⟨h.1.blameless, h.2.2⟩

theorem sleepWatching [Seconds τ] (flag : Option Flag) (s : τ) : Mute (sleepWatching flag s : Work τ Q R Unit) :=
  fun _ _ => (attains_sleepWatching_stops Behaviour.pauses_blaming flag s).mono fun _ _ _ h =>
    ⟨h.1.blameless, h.2.2⟩

/-! ## The record -/

theorem setAttempts (a : Attempts τ) : Mute (setAttempts a : Work τ Q R Unit) := by
  refine fun _ _ => .setAttempts id trivial ?_
  rintro _ ⟨-, rfl⟩
  exact ⟨trivial, rfl⟩

theorem session_bind {k : Session τ → Work τ Q R β} (h : ∀ s, Mute (k s)) : Mute (session >>= k) :=
  fun n denied => .session_bind fun s _ => h s n denied

theorem updateAttempts (f : Attempts τ → Attempts τ) : Mute (updateAttempts f : Work τ Q R Unit) := by
  refine session_bind fun s => ?_
  cases s.attempts with
  | some a => exact setAttempts _
  | none => exact pure ()

theorem updateTask {f : Task τ → Task τ} (count : Nat → Nat) (hf : ∀ t, (f t).attempts = count t.attempts) :
    Mute (updateTask f : Work τ Q R Unit) := by
  refine fun _ _ => .updateTask id count hf (fun _ => ⟨trivial, rfl⟩) fun _ _ _ => ⟨trivial, ?_⟩
  rintro _ ⟨-, rfl⟩
  exact ⟨trivial, rfl⟩

theorem setStage (stage : Stage) : Mute (setStage stage : Work τ Q R Unit) := updateTask id fun _ => rfl

end Mute

/-! ## Permits -/

/-- Whoever is denied a permit blames its bucket. -/
theorem attains_acquire_owns [Seconds τ] (flag : Option Flag) (margin : Option Int) (patience : Nat) (mostWait : τ) :
    Attains (.blaming τ Q R) (acquire b flag margin patience mostWait : Work τ Q R Permit) n denied fun x _ denied' =>
      Owns b x denied' := by
  induction patience generalizing mostWait n denied with
  | zero => exact fun _ _ => trivial
  | succ patience ih =>
      refine attains_fair_bind (e := .reserve b margin) fun a hfair => ?_
      cases a with
      | ok permit => exact .pure rfl
      | error refusal =>
          have hresource : refusal.resource = b.resource := hfair refusal rfl
          refine attains_fair_bind (e := .clock) fun now _ => ?_
          apply Attains.ite
          · exact fun _ => .throw ⟨rfl, hresource⟩
          · intro _
            refine attains_fair_bind (e := .note _) fun _ _ => ?_
            refine .bind ((attains_sleepWatching_stops Behaviour.pauses_blaming flag _).mono ?_)
            rintro _ _ _ ⟨rfl | rfl, rfl, rfl⟩
            · exact ih _
            · exact nofun

end Work

/-! ## Requests -/

namespace Transport

open Work

theorem not_isOverBudget_faultOf (r : Request) {fault : Fault τ} (h : fault.isOverBudget = false) :
    (faultOf r fault).isOverBudget = false := by
  unfold faultOf
  split
  · rfl
  · rfl
  · exact h

theorem mute_send (t : Transport) (r : Request) : Mute (t.send r : Work τ Request Reply Response) := by
  cases t with
  | direct => exact (Mute.ask r).bind fun _ => .pure _
  | wire client =>
      refine (Mute.log _ _).bind fun _ _ s => attains_fair_bind fun a ha => ?_
      cases a with
      | ok reply => exact Mute.pure _ _ _
      | error fault => exact Mute.throw (not_isOverBudget_faultOf r ha) _ _

end Transport

end RepoCensus
