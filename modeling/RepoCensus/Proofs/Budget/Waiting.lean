import RepoCensus.Budget.Acquire
import RepoCensus.Proofs.Work.Steps

/-!
# Waiting for a permit comes to an end

A permit that is refused is waited for until the window ends. Whoever is refused a second time must have been
told of another window meanwhile: the clock has come to the end of the first one, and a tracker keeps the end
of its window as long as no budget is passed on. So one wait more than there are budgets to come is enough.
-/

namespace RepoCensus

open RepoCensus.Calendar

variable {σ τ Q R α : Type} [Seconds τ] {c : Crew σ τ Q R}

namespace Work

variable [OrderedSeconds τ] {flag : Option Flag} {g : Standing σ τ Q} {s : Session τ} {goal : τ}

/-! ## Sleeping -/

theorem check_always (hsur : c.sur.Punctual flag)
    (h : flag.any (g.world.isRaised c.sur) = true ∨ goal ≤ c.sur.now g.world.outside) :
    ((check flag : Work τ Q R Unit).start s).Always c.behaviour
      (fun r g' => c.Later g g' ∧ Ends True (fun _ => goal ≤ c.sur.now g'.world.outside) r.1) g := by
  cases flag with
  | none =>
      simp only [check, isStopped, start_bind, start_pure, Program.done_bind]
      refine ⟨.refl g, ?_⟩
      rcases h with h | h
      · cases h
      · exact h
  | some f =>
      refine always_act_bind rfl fun g' hg hlater => ?_
      cases hf : (g'.world.perform c.sur (.cancelled f)).1 with
      | true => exact ⟨hlater, fun _ => rfl⟩
      | false =>
          refine ⟨hlater, ?_⟩
          rcases h with h | h
          · have hraised := hg.isRaised hsur h
            rw [show g'.world.isRaised c.sur f = false from hf] at hraised
            cases hraised
          · exact OrderedSeconds.le_trans h (hlater.now_le hsur)

theorem sleepWatching_always (goal : τ) {now : τ} (hsur : c.sur.Punctual flag) (hwait : Seconds.zero < goal - now)
    (hnow : now ≤ c.sur.now g.world.outside) :
    ((sleepWatching flag (goal - now) : Work τ Q R Unit).start s).Always c.behaviour
      (fun r g' => c.Later g g' ∧ Ends True (fun _ => goal ≤ c.sur.now g'.world.outside) r.1) g := by
  cases flag with
  | none =>
      refine Program.always_act rfl fun g' hg hlater => ?_
      refine ⟨hlater, ?_⟩
      rcases hsur.sleeps goal g'.world.outside (OrderedSeconds.le_trans hnow (hg.now_le hsur)) with h | ⟨h, _⟩
      · exact h
      · cases h
  | some f =>
      simp only [sleepWatching, pause, hwait, if_true]
      refine always_act_bind rfl fun g' hg hlater => ?_
      refine (check_always hsur ?_).mono fun r g'' hr => ⟨hlater.trans hr.1, hr.2⟩
      cases hf : g'.world.isRaised c.sur f with
      | true =>
          left
          simp only [Standing.after, World.perform, hf]
          exact hf
      | false =>
          simp only [Standing.after, World.perform, hf]
          rcases hsur.sleeps goal g'.world.outside (OrderedSeconds.le_trans hnow (hg.now_le hsur)) with h | ⟨h, hcancelled⟩
          · exact .inr h
          · left
            cases h
            exact hcancelled

end Work

/-! ## Permits -/

/-- The patience that is left suffices for a worker whose tracker says that the window ends at `reset`. -/
def Standing.Bears (g : Standing σ τ Q) (b : Bucket) (reset : τ) (patience : Nat) : Prop :=
  g.others + 2 ≤ patience ∨ g.others + 1 ≤ patience ∧ g.world.resetAt? b = some reset

theorem Standing.Bears.later {g g' : Standing σ τ Q} {b : Bucket} {reset : τ} {patience : Nat}
    (h : g.Bears b reset patience) (hg : c.Later g g') : g'.Bears b reset patience := by
  obtain ⟨n, hn, hd⟩ := hg.drift
  rcases h with h | ⟨h, hreset⟩
  · left; omega
  · by_cases hz : n = 0
    · exact .inr ⟨by omega, hd.resetAt? hz hreset⟩
    · left; omega

namespace Work

variable [OrderedSeconds τ] {flag : Option Flag}

omit [OrderedSeconds τ] in
/-- A worker that is refused has either not been refused before, or others passed a budget on since. -/
theorem bears_of_refusal {g g₁ : Standing σ τ Q} {b : Bucket} {margin : Option Int} {reset : τ}
    {refusal : Refusal τ} {patience : Nat} (hbears : g.Bears b reset (patience + 1)) (hg : c.Later g g₁)
    (hr : (g₁.world.reserve c.sur b margin).1 = .error refusal) (hnew : refusal.resetAt ≠ reset) :
    (g₁.after c (.reserve b margin)).Bears b refusal.resetAt patience := by
  have hreset : (g₁.after c (.reserve b margin)).world.resetAt? b = some refusal.resetAt :=
    World.resetAt?_of_refusal hr
  rcases hbears.later hg with h | ⟨_, hold⟩
  · exact .inr ⟨Nat.le_of_succ_le_succ h, hreset⟩
  · have hkept : (g₁.after c (.reserve b margin)).world.resetAt? b = some reset :=
      World.resetAt?_perform rfl hold
    rw [hreset] at hkept
    exact absurd (Option.some.inj hkept) hnew

theorem acquire_always (hsur : c.sur.Punctual flag) (b : Bucket) (margin : Option Int) :
    ∀ (patience : Nat) (mostWait : τ) (s : Session τ) (g : Standing σ τ Q) (reset : τ),
      g.Bears b reset patience → reset ≤ c.sur.now g.world.outside →
      ((acquire b flag margin patience mostWait : Work τ Q R Permit).start s).Always c.behaviour
        (fun r g' => c.Later g g' ∧ Ends True (fun _ => True) r.1) g := by
  intro patience
  -- `Bears` carries the induction: each refusal uses up one wait, and either one budget or the first refusal
  induction patience with
  | zero => intro mostWait s g reset h; rcases h with h | ⟨h, _⟩ <;> omega
  | succ patience ih =>
      intro mostWait s g reset hbears hpast
      refine always_act_bind rfl fun g₁ hg₁ hl₁ => ?_
      cases hr : (g₁.world.perform c.sur (.reserve b margin)).1 with
      | ok permit => exact ⟨hl₁, trivial⟩
      | error refusal =>
          refine always_act_bind rfl fun g₂ hg₂ hl₂' => ?_
          have hl₂ := hl₁.trans hl₂'
          dsimp only
          split
          · exact ⟨hl₂, fun _ => rfl⟩
          · rename_i hwait
            have hwait : ¬ Seconds.timeUntil refusal.resetAt (c.sur.now g₂.world.outside) ≤ Seconds.zero :=
              fun h => hwait (.inl h)
            -- the clock has come to `reset`, so it is not what is waited for
            have hnew : refusal.resetAt ≠ reset := fun h =>
              hwait (Seconds.timeUntil_le_zero
                (OrderedSeconds.le_trans (h ▸ hpast) ((hl₁.trans hg₂).now_le hsur)))
            have hbears₂ := ((bears_of_refusal hbears hg₁ hr hnew).later hg₂).later
              (c.later_after (e := .clock) rfl g₂)
            refine always_act_bind rfl fun g₃ hg₃ hl₃ => ?_
            rw [start_bind, Program.always_bind]
            have hspan : Seconds.timeUntil refusal.resetAt (g₂.world.perform c.sur .clock).1 =
                refusal.resetAt - c.sur.now g₂.world.outside := Seconds.timeUntil_eq_sub hwait
            have hpos : Seconds.zero < refusal.resetAt - c.sur.now g₂.world.outside :=
              hspan ▸ OrderedSeconds.lt_of_not_le hwait
            rw [hspan] at hl₃ ⊢
            have hnow := ((c.later_after (e := .clock) rfl g₂).trans hl₃).now_le hsur
            refine (sleepWatching_always refusal.resetAt hsur hpos hnow).mono ?_
            · rintro ⟨r, s'⟩ g₄ ⟨hl₄, hends⟩
              have hl : c.Later g g₄ := (hl₂.trans hl₃).trans hl₄
              cases r with
              | error fault => exact ⟨hl, hends⟩
              | ok u =>
                  refine (ih _ s' g₄ refusal.resetAt ((hbears₂.later hl₃).later hl₄) hends).mono ?_
                  exact fun r g' hr => ⟨hl.trans hr.1, hr.2⟩

/-! ## The price of a permit -/

omit [OrderedSeconds τ] in
theorem Within.acquire_of_stalls (hc : c.stalls) (b : Bucket) (flag : Option Flag) (margin : Option Int) :
    ∀ (patience : Nat) (mostWait : τ),
      Within c 0 (fun _ => True) (acquire b flag margin patience mostWait : Work τ Q R Permit) := by
  intro patience
  induction patience with
  | zero => exact fun mostWait s g _ _ => hc
  | succ patience ih =>
      intro mostWait
      refine (Within.reserve b margin).free fun r _ => ?_
      cases r with
      | ok permit => exact .pure trivial
      | error refusal =>
          refine Within.clock.free fun now _ => ?_
          refine .ite (fun _ => .throw fun _ => rfl) fun _ => ?_
          refine (Within.log _ _).free fun _ _ => ?_
          exact (Within.sleepWatching flag _).free fun _ _ => ih _

omit [OrderedSeconds τ] in
/-- A permit is had, or not, but nobody waits for ever. -/
theorem Within.acquire (hordered : ¬ c.stalls → OrderedSeconds τ) (hsur : ¬ c.stalls → c.sur.Punctual flag)
    (b : Bucket) (margin : Option Int) (mostWait : τ) :
    Within c 0 (fun _ => True) (acquire b flag margin c.patience mostWait : Work τ Q R Permit) := by
  by_cases hc : c.stalls
  · exact acquire_of_stalls hc b flag margin _ _
  · have := hordered hc
    intro s g _ hp
    have hbears : g.Bears b (c.sur.now g.world.outside) c.patience := .inl (hp.resolve_left hc)
    refine (acquire_always (hsur hc) b margin _ mostWait s g _ hbears (OrderedSeconds.le_refl _)).mono ?_
    rintro ⟨r, s'⟩ g' ⟨hlater, hends⟩
    refine ⟨hlater.reaches, ?_⟩
    cases r with
    | ok permit => trivial
    | error fault => exact fun _ => hends trivial

end Work

end RepoCensus
