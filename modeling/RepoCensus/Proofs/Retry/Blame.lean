import RepoCensus.Proofs.Retry.Undisturbed
import RepoCensus.Proofs.Work.Blame

/-!
# Which budget attempts blame

A run of attempts ends over a budget in two ways. Either the permit for the latest attempt was denied, and is blamed on
its own bucket; or the wait after it is too long, which is blamed on the usual one.
-/

namespace RepoCensus

open RepoCensus.Calendar Work

variable {τ Q R α : Type} [Seconds τ]

/-- A wait that is refused is blamed on the usual bucket. -/
theorem RetryPolicy.blames_limitWait (p : RetryPolicy τ) (b : Bucket) (now : τ) (resetAt retryAfter : Option τ) :
    Blames b (p.limitWait now resetAt retryAfter) false := by
  have hgranted (wait : τ) : Blames b (if p.maxResetWait < wait then
      .error (.overBudget (resetAt.getD (now + wait)) 0 coreResource) else .ok wait : Except (Fault τ) τ) false := by
    split
    · rfl
    · trivial
  unfold limitWait
  cases retryAfter with
  | some wait => exact hgranted wait
  | none =>
      cases resetAt with
      | some reset => exact hgranted _
      | none => exact (Sound.lift _).blameless.blames

namespace Retry

variable {b : Bucket} {r : Retry τ} {flag : Option Flag} {onRetry : RetryListener τ Q R} {operation : Work τ Q R α}
  {m : Numbers} {denied : Bool}

/-! ## Between two attempts -/

theorem attains_delayAfter_blames (n : Nat) (fault : Fault τ) :
    Attains (.blaming τ Q R) (r.delayAfter n fault : Work τ Q R (τ × τ)) m false fun x _ denied' =>
      Blames b x denied' ∧ denied' = false := by
  have hown : Mute (do
      let base ← ofExcept (Fault.lift (r.policy.backoff ((n : Int) - 1)))
      let u ← jitter
      return (base, base + u * base) : Work τ Q R (τ × τ)) :=
    (Mute.ofExcept (Sound.lift _).blameless).bind fun _ => Mute.jitter.bind fun _ => .pure _
  cases fault with
  | rateLimited text status resetAt retryAfter =>
      refine attains_fair_bind (e := .clock) fun now _ => .bind (.ofExcept ?_)
      have hwait := r.policy.blames_limitWait b now resetAt retryAfter
      cases hx : r.policy.limitWait now resetAt retryAfter with
      | ok wait => exact fun _ _ => ⟨trivial, rfl⟩
      | error refusal =>
          rw [hx] at hwait
          exact ⟨hwait.error, rfl⟩
  | _ => exact hown.attains fun _ _ h => ⟨h.blames, rfl⟩

theorem mute_sleepBetween (r : Retry τ) (flag : Option Flag) (wait : τ) :
    Mute (r.sleepBetween flag wait : Work τ Q R Unit) :=
  .ite (fun _ => (Mute.sleep wait).bind fun _ => .check flag) fun _ => .sleepWatching flag wait

/-! ## One attempt after another -/

section

variable (hlisten : ∀ n delay fault, Mute (onRetry n delay fault))

include hlisten

/-- After a passing trouble only the wait is blamed on a bucket. -/
theorem attains_afterTrouble_blames {left n : Nat} {fault : Fault τ} (hagain : ∀ left' m, left = left' + 1 →
      Attains (.blaming τ Q R) (r.attemptFrom flag onRetry operation left' (n + 1)) m false fun x _ => Blames b x) :
    Attains (.blaming τ Q R) (r.afterTrouble flag onRetry operation left n fault) m false fun x _ => Blames b x := by
  unfold afterTrouble recordDelay
  rw [bind_assoc]
  refine (attains_delayAfter_blames (b := b) n fault).andThen ?_ ?_
  · rintro _ _ _ ⟨hrefused, -⟩
    exact hrefused.error
  · rintro delays m' _ ⟨-, rfl⟩
    rw [bind_assoc]
    refine (Mute.updateAttempts _).attains_bind (fun _ _ h => Blameless.blames h) fun _ m' => ?_
    rw [pure_bind]
    cases left with
    | zero => exact .pure trivial
    | succ left =>
        refine (Mute.updateAttempts _).attains_bind (fun _ _ h => Blameless.blames h) fun _ m' => ?_
        refine (Mute.log _ _).attains_bind (fun _ _ h => Blameless.blames h) fun _ m' => ?_
        refine (hlisten n delays.2 fault).attains_bind (fun _ _ h => Blameless.blames h) fun _ m' => ?_
        refine (mute_sleepBetween r flag delays.2).attains_bind (fun _ _ h => Blameless.blames h) fun _ m' => ?_
        exact hagain left m' rfl

variable (hoperation : ∀ m denied, Attains (.blaming τ Q R) operation m denied fun x _ denied' => Owns b x denied')

include hoperation

/-- The latest attempt decides who is blamed, if what comes after it blames right. -/
theorem attains_attemptFrom_blames_of_further {left n : Nat} (hfurther : ∀ left' m, left = left' + 1 →
      Attains (.blaming τ Q R) (r.attemptFrom flag onRetry operation left' (n + 1)) m false fun x _ => Blames b x) :
    Attains (.blaming τ Q R) (r.attemptFrom flag onRetry operation left n) m denied fun x _ => Blames b x := by
  rw [attemptFrom_eq]
  refine (Mute.check flag).attains_bind (fun _ _ h => Blameless.blames h) fun _ m' => ?_
  refine (Mute.updateAttempts _).attains_bind (fun _ _ h => Blameless.blames h) fun _ m' => ?_
  refine .result_bind ((hoperation m' denied).mono fun x m' denied' hx => ?_)
  cases x with
  | ok a => exact .pure trivial
  | error fault =>
      apply Attains.ite
      · intro htransient
        cases hx.of_isTransient htransient
        exact attains_afterTrouble_blames hlisten hfurther
      · intro _
        exact .throw hx.blames

theorem attains_attemptFrom_blames (left n : Nat) :
    Attains (.blaming τ Q R) (r.attemptFrom flag onRetry operation left n) m denied fun x _ => Blames b x := by
  induction left generalizing n m denied with
  | zero => exact attains_attemptFrom_blames_of_further hlisten hoperation nofun
  | succ left ih =>
      refine attains_attemptFrom_blames_of_further hlisten hoperation ?_
      rintro _ m' ⟨⟩
      exact ih (n + 1)

/-- A run of attempts that ends over a budget blames the bucket of its permits if the latest one was denied, and the
usual bucket if not. -/
theorem attains_attempt_blames :
    Attains (.blaming τ Q R) (r.attempt flag onRetry operation) m denied fun x _ => Blames b x := by
  refine (Mute.setAttempts _).attains_bind (fun _ _ h => Blameless.blames h) fun _ m' => .result_bind ?_
  refine (attains_attemptFrom_blames hlisten hoperation _ 1).mono fun x m' denied' hx => ?_
  cases x with
  | error fault =>
      apply Attains.ite
      · intro _
        refine (Mute.updateAttempts _).attains_bind (fun _ _ h => Blameless.blames h) fun _ _ => ?_
        exact .throw hx.error
      · intro _
        exact .throw hx.error
  | ok ending =>
      cases ending with
      | value a =>
          refine (Mute.updateAttempts _).attains_bind (fun _ _ h => Blameless.blames h) fun _ _ => ?_
          exact .pure trivial
      | exhausted fault attempts =>
          refine (Mute.updateAttempts _).attains_bind (fun _ _ h => Blameless.blames h) fun _ _ => ?_
          refine (Mute.log _ _).attains_bind (fun _ _ h => Blameless.blames h) fun _ _ => ?_
          exact .throw trivial

end

end Retry

end RepoCensus
