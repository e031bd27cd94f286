import RepoCensus.Proofs.Retry.Undisturbed
import RepoCensus.Proofs.Work.Accounts

/-!
# Accounts of attempts

However an operation is tried, the record tells of one attempt for each request, and of one more if a permit was
denied at the end.
-/

namespace RepoCensus

open RepoCensus.Calendar Work

variable {τ α : Type} [Seconds τ]

namespace Retry

variable {b : Bucket} {r : Retry τ} {flag : Option Flag} {onRetry : RetryListener τ Request Reply}
  {operation : Work τ Request Reply α} {m m' : Numbers} {g g' : Accounts} {c left : Nat}

/-! ## Between two attempts -/

theorem abstains_delayAfter (r : Retry τ) (n : Nat) (fault : Fault τ) :
    Abstains b (r.delayAfter n fault : Work τ Request Reply (τ × τ)) := by
  have hown : Abstains b (do
      let base ← ofExcept (Fault.lift (r.policy.backoff ((n : Int) - 1)))
      let u ← jitter
      return (base, base + u * base) : Work τ Request Reply (τ × τ)) :=
    (Abstains.ofExcept _).bind fun _ => Abstains.jitter.bind fun _ => .pure _
  cases fault with
  | rateLimited text status resetAt retryAfter =>
      exact Abstains.clock.bind fun _ => (Abstains.ofExcept _).bind fun _ => .pure _
  | _ => exact hown

theorem attains_recordDelay_booked (n : Nat) (fault : Fault τ) (hlatest : m.latest = some g.tries.begun) :
    Attains (Accounts.behaviour b) (r.recordDelay n fault : Work τ Request Reply τ) m g fun _ m' g' =>
      m' = m ∧ g' = g := by
  refine (abstains_delayAfter r n fault).attains_bind (fun _ => ⟨rfl, rfl⟩) fun delay => ?_
  refine attains_keepAttempts_bind (fun _ => ?_) hlatest ?_
  · rfl
  · exact .pure ⟨rfl, rfl⟩

theorem abstains_sleepBetween (r : Retry τ) (flag : Option Flag) (wait : τ) :
    Abstains b (r.sleepBetween flag wait : Work τ Request Reply Unit) :=
  .ite (fun _ => (Abstains.sleep wait).bind fun _ => .check flag) fun _ => .sleepWatching flag wait

/-! ## One attempt after another -/

section

variable {post : Except (Fault τ) (Ending τ α) → Numbers → Accounts → Prop} {n : Nat} {fault : Fault τ}
  (hlisten : ∀ n delay fault, Abstains b (onRetry n delay fault))

include hlisten

/-- After a passing trouble nothing is counted before the next attempt. -/
theorem attains_afterTrouble_booked (hlatest : m.latest = some g.tries.begun) (hend : ∀ x, post x m g)
    (hagain : ∀ left', left = left' + 1 →
      Attains (Accounts.behaviour b) (r.attemptFrom flag onRetry operation left' (n + 1)) m g post) :
    Attains (Accounts.behaviour b) (r.afterTrouble flag onRetry operation left n fault) m g post := by
  refine (attains_recordDelay_booked n fault hlatest).andThen ?_ ?_
  · rintro why _ _ ⟨rfl, rfl⟩
    exact hend _
  · rintro delay _ _ ⟨rfl, rfl⟩
    cases left with
    | zero => exact .pure (hend _)
    | succ left =>
        refine attains_keepAttempts_bind (fun _ => ?_) hlatest ?_
        · rfl
        · refine (Abstains.log _ _).attains_bind (fun _ => hend _) fun _ => ?_
          refine (hlisten n delay fault).attains_bind (fun _ => hend _) fun _ => ?_
          refine (abstains_sleepBetween r flag delay).attains_bind (fun _ => hend _) fun _ => ?_
          exact hagain left rfl

end

/-- From an attempt on, after `c` earlier ones, the record and the accounts have grown by as many attempts. -/
def Tried (c : Nat) (m : Numbers) (g : Accounts) (x : Except (Fault τ) α) (m' : Numbers) (g' : Accounts) : Prop :=
  ∃ k, g.Grows k (Denied x) g' ∧ g'.tries.begun = c + k ∧ m' = ⟨some (c + k), m.total⟩

omit [Seconds τ] in
theorem Tried.cons {x : Except (Fault τ) α} (h : Tried (c + 1) ⟨some (c + 1), m.total⟩ (g.count (c + 1)).pay.send x m' g') :
    Tried c m g x m' g' := by
  obtain ⟨k, hgrows, hbegun, rfl⟩ := h
  have hsent : g.Grows 1 False (g.count (c + 1)).pay.send := .sent
  refine ⟨1 + k, hsent.trans id hgrows, ?_, ?_⟩
  · rw [hbegun, Nat.add_assoc]
  · rw [Nat.add_assoc]

section

variable (hoperation : ∀ m g, Attains (Accounts.behaviour b) operation m g fun x m' g' => m' = m ∧ g.Attempted x g')
  (hlisten : ∀ n delay fault, Abstains b (onRetry n delay fault)) (hlatest : m.latest = some c)
  (htries : g.tries = ⟨c, false⟩)

include hoperation hlisten hlatest htries

/-- An attempt is counted once, if what comes after it is counted right. -/
theorem attains_attemptFrom_of_further (hfurther : ∀ left', left = left' + 1 → Attains (Accounts.behaviour b)
      (r.attemptFrom flag onRetry operation left' (c + 1 + 1)) ⟨some (c + 1), m.total⟩ (g.count (c + 1)).pay.send
      fun x => Tried (c + 1) ⟨some (c + 1), m.total⟩ (g.count (c + 1)).pay.send x) :
    Attains (Accounts.behaviour b) (r.attemptFrom flag onRetry operation left (c + 1)) m g fun x =>
      Tried c m g x := by
  obtain ⟨latest, total⟩ := m
  obtain ⟨sends, permits, tries⟩ := g
  cases hlatest
  cases htries
  rw [attemptFrom_eq]
  refine (Abstains.check flag).attains_bind (fun _ => ⟨0, .refl rfl, rfl, rfl⟩) fun _ => ?_
  refine attains_beginAttempt_bind (c := c + 1) (fun _ => ?_) rfl (.result_bind ?_)
  · rfl
  refine (hoperation _ _).mono ?_
  rintro x _ _ ⟨rfl, rfl | ⟨hdenied, rfl⟩⟩
  · cases x with
    | ok a => exact .pure ⟨1, .sent, rfl, rfl⟩
    | error fault =>
        apply Attains.ite
        · intro _
          refine attains_afterTrouble_booked hlisten rfl (fun _ => ⟨1, .sent, rfl, rfl⟩) fun left' hleft => ?_
          exact (hfurther left' hleft).mono fun _ _ _ hx => hx.cons
        · intro _
          exact .throw ⟨1, .sent, rfl, rfl⟩
  · cases x with
    | ok a => exact hdenied.elim
    | error fault =>
        apply Attains.ite
        · intro htransient
          exact absurd (hdenied.symm.trans (Fault.not_isDenial_of_isTransient htransient)) nofun
        · intro _
          exact .throw ⟨1, .unpaid (Nat.lt_succ_self c) hdenied, rfl, rfl⟩

theorem attains_attemptFrom_booked :
    Attains (Accounts.behaviour b) (r.attemptFrom flag onRetry operation left (c + 1)) m g fun x => Tried c m g x := by
  induction left generalizing c m g with
  | zero => exact attains_attemptFrom_of_further hoperation hlisten hlatest htries nofun
  | succ left ih =>
      refine attains_attemptFrom_of_further hoperation hlisten hlatest htries ?_
      rintro _ ⟨⟩
      exact ih rfl rfl

end

/-- However an operation is tried, the record tells how many attempts were counted. -/
theorem attains_attempt_booked
    (hoperation : ∀ m g, Attains (Accounts.behaviour b) operation m g fun x m' g' => m' = m ∧ g.Attempted x g')
    (hlisten : ∀ n delay fault, Abstains b (onRetry n delay fault)) (hpaid : g.tries.unpaid = false) :
    Attains (Accounts.behaviour b) (r.attempt flag onRetry operation) m g fun x m' g' =>
      ∃ k, g.Grows k (Denied x) g' ∧ m' = ⟨some k, m.total⟩ := by
  refine attains_startAttempts_bind (.result_bind ?_)
  have htries : (g.count 0).tries = ⟨0, false⟩ := by simp [Accounts.count, hpaid]
  refine (attains_attemptFrom_booked hoperation hlisten rfl htries).mono ?_
  rintro x _ g₁ ⟨k, hgrows, hbegun, rfl⟩
  rw [Nat.zero_add] at hbegun ⊢
  have hlatest : some k = some g₁.tries.begun := congrArg some hbegun.symm
  have hgrows : g.Grows k (Denied x) g₁ := hgrows
  cases x with
  | error fault =>
      apply Attains.ite
      · intro _
        refine attains_keepAttempts_bind (fun _ => ?_) hlatest ?_
        · rfl
        · exact .throw ⟨k, hgrows, rfl⟩
      · intro _
        exact .throw ⟨k, hgrows, rfl⟩
  | ok ending =>
      cases ending with
      | value a =>
          refine attains_keepAttempts_bind (fun _ => ?_) hlatest ?_
          · rfl
          · exact .pure ⟨k, hgrows, rfl⟩
      | exhausted fault attempts =>
          have hgiven : ∀ x : Except (Fault τ) α, g.Grows k (Denied x) g₁ := fun _ => hgrows.mono False.elim
          refine attains_keepAttempts_bind (fun _ => ?_) hlatest ?_
          · rfl
          · refine (Abstains.log _ _).attains_bind (fun _ => ⟨k, hgiven _, rfl⟩) fun _ => ?_
            exact .throw ⟨k, hgiven _, rfl⟩

end Retry

end RepoCensus
