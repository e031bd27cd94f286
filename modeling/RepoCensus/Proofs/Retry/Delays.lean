import Mathlib.Algebra.Order.BigOperators.Group.List
import Mathlib.Tactic.Linarith
import RepoCensus.Proofs.Retry.Course

/-!
# The waits of a run of attempts

After a trouble of the ordinary kind a run waits twice as long as after the attempt before, up to a bound, and somewhat
longer at random. After a denial it waits as long as the service asks, unless that is too long. Main statement: each
setback of a run has the wait that its number and its fault tell, so the waits do not shrink and their sum is bounded.
-/

namespace RepoCensus

open RepoCensus.Calendar RepoCensus.Numeral

variable {σ Q R α : Type}

/-- How long the service asks to be left alone. A number of seconds goes before a time. -/
def Fault.askedWait? (now : Rat) : Fault Rat → Option Rat
  | .rateLimited _ _ _ (some wait) => some wait
  | .rateLimited _ _ (some reset) none => some (max (reset - now) 0)
  | _ => none

/-- When the limit ends, as the service says. -/
def Fault.resetAt? : Fault Rat → Option Rat
  | .rateLimited _ _ resetAt _ => resetAt
  | _ => none

/-- What a run ends with that refuses to wait so long at the time `now`. -/
def Fault.refusal (fault : Fault Rat) (now wait : Rat) : Fault Rat :=
  .overBudget (fault.resetAt?.getD (now + wait)) 0 coreResource

theorem Fault.askedWait?_of_not_isRateLimit {fault : Fault Rat} (h : fault.isRateLimit = false) (now : Rat) :
    fault.askedWait? now = none := by
  cases fault <;> first | rfl | cases h

theorem Fault.exists_rateLimited {fault : Fault Rat} {now wait : Rat} (h : fault.askedWait? now = some wait) :
    ∃ text status resetAt retryAfter, fault = .rateLimited text status resetAt retryAfter := by
  cases fault with
  | rateLimited text status resetAt retryAfter => exact ⟨text, status, resetAt, retryAfter, rfl⟩
  | _ => cases h

/-- The wait after the attempt number `n` is the one that the policy and the fault tell, where the clock shows `now` and
the next number to be drawn is `u`. -/
structure Setback.Fits (s : Setback Rat) (p : RetryPolicy Rat) (n : Nat) (now u : Rat) : Prop where
  plain : s.fault.isRateLimit = false →
    s.base = min (p.baseDelay * 2 ^ (n - 1)) p.maxDelay ∧ s.delay = s.base + u * s.base
  asked : ∀ wait, s.fault.askedWait? now = some wait → s.delay = wait ∧ wait ≤ p.maxResetWait
  unasked : s.fault.isRateLimit = true → s.fault.askedWait? now = none → s.delay = min p.baseDelay p.maxDelay

/-! ## The policy's own waits -/

theorem Calendar.Seconds.lesser_eq (a b : Rat) : Seconds.lesser a b = min a b := by
  rcases le_or_gt a b with h | h
  · rw [min_eq_left h]
    exact if_neg (not_lt.mpr h)
  · rw [min_eq_right h.le]
    exact if_pos h

theorem Calendar.Seconds.timeUntil_eq (later now : Rat) : Seconds.timeUntil later now = max (later - now) 0 := by
  rcases le_or_gt 0 (later - now) with h | h
  · rw [max_eq_left h]
    exact if_neg (not_lt.mpr h)
  · rw [max_eq_right h.le]
    exact if_pos h

theorem RetryPolicy.backoff_eq (p : RetryPolicy Rat) (n : Nat) :
    p.backoff n = .ok (min (p.baseDelay * 2 ^ n) p.maxDelay) := by
  have hpower : Double.powerOfTwo n = (2 : Rat) ^ n := by
    simp [Double.powerOfTwo]
  show Except.ok (Seconds.lesser (p.baseDelay * Double.powerOfTwo n) p.maxDelay) = _
  rw [hpower, Seconds.lesser_eq]

theorem RetryPolicy.limitWait_of_asked {p : RetryPolicy Rat} {now wait : Rat} {text : String} {status : Option Int}
    {resetAt retryAfter : Option Rat}
    (h : (Fault.rateLimited text status resetAt retryAfter).askedWait? now = some wait) :
    p.limitWait now resetAt retryAfter = if p.maxResetWait < wait then
      .error (.overBudget (resetAt.getD (now + wait)) 0 coreResource) else .ok wait := by
  cases retryAfter with
  | some w =>
      cases h
      rfl
  | none =>
      cases resetAt with
      | none => cases h
      | some reset =>
          cases h
          rw [← Seconds.timeUntil_eq]
          rfl

theorem RetryPolicy.limitWait_of_unasked {p : RetryPolicy Rat} {now : Rat} {text : String} {status : Option Int}
    {resetAt retryAfter : Option Rat} (h : (Fault.rateLimited text status resetAt retryAfter).askedWait? now = none) :
    p.limitWait now resetAt retryAfter = .ok (min p.baseDelay p.maxDelay) := by
  cases retryAfter with
  | some w => cases h
  | none =>
      cases resetAt with
      | some reset => cases h
      | none =>
          have hbackoff : p.backoff 0 = .ok (min p.baseDelay p.maxDelay) := by
            simpa using p.backoff_eq 0
          show Fault.lift (p.backoff 0) = _
          rw [hbackoff]
          rfl

namespace Setback.Fits

variable {s t : Setback Rat} {p : RetryPolicy Rat} {m n : Nat} {now now' u u' : Rat}

theorem base_nonneg (h : s.Fits p n now u) (hbase : 0 ≤ p.baseDelay) (hmax : 0 ≤ p.maxDelay)
    (hplain : s.fault.isRateLimit = false) : 0 ≤ s.base := by
  rw [(h.plain hplain).1]
  exact le_min (mul_nonneg hbase (by positivity)) hmax

theorem spread (h : s.Fits p n now u) (hu : 0 ≤ u ∧ u < 1) (hplain : s.fault.isRateLimit = false) (hbase : 0 < s.base) :
    s.base ≤ s.delay ∧ s.delay < 2 * s.base := by
  have hdelay := (h.plain hplain).2
  have hlow : 0 ≤ u * s.base := mul_nonneg hu.1 hbase.le
  have hhigh : u * s.base < 1 * s.base := mul_lt_mul_of_pos_right hu.2 hbase
  constructor <;> linarith

theorem delay_le (h : s.Fits p n now u) (hu : 0 ≤ u ∧ u < 1) (hbase : 0 ≤ p.baseDelay) (hmax : 0 ≤ p.maxDelay) :
    s.delay ≤ max (2 * p.maxDelay) p.maxResetWait := by
  have hdouble : p.maxDelay ≤ 2 * p.maxDelay := by linarith
  cases hlimit : s.fault.isRateLimit with
  | false =>
      obtain ⟨hs, hdelay⟩ := h.plain hlimit
      have hnonneg := h.base_nonneg hbase hmax hlimit
      have hle : s.base ≤ p.maxDelay := hs ▸ min_le_right _ _
      have hrandom : u * s.base ≤ 1 * s.base := mul_le_mul_of_nonneg_right hu.2.le hnonneg
      exact le_max_of_le_left (by linarith)
  | true =>
      cases hasked : s.fault.askedWait? now with
      | some wait =>
          obtain ⟨rfl, hwait⟩ := h.asked wait hasked
          exact le_max_of_le_right hwait
      | none =>
          rw [h.unasked hlimit hasked]
          exact le_max_of_le_left ((min_le_right _ _).trans hdouble)

/-- Of two ordinary setbacks the later one has the longer wait, the random parts apart. -/
theorem base_mono (hs : s.Fits p m now u) (ht : t.Fits p n now' u') (hbase : 0 ≤ p.baseDelay) (hmn : m ≤ n)
    (hplain : s.fault.isRateLimit = false) (hplain' : t.fault.isRateLimit = false) : s.base ≤ t.base := by
  rw [(hs.plain hplain).1, (ht.plain hplain').1]
  have hpower : (2 : Rat) ^ (m - 1) ≤ 2 ^ (n - 1) := pow_le_pow_right₀ (by norm_num) (by omega)
  exact min_le_min_right _ (mul_le_mul_of_nonneg_left hpower hbase)

end Setback.Fits

namespace Retry

open Work

variable {sur : Surroundings σ Rat Q R} {r : Retry Rat} {flag : Option Flag} {onRetry : RetryListener Rat Q R}
  {operation : Work Rat Q R α} {a b c f : Scene σ Rat Q} {past before rest ss : List (Setback Rat)} {s : Setback Rat}
  {fault : Fault Rat} {n most : Nat} {wait : Rat}

/-! ## One setback -/

theorem comesTo_delayAfter_rateLimited (text : String) (status : Option Int) (resetAt retryAfter : Option Rat) :
    (r.delayAfter n (.rateLimited text status resetAt retryAfter) : Work Rat Q R _).ComesTo sur b
      ((r.policy.limitWait (sur.now b.world.outside) resetAt retryAfter).map fun wait => (wait, wait))
      ⟨b.session, (b.world.perform sur .clock).2⟩ := by
  refine (ComesTo.act .clock b).bind ?_
  cases hwait : r.policy.limitWait (sur.now b.world.outside) resetAt retryAfter with
  | ok wait => exact (ComesTo.ofExcept_of_eq hwait _).bind (.pure _ _)
  | error refusal => exact (ComesTo.ofExcept_of_eq hwait _).bind_error

theorem comesTo_delayAfter_plain (htransient : fault.isTransient = true) (hplain : fault.isRateLimit = false) :
    (r.delayAfter (n + 1) fault : Work Rat Q R _).ComesTo sur b
      (.ok (min (r.policy.baseDelay * 2 ^ n) r.policy.maxDelay, min (r.policy.baseDelay * 2 ^ n) r.policy.maxDelay +
        (sur.jitter b.world.outside).1 * min (r.policy.baseDelay * 2 ^ n) r.policy.maxDelay))
      ⟨b.session, (b.world.perform sur .jitter).2⟩ := by
  have hbackoff : r.policy.backoff (((n + 1 : Nat) : Int) - 1) =
      .ok (min (r.policy.baseDelay * 2 ^ n) r.policy.maxDelay) := by
    rw [← r.policy.backoff_eq n]
    congr 1
    omega
  have hbase : (ofExcept (Fault.lift (r.policy.backoff _)) : Work Rat Q R Rat).ComesTo sur b (.ok _) b :=
    .ofExcept_of_eq (congrArg Fault.lift hbackoff) b
  cases fault with
  | transient text status => exact hbase.bind ((ComesTo.act .jitter b).bind (.pure _ _))
  | timedOut text status => exact hbase.bind ((ComesTo.act .jitter b).bind (.pure _ _))
  | rateLimited text status resetAt retryAfter => cases hplain
  | _ => cases htransient

theorem fits_of_delayAfter (htransient : s.fault.isTransient = true)
    (h : (r.delayAfter (n + 1) s.fault).ComesTo sur b (.ok (s.base, s.delay)) c) :
    s.Fits r.policy (n + 1) (sur.now b.world.outside) (sur.jitter b.world.outside).1 := by
  obtain ⟨fault, base, delay⟩ := s
  cases hlimit : fault.isRateLimit with
  | false =>
      obtain ⟨hend, -⟩ := h.unique (comesTo_delayAfter_plain htransient hlimit)
      cases hend
      have hunasked := Fault.askedWait?_of_not_isRateLimit hlimit (sur.now b.world.outside)
      exact ⟨fun _ => ⟨rfl, rfl⟩, fun _ h' => by simp [hunasked] at h', fun h' => by simp [hlimit] at h'⟩
  | true =>
      cases fault with
      | rateLimited text status resetAt retryAfter =>
          obtain ⟨hend, -⟩ := h.unique (comesTo_delayAfter_rateLimited text status resetAt retryAfter)
          cases hasked : (Fault.rateLimited text status resetAt retryAfter).askedWait? (sur.now b.world.outside) with
          | none =>
              rw [RetryPolicy.limitWait_of_unasked hasked] at hend
              cases hend
              exact ⟨nofun, fun _ h' => by simp [hasked] at h', fun _ _ => rfl⟩
          | some wait =>
              rw [RetryPolicy.limitWait_of_asked hasked] at hend
              split at hend
              · cases hend
              · cases hend
                refine ⟨nofun, fun _ h' => ?_, fun _ h' => by simp [hasked] at h'⟩
                cases hasked.symm.trans h'
                exact ⟨rfl, not_lt.mp ‹_›⟩
      | _ => cases hlimit

/-- A wait that is too long is refused, and nothing is done but to look at the clock. -/
theorem comesTo_delayAfter_long (hasked : fault.askedWait? (sur.now b.world.outside) = some wait)
    (hlong : r.policy.maxResetWait < wait) : (r.delayAfter n fault : Work Rat Q R _).ComesTo sur b
      (.error (fault.refusal (sur.now b.world.outside) wait)) ⟨b.session, (b.world.perform sur .clock).2⟩ := by
  obtain ⟨text, status, resetAt, retryAfter, rfl⟩ := Fault.exists_rateLimited hasked
  have h : (r.delayAfter n (.rateLimited text status resetAt retryAfter) : Work Rat Q R _).ComesTo sur b _ _ :=
    comesTo_delayAfter_rateLimited text status resetAt retryAfter
  rw [RetryPolicy.limitWait_of_asked hasked, if_pos hlong] at h
  exact h

/-! ## One setback after another -/

/-- A setback of a run, and what came before and after it. -/
theorem Suffers.split (h : Suffers sur r flag onRetry operation past a (before ++ s :: rest) f) :
    ∃ b c d e, Suffers sur r flag onRetry operation past a before b ∧
      Calls sur flag operation (past ++ before) b ((past ++ before).length + 1) (.error s.fault) c ∧
      s.fault.isTransient = true ∧
      s.Fits r.policy ((past ++ before).length + 1) (sur.now c.world.outside) (sur.jitter c.world.outside).1 ∧
      (r.sleepOnly flag s.delay).ComesTo sur d (.ok ()) e ∧
      Suffers sur r flag onRetry operation (past ++ before ++ [s]) e rest f := by
  induction before generalizing past a with
  | nil =>
      cases h with
      | cons hcall htransient hdelay htold hsleep hcounts hrest =>
          obtain rfl := hcall.number
          rw [List.append_nil]
          exact ⟨_, _, _, _, .nil past a, hcall, htransient, fits_of_delayAfter htransient hdelay, hsleep, hrest⟩
  | cons t before ih =>
      cases h with
      | cons hcall htransient hdelay htold hsleep hcounts hrest =>
          obtain ⟨b, c, d, e, hbefore, hlater⟩ := ih hrest
          rw [List.append_assoc, List.singleton_append] at hlater
          exact ⟨b, c, d, e, .cons hcall htransient hdelay htold hsleep hcounts hbefore, hlater⟩

theorem Suffers.exists_fits (h : Suffers sur r flag onRetry operation past a ss f) (hs : s ∈ ss) :
    ∃ n o, past.length < n ∧ s.Fits r.policy n (sur.now o) (sur.jitter o).1 := by
  obtain ⟨before, rest, rfl⟩ := List.append_of_mem hs
  obtain ⟨b, c, d, e, -, -, -, hfits, -⟩ := h.split
  exact ⟨_, _, Nat.lt_succ_of_le (List.prefix_append past before).length_le, hfits⟩

theorem Suffers.pairwise_bases (h : Suffers sur r flag onRetry operation past a ss f)
    (hbase : 0 ≤ r.policy.baseDelay) :
    ss.Pairwise fun s t => s.fault.isRateLimit = false → t.fault.isRateLimit = false → s.base ≤ t.base := by
  induction h with
  | nil => exact .nil
  | cons hcall htransient hdelay htold hsleep hcounts hrest ih =>
      obtain rfl := hcall.number
      refine .cons (fun t ht hplain hplain' => ?_) ih
      obtain ⟨m, o, hm, hfits⟩ := hrest.exists_fits ht
      rw [List.length_append] at hm
      exact (fits_of_delayAfter htransient hdelay).base_mono hfits hbase hm.le hplain hplain'

theorem Suffers.sum_delays_le (h : Suffers sur r flag onRetry operation past a ss f) (hbase : 0 ≤ r.policy.baseDelay)
    (hmax : 0 ≤ r.policy.maxDelay) (hjitter : ∀ o, 0 ≤ (sur.jitter o).1 ∧ (sur.jitter o).1 < 1)
    (hlength : ss.length < most) :
    (ss.map Setback.delay).sum ≤ (most - 1) * max (2 * r.policy.maxDelay) r.policy.maxResetWait := by
  have hdelays : ∀ x ∈ ss.map Setback.delay, x ≤ max (2 * r.policy.maxDelay) r.policy.maxResetWait := by
    intro x hx
    obtain ⟨s, hs, rfl⟩ := List.mem_map.mp hx
    obtain ⟨n, o, -, hfits⟩ := h.exists_fits hs
    exact hfits.delay_le (hjitter o) hbase hmax
  have hcount : (ss.length : Rat) ≤ most - 1 := by
    have hsucc : ((ss.length + 1 : Nat) : Rat) ≤ most := Nat.cast_le.mpr hlength
    push_cast at hsucc
    linarith
  have hbound : 0 ≤ max (2 * r.policy.maxDelay) r.policy.maxResetWait := le_max_of_le_left (by linarith)
  calc (ss.map Setback.delay).sum
      ≤ (ss.map Setback.delay).length • max (2 * r.policy.maxDelay) r.policy.maxResetWait :=
        List.sum_le_card_nsmul _ _ hdelays
    _ = ss.length * max (2 * r.policy.maxDelay) r.policy.maxResetWait := by rw [List.length_map, nsmul_eq_mul]
    _ ≤ (most - 1) * max (2 * r.policy.maxDelay) r.policy.maxResetWait := mul_le_mul_of_nonneg_right hcount hbound

theorem Calls.unique {n' : Nat} {x x' : Except (Fault Rat) α} (h : Calls sur flag operation ss a n x b)
    (h' : Calls sur flag operation ss a n' x' c) : n' = n ∧ x' = x ∧ c = b := by
  obtain ⟨rfl, -, hcomes⟩ := h
  obtain ⟨rfl, -, hcomes'⟩ := h'
  exact ⟨rfl, hcomes.unique hcomes'⟩

/-- A run that is asked for too long a wait ends at once. -/
theorem Closes.refused {y : Except (Fault Rat) α} (h : Closes sur r flag onRetry operation most ss a y f)
    (hcall : Calls sur flag operation ss a n (.error fault) b)
    (hasked : fault.askedWait? (sur.now b.world.outside) = some wait) (hlong : r.policy.maxResetWait < wait) :
    y = .error (fault.refusal (sur.now b.world.outside) wait) ∧
      f = Scene.attempting ⟨b.session, (b.world.perform sur .clock).2⟩
        ((Attempts.after .inProgress n ss).failed (fault.refusal (sur.now b.world.outside) wait)) := by
  have hrefused := comesTo_delayAfter_long (r := r) (n := n) hasked hlong
  obtain ⟨text, status, resetAt, retryAfter, rfl⟩ := Fault.exists_rateLimited hasked
  -- any other end would take another last call, or another wait after it
  cases h with
  | @abandoned _ s _ _ _ _ hcall' _ _ hdelay =>
      obtain ⟨fault, base, delay⟩ := s
      obtain ⟨rfl, ⟨⟩, rfl⟩ := hcall.unique hcall'
      cases (hdelay.unique hrefused).1
  | settled h =>
      cases h with
      | value hcall' => cases (hcall.unique hcall').2.1
      | fault hcall' htransient =>
          obtain ⟨rfl, ⟨⟩, rfl⟩ := hcall.unique hcall'
          cases htransient
      | exhausted hcall' _ _ hdelay =>
          obtain ⟨rfl, ⟨⟩, rfl⟩ := hcall.unique hcall'
          cases (hdelay.unique hrefused).1
      | interrupted hcall' hordinary =>
          obtain ⟨rfl, ⟨⟩, rfl⟩ := hcall.unique hcall'
          cases hordinary
      | refused hcall' _ hdelay =>
          obtain ⟨rfl, ⟨⟩, rfl⟩ := hcall.unique hcall'
          obtain ⟨⟨⟩, rfl⟩ := hdelay.unique hrefused
          exact ⟨rfl, rfl⟩
      | stopped hraised =>
          have hunraised := hcall.unraised
          simp [hraised] at hunraised

section

variable
  (hoperation : ∀ a : Scene σ Rat Q, ∃ x b, operation.ComesTo sur a x b ∧ b.session.attempts = a.session.attempts)
  (hlisten : ∀ n delay fault (a : Scene σ Rat Q), ∃ x b,
    (onRetry n delay fault).ComesTo sur a x b ∧ b.session.attempts = a.session.attempts)

include hoperation hlisten

/-- Each setback of a run has the wait that its number and its fault tell, and this is what the run sleeps after it. A
run that is asked for too long a wait ends at once. The waits after ordinary troubles do not shrink, their random parts
apart, and the sum of all waits is bounded. -/
theorem attempt_keeps_its_waits (r : Retry Rat) (flag : Option Flag) (a : Scene σ Rat Q) {most : Nat} (hmost : 1 ≤ most)
    (hpolicy : r.policy.maxAttempts = .number most) (hbase : 0 ≤ r.policy.baseDelay) (hmax : 0 ≤ r.policy.maxDelay)
    (hjitter : ∀ o, 0 ≤ (sur.jitter o).1 ∧ (sur.jitter o).1 < 1) :
    ∃ ss b y f, (r.attempt flag onRetry operation).ComesTo sur a y f ∧
      Suffers sur r flag onRetry operation [] (a.attempting .start) ss b ∧
      Closes sur r flag onRetry operation most ss b y f ∧
      (∀ before s rest, ss = before ++ s :: rest → ∃ a' c d e,
        Suffers sur r flag onRetry operation [] (a.attempting .start) before a' ∧
        Calls sur flag operation before a' (before.length + 1) (.error s.fault) c ∧
        s.Fits r.policy (before.length + 1) (sur.now c.world.outside) (sur.jitter c.world.outside).1 ∧
        (s.fault.isRateLimit = false → 0 < s.base → s.base ≤ s.delay ∧ s.delay < 2 * s.base) ∧
        (r.sleepOnly flag s.delay).ComesTo sur d (.ok ()) e ∧
        Suffers sur r flag onRetry operation (before ++ [s]) e rest b) ∧
      (∀ n fault c wait, Calls sur flag operation ss b n (.error fault) c →
        fault.askedWait? (sur.now c.world.outside) = some wait → r.policy.maxResetWait < wait →
        y = .error (fault.refusal (sur.now c.world.outside) wait) ∧
          f = Scene.attempting ⟨c.session, (c.world.perform sur .clock).2⟩
            ((Attempts.after .inProgress n ss).failed (fault.refusal (sur.now c.world.outside) wait))) ∧
      (ss.Pairwise fun s t => s.fault.isRateLimit = false → t.fault.isRateLimit = false → s.base ≤ t.base) ∧
      (ss.map Setback.delay).sum ≤ (most - 1) * max (2 * r.policy.maxDelay) r.policy.maxResetWait := by
  obtain ⟨ss, b, y, f, hattempt, hlength, hsuffers, hcloses⟩ :=
    exists_course hoperation hlisten r flag a hmost hpolicy
  refine ⟨ss, b, y, f, hattempt, hsuffers, hcloses, ?_, ?_, hsuffers.pairwise_bases hbase,
    hsuffers.sum_delays_le hbase hmax hjitter hlength⟩
  · rintro before s rest rfl
    obtain ⟨a', c, d, e, hbefore, hcall, -, hfits, hsleep, hrest⟩ := hsuffers.split
    exact ⟨a', c, d, e, hbefore, hcall, hfits, hfits.spread (hjitter _), hsleep, hrest⟩
  · intro n fault c wait hcall hasked hlong
    exact hcloses.refused hcall hasked hlong

end

theorem exists_comesTo_ask (sur : Surroundings σ Rat Q R) (q : Q) (a : Scene σ Rat Q) :
    ∃ x b, (ask q).ComesTo sur a x b ∧ b.session.attempts = a.session.attempts :=
  ⟨_, _, .ask q a, rfl⟩

theorem exists_comesTo_pure (sur : Surroundings σ Rat Q R) (a : Scene σ Rat Q) :
    ∃ x b, (pure () : Work Rat Q R Unit).ComesTo sur a x b ∧ b.session.attempts = a.session.attempts :=
  ⟨_, _, .pure () a, rfl⟩

/-- A service that is busy at first, then asks to be left alone for seven seconds, and then has a value. -/
def busyThenLimited : Surroundings Surroundings.Hours Rat Unit Nat :=
  .quiet fun _ served => match served with
    | 0 => .error (.transient "busy" none)
    | 1 => .error (.rateLimited "slow down" (some 429) (some 100) (some 7))
    | _ => .ok 7

theorem run_attempt_busyThenLimited :
    (((⟨.usual, true⟩ : Retry Rat).attempt none (fun _ _ _ => pure ()) (ask ())).run busyThenLimited .start
      (.start ⟨0, 0, false⟩ ⟨0, [], 0⟩)).1.map (fun x => (x.1.toOption, x.2.attempts.map Attempts.delays)) =
    some (some 7, some [1, 7]) := by
  decide +kernel

/-- One second after the first attempt, seven after the second one. -/
theorem attempt_keeps_its_waits_of_busyThenLimited :
    let r : Retry Rat := ⟨.usual, true⟩
    let a : Scene Surroundings.Hours Rat Unit := ⟨.start, .start ⟨0, 0, false⟩ ⟨0, [], 0⟩⟩
    ∃ ss b f, (r.attempt none (fun _ _ _ => pure ()) (ask ())).ComesTo busyThenLimited a (.ok 7) f ∧
      Suffers busyThenLimited r none (fun _ _ _ => pure ()) (ask ()) [] (a.attempting .start) ss b ∧
      ss.map Setback.delay = [1, 7] ∧ (ss.map Setback.delay).sum ≤ (5 - 1) * max (2 * 60) 900 := by
  intro r a
  have hfive : 1 ≤ 5 := by decide
  have hpolicy : r.policy.maxAttempts = .number (5 : Nat) ∧ r.policy.baseDelay = 1 ∧ r.policy.maxDelay = 60 ∧
    r.policy.maxResetWait = 900 := ⟨rfl, rfl, rfl, rfl⟩
  obtain ⟨ss, b, y, f, hattempt, hsuffers, hcloses, -, -, -, hsum⟩ :=
    attempt_keeps_its_waits (exists_comesTo_ask busyThenLimited ()) (fun _ _ _ => exists_comesTo_pure busyThenLimited)
      r none a hfive hpolicy.1 (by rw [hpolicy.2.1]; norm_num) (by rw [hpolicy.2.2.1]; norm_num)
      (fun _ => ⟨le_refl (0 : Rat), zero_lt_one⟩)
  have hrun := run_attempt_busyThenLimited
  rw [show _ = _ from hattempt] at hrun
  cases hcloses with
  | abandoned => cases hrun
  | settled h =>
      cases h with
      | @value n v c hcall =>
          have heq : some (some v, some (ss.map Setback.delay)) = some (some 7, some [1, 7]) := hrun
          simp only [Option.some.injEq, Prod.mk.injEq] at heq
          obtain ⟨rfl, hdelays⟩ := heq
          exact ⟨ss, b, _, hattempt, hsuffers, hdelays, hsum⟩
      | _ => cases hrun

/-! ## When a refused run may be tried again -/

/-- The time that a refusal tells is late enough unless the service tells when its limit ends, and this is earlier than
the wait in seconds that it asks for, or past. -/
theorem le_refusal_iff {now : Rat} {text : String} {status : Option Int} {resetAt retryAfter : Option Rat}
    (hasked : (Fault.rateLimited text status resetAt retryAfter).askedWait? now = some wait) :
    now + wait ≤ resetAt.getD (now + wait) ↔ ∀ reset, resetAt = some reset → now + retryAfter.getD 0 ≤ reset := by
  cases resetAt with
  | none => simp
  | some reset =>
      cases retryAfter with
      | some w =>
          cases hasked
          simp
      | none =>
          cases hasked
          simp only [Option.getD_some, Option.getD_none, Option.some.injEq, forall_eq']
          constructor
          · intro h
            linarith [le_max_right (reset - now) 0]
          · intro h
            rw [max_eq_left (by linarith)]
            linarith

/-- A run that is given up because the service asks for too long a wait tells a time at which this wait is over just
when the service tells no end of its limit that is earlier. -/
theorem refused_run_honours_wait_iff
    (hoperation : ∀ a : Scene σ Rat Q, ∃ x b, operation.ComesTo sur a x b ∧ b.session.attempts = a.session.attempts)
    (hlisten : ∀ n delay fault (a : Scene σ Rat Q), ∃ x b,
      (onRetry n delay fault).ComesTo sur a x b ∧ b.session.attempts = a.session.attempts)
    (r : Retry Rat) (flag : Option Flag) (a : Scene σ Rat Q) {most : Nat} (hmost : 1 ≤ most)
    (hpolicy : r.policy.maxAttempts = .number most) :
    ∃ ss b y f, (r.attempt flag onRetry operation).ComesTo sur a y f ∧
      Suffers sur r flag onRetry operation [] (a.attempting .start) ss b ∧
      Closes sur r flag onRetry operation most ss b y f ∧
      ∀ n text status resetAt retryAfter c wait,
        Calls sur flag operation ss b n (.error (.rateLimited text status resetAt retryAfter)) c →
        (Fault.rateLimited text status resetAt retryAfter).askedWait? (sur.now c.world.outside) = some wait →
        r.policy.maxResetWait < wait →
        ∃ told, y = .error (.overBudget told 0 coreResource) ∧ (sur.now c.world.outside + wait ≤ told ↔
          ∀ reset, resetAt = some reset → sur.now c.world.outside + retryAfter.getD 0 ≤ reset) := by
  obtain ⟨ss, b, y, f, hattempt, -, hsuffers, hcloses⟩ := exists_course hoperation hlisten r flag a hmost hpolicy
  refine ⟨ss, b, y, f, hattempt, hsuffers, hcloses, ?_⟩
  intro n text status resetAt retryAfter c wait hcall hasked hlong
  exact ⟨_, (hcloses.refused hcall hasked hlong).1, le_refusal_iff hasked⟩

/-- A service that always asks to be left alone for so long, and may tell when its limit ends. -/
def limited (resetAt : Option Rat) (wait : Rat) : Surroundings Surroundings.Hours Rat Unit Nat :=
  .quiet fun _ _ => .error (.rateLimited "slow down" (some 429) resetAt (some wait))

/-- The usual policy waits for a quarter of an hour, but not for a thousand seconds. -/
theorem refused_run_honours_wait_of_limited :
    let a : Scene Surroundings.Hours Rat Unit := ⟨.start, .start ⟨0, 0, false⟩ ⟨0, [], 0⟩⟩
    ∃ told f, ((⟨.usual, true⟩ : Retry Rat).attempt none (fun _ _ _ => pure ()) (ask ())).ComesTo
      (limited (some 2000) 1000) a (.error (.overBudget told 0 coreResource)) f ∧ 0 + 1000 ≤ told := by
  intro a
  have hfive : 1 ≤ 5 := by decide
  have hlong : (RetryPolicy.usual : RetryPolicy Rat).maxResetWait < 1000 := by
    show (900 : Rat) < 1000
    norm_num
  have hasked (now : Rat) : (Fault.rateLimited "slow down" (some 429) (some 2000) (some 1000)).askedWait? now =
    some (1000 : Rat) := rfl
  obtain ⟨ss, b, y, f, hattempt, hsuffers, -, hrefused⟩ :=
    refused_run_honours_wait_iff (exists_comesTo_ask (limited (some 2000) 1000) ())
      (fun _ _ _ => exists_comesTo_pure _) (⟨.usual, true⟩ : Retry Rat) none a hfive rfl
  -- the wait after the first attempt is refused already
  cases hsuffers with
  | @cons _ _ s _ _ b _ _ _ _ hcall _ hdelay =>
      obtain ⟨fault, base, delay⟩ := s
      obtain ⟨⟨⟩, rfl⟩ := (ComesTo.ask () _).unique hcall.comesTo
      cases (hdelay.unique (comesTo_delayAfter_long (hasked _) hlong)).1
  | nil =>
      obtain ⟨told, rfl, htold⟩ := hrefused 1 _ _ _ _ _ _ ⟨rfl, rfl, .ask () _⟩ (hasked _) hlong
      refine ⟨told, f, hattempt, htold.mpr ?_⟩
      rintro _ ⟨⟩
      show (0 : Rat) + 1000 ≤ 2000
      norm_num

/-- Until when work is refused that ends with this. -/
def refusedUntil? : Except (Fault Rat) α → Option Rat
  | .error (.overBudget told _ _) => some told
  | _ => none

/-- At the time zero the service asks for a thousand seconds, and its window ends after sixty. The run is given up at
this time, and tells that it may be tried again after sixty seconds. -/
theorem refused_run_tells_early_reset :
    let w : World Surroundings.Hours Rat Unit := .start ⟨0, 0, false⟩ ⟨0, [], 0⟩
    let run := ((⟨.usual, true⟩ : Retry Rat).attempt none (fun _ _ _ => pure ()) (ask ())).run
      (limited (some 60) 1000) .start w
    (Fault.rateLimited "slow down" (some 429) (some 60) (some 1000)).askedWait? 0 = some 1000 ∧
      (RetryPolicy.usual : RetryPolicy Rat).maxResetWait < 1000 ∧
      run.2.outside.time = 0 ∧ run.2.outside.served = 1 ∧
      (run.1.map fun x => refusedUntil? x.1) = some (some 60) ∧ ¬ (0 : Rat) + 1000 ≤ 60 := by
  decide +kernel

end Retry

end RepoCensus
