import RepoCensus.Proofs.Numeral.PowerOfTwo
import RepoCensus.Proofs.Retry.Course

/-!
# Waits that double, in doubles

The wait after an attempt is a product of a double and a power of two, and only the product is bounded. The product may
become an infinity, which does no harm; but beyond a certain number there is no double for the power itself.

Main statement: the wait before a retry is the exact one, doubled and bounded, for all retries up to the number 1023,
and then it is an overflow. An operation that fails again and again in a passing way is tried as often as the policy
allows exactly if there was no ordinary trouble after the attempt number 1024.
-/

namespace RepoCensus

open RepoCensus.Calendar RepoCensus.Numeral

/-! ## One wait -/

namespace RetryPolicy

/-- A policy that is accepted, with delays that are numbers of seconds. -/
structure Accepted (p : RetryPolicy Float) (most : Nat) (base bound : Rat) : Prop where
  attempts : p.maxAttempts = .number most
  checked : p.checked = .ok p
  baseDelay : (Double.value p.baseDelay).toRat? = some base
  base_nonneg : 0 ≤ base
  maxDelay : (Double.value p.maxDelay).toRat? = some bound
  bound_nonneg : 0 ≤ bound

variable {p : RetryPolicy Float} {most n m : Nat} {base bound : Rat}

theorem Accepted.one_le (h : p.Accepted most base bound) : 1 ≤ most := by
  by_contra hmost
  obtain rfl : most = 0 := by omega
  have hbelow : (Amount.number (0 : Nat)).isBelow 1 = true := by
    rw [Amount.isBelow_number]
    rfl
  have hchecked := h.checked
  rw [RetryPolicy.checked, h.attempts] at hchecked
  simp only [Amount.atLeast, Fault.lift, bind, Except.bind, hbelow, if_true] at hchecked
  cases hchecked

theorem backoff_overflow (p : RetryPolicy Float) (hn : 1024 ≤ n) : p.backoff n = .error (.tooLarge .double) := by
  have hpower : Seconds.powerOfTwo? (τ := Float) n = none := Double.powerOfTwo?_eq_none hn
  rw [backoff, hpower]

/-- The wait before a retry, as long as there is a double for the power of two. -/
theorem Accepted.exists_backoff (h : p.Accepted most base bound) (hn : n < 1024) :
    ∃ d, p.backoff n = .ok d ∧ (Double.value d).toRat? = some (min (base * 2 ^ n) bound) := by
  obtain ⟨factor, hpower, hfactor⟩ := Double.exists_powerOfTwo? hn
  have hpower : Seconds.powerOfTwo? (τ := Float) n = some factor := hpower
  refine ⟨Seconds.lesser (p.baseDelay * factor) p.maxDelay, by rw [backoff, hpower], ?_⟩
  rcases Double.mul_two_pow h.baseDelay h.base_nonneg hfactor with hproduct | ⟨hinfinite, hlarge⟩
  · rcases le_or_gt (base * 2 ^ n) bound with hle | hlt
    · have hless : ¬ p.maxDelay < p.baseDelay * factor := fun hlt =>
        absurd ((Double.lt_iff h.maxDelay hproduct).mp hlt) (not_lt.mpr hle)
      rw [min_eq_left hle, ← hproduct]
      exact congrArg (fun d => (Double.value d).toRat?) (if_neg hless)
    · have hless : p.maxDelay < p.baseDelay * factor := (Double.lt_iff h.maxDelay hproduct).mpr hlt
      rw [min_eq_right hlt.le, ← h.maxDelay]
      exact congrArg (fun d => (Double.value d).toRat?) (if_pos hless)
  -- the product is an infinity, and the bound is less
  · have hless : p.maxDelay < p.baseDelay * factor := Double.lt_infinity h.maxDelay hinfinite
    rw [min_eq_right ((Double.lt_two_pow h.maxDelay).le.trans hlarge), ← h.maxDelay]
    exact congrArg (fun d => (Double.value d).toRat?) (if_pos hless)

theorem Accepted.lt_of_backoff (h : p.Accepted most base bound) {d : Float} (hd : p.backoff n = .ok d) :
    n < 1024 ∧ (Double.value d).toRat? = some (min (base * 2 ^ n) bound) := by
  by_cases hn : n < 1024
  · obtain ⟨d', hd', hvalue⟩ := h.exists_backoff hn
    rw [hd'] at hd
    cases hd
    exact ⟨hn, hvalue⟩
  · rw [backoff_overflow p (Nat.le_of_not_lt hn)] at hd
    cases hd

theorem Accepted.backoff_le_maxDelay (h : p.Accepted most base bound) {d : Float} (hd : p.backoff n = .ok d) :
    d ≤ p.maxDelay :=
  (Double.le_iff (h.lt_of_backoff hd).2 h.maxDelay).mpr (min_le_right _ _)

theorem Accepted.backoff_mono (h : p.Accepted most base bound) (hle : n ≤ m) {d d' : Float} (hd : p.backoff n = .ok d)
    (hd' : p.backoff m = .ok d') : d ≤ d' := by
  refine (Double.le_iff (h.lt_of_backoff hd).2 (h.lt_of_backoff hd').2).mpr (min_le_min_right bound ?_)
  exact mul_le_mul_of_nonneg_left (pow_le_pow_right₀ (by decide) hle) h.base_nonneg

/-- The wait that a fault asks for is granted at any time. -/
def Grants (p : RetryPolicy Float) : Fault Float → Prop
  | .rateLimited _ _ resetAt retryAfter => ∀ now, ∃ wait, p.limitWait now resetAt retryAfter = .ok wait
  | _ => True

end RetryPolicy

/-! ## A run of attempts -/

namespace Retry

open Work

variable {σ Q R α : Type} {sur : Surroundings σ Float Q R} {r : Retry Float} {flag : Option Flag}
  {onRetry : RetryListener Float Q R} {operation : Work Float Q R α} {a b : Scene σ Float Q}
  {past ss : List (Setback Float)} {n most : Nat} {base bound : Rat} {fault : Fault Float}

theorem delayAfter_of_plain (hplain : fault.isRateLimit = false) (n : Nat) :
    (r.delayAfter (n + 1) fault : Work Float Q R _) = (do
      let base ← ofExcept (Fault.lift (r.policy.backoff n))
      let u ← jitter
      return (base, base + u * base)) := by
  have hnumber : ((n + 1 : Nat) : Int) - 1 = n := by omega
  rw [← hnumber]
  cases fault <;> first | rfl | cases hplain

theorem delayAfter_overflow (r : Retry Float) (hplain : fault.isRateLimit = false) (hn : 1024 ≤ n)
    (a : Scene σ Float Q) :
    (r.delayAfter (n + 1) fault : Work Float Q R _).ComesTo sur a (.error (.anomaly (.tooLarge .double))) a := by
  rw [delayAfter_of_plain hplain, RetryPolicy.backoff_overflow r.policy hn]
  exact (ComesTo.ofExcept _ a).bind_error

theorem exists_delayAfter_of_lt (haccepted : r.policy.Accepted most base bound) (hplain : fault.isRateLimit = false)
    (hn : n < 1024) (a : Scene σ Float Q) :
    ∃ d b, (r.delayAfter (n + 1) fault : Work Float Q R _).ComesTo sur a (.ok d) b := by
  obtain ⟨d, hd, -⟩ := haccepted.exists_backoff hn
  rw [delayAfter_of_plain hplain, hd]
  exact ⟨_, _, (ComesTo.ofExcept _ a).bind ((ComesTo.act .jitter a).bind (.pure _ _))⟩

theorem exists_delayAfter_of_grants (hgrants : r.policy.Grants fault) (hlimit : fault.isRateLimit = true) (n : Nat)
    (a : Scene σ Float Q) : ∃ d b, (r.delayAfter n fault : Work Float Q R _).ComesTo sur a (.ok d) b := by
  cases fault with
  | rateLimited text status resetAt retryAfter =>
      obtain ⟨wait, hwait⟩ := hgrants (a.world.perform sur .clock).1
      exact ⟨_, _, (ComesTo.act .clock a).bind ((ComesTo.ofExcept_of_eq hwait _).bind (.pure _ _))⟩
  | _ => cases hlimit

/-- The wait after an ordinary trouble is worked out only up to the attempt number 1024. -/
theorem lt_of_delayAfter {d : Float × Float} (hplain : fault.isRateLimit = false)
    (h : (r.delayAfter (n + 1) fault).ComesTo sur a (.ok d) b) : n < 1024 := by
  by_contra hn
  cases (h.unique (delayAfter_overflow r hplain (Nat.le_of_not_lt hn) a)).1

/-- A wait that is not worked out is an overflow after an ordinary trouble, unless the wait is refused. -/
theorem overflow_of_delayAfter {refusal : Fault Float} (haccepted : r.policy.Accepted most base bound)
    (hgrants : r.policy.Grants fault) (h : (r.delayAfter (n + 1) fault).ComesTo sur a (.error refusal) b) :
    fault.isRateLimit = false ∧ 1024 ≤ n ∧ refusal = .anomaly (.tooLarge .double) := by
  cases hlimit : fault.isRateLimit with
  | true =>
      obtain ⟨d, c, hd⟩ := exists_delayAfter_of_grants hgrants hlimit (n + 1) a
      cases (h.unique hd).1
  | false =>
      rcases Nat.lt_or_ge n 1024 with hn | hn
      · obtain ⟨d, c, hd⟩ := exists_delayAfter_of_lt haccepted hlimit hn a
        cases (h.unique hd).1
      · cases (h.unique (delayAfter_overflow r hlimit hn a)).1
        exact ⟨rfl, hn, rfl⟩

/-- After the attempt number 1024 there are no setbacks but denials. -/
theorem Suffers.isRateLimit (h : Suffers sur r flag onRetry operation past a ss b) :
    ∀ fault ∈ (ss.map Setback.fault).drop (1024 - past.length), fault.isRateLimit = true := by
  -- on the setbacks; each of them counts as past for those that follow it
  induction h with
  | nil past a => simp
  | @cons past rest s n a b c d e f hcall htransient hdelay htold hsleep hcounts hrest ih =>
      rw [List.length_append, List.length_singleton] at ih
      intro fault hfault
      rcases Nat.lt_or_ge past.length 1024 with hpast | hpast
      · have hdrop : 1024 - past.length = 1024 - (past.length + 1) + 1 := by omega
        rw [List.map_cons, hdrop, List.drop_succ_cons] at hfault
        exact ih fault hfault
      · rw [Nat.sub_eq_zero_of_le hpast, List.drop_zero, List.map_cons, List.mem_cons] at hfault
        rcases hfault with rfl | hfault
        · cases hlimit : s.fault.isRateLimit with
          | true => rfl
          | false =>
              rw [hcall.number] at hdelay
              exact absurd (lt_of_delayAfter hlimit hdelay) (Nat.not_lt.mpr hpast)
        · rw [Nat.sub_eq_zero_of_le (by omega), List.drop_zero] at ih
          exact ih fault hfault

/-- All troubles of a run after the attempt number 1024 are denials, the last one included. -/
theorem denied_after_iff (h : Suffers sur r flag onRetry operation [] a ss b) (last : Fault Float) :
    (∀ fault ∈ (ss.map Setback.fault ++ [last]).drop 1024, fault.isRateLimit = true) ↔
      (last.isRateLimit = false → ss.length < 1024) := by
  have hsetbacks : ∀ fault ∈ (ss.map Setback.fault).drop 1024, fault.isRateLimit = true := h.isRateLimit
  rw [List.drop_append, List.length_map]
  rcases Nat.lt_or_ge ss.length 1024 with hlt | hge
  · rw [List.drop_of_length_le (l := [last]) (by simp; omega), List.append_nil]
    exact ⟨fun _ _ => hlt, fun _ => hsetbacks⟩
  · rw [Nat.sub_eq_zero_of_le hge, List.drop_zero]
    constructor
    · intro hall hplain
      have hlast := hall last (List.mem_append_right _ (List.mem_singleton.mpr rfl))
      rw [hplain] at hlast
      cases hlast
    · intro hlast fault hfault
      rcases List.mem_append.mp hfault with hfault | hfault
      · exact hsetbacks fault hfault
      · rw [List.mem_singleton.mp hfault, ← Bool.not_eq_false]
        exact fun hplain => absurd (hlast hplain) (Nat.not_lt.mpr hge)

section

variable (hoperation : ∀ a : Scene σ Float Q, ∃ fault b, operation.ComesTo sur a (.error fault) b ∧
    b.session.attempts = a.session.attempts ∧ fault.isTransient = true ∧ r.policy.Grants fault)
  (hlisten : ∀ n delay fault (a : Scene σ Float Q), ∃ b,
    (onRetry n delay fault).ComesTo sur a (.ok ()) b ∧ b.session.attempts = a.session.attempts)

include hoperation

theorem Calls.trouble {x : Except (Fault Float) α} (hcall : Calls sur flag operation past a n x b) :
    ∃ fault, x = .error fault ∧ fault.isTransient = true ∧ r.policy.Grants fault := by
  obtain ⟨fault, b', hcomes, -, htransient, hgrants⟩ := hoperation _
  exact ⟨fault, (hcomes.unique hcall.comesTo).1, htransient, hgrants⟩

/-- A run of passing troubles is stopped, or uses up all attempts, or meets with the overflow; all attempts are used up
exactly if the troubles after the attempt number 1024 are denials. -/
theorem Suffers.ends_of_settles (haccepted : r.policy.Accepted most base bound)
    (hsuffers : Suffers sur r flag onRetry operation [] a ss b) {y : Except (Fault Float) α} {c : Scene σ Float Q}
    (h : Settles sur r flag operation most ss b y c) :
    ∃ fault, y = .error fault ∧ (b.isRaised sur flag = true ∧ fault = .stopped ∨
      ∃ last e, Calls sur flag operation ss b (ss.length + 1) (.error last) e ∧
        (fault = .gaveUp last most ∧ ss.length + 1 = most ∨ fault = .anomaly (.tooLarge .double) ∧ 1024 ≤ ss.length) ∧
        (fault = .gaveUp last most ↔
          ∀ fault ∈ (ss.map Setback.fault ++ [last]).drop 1024, fault.isRateLimit = true)) := by
  cases h with
  | value hcall =>
      obtain ⟨_, ⟨⟩, -⟩ := hcall.trouble hoperation
  | fault hcall htransient =>
      obtain ⟨_, ⟨⟩, htransient', -⟩ := hcall.trouble hoperation
      rw [htransient'] at htransient
      cases htransient
  | exhausted hcall htransient hmost hdelay =>
      obtain rfl := hcall.number
      obtain rfl := hmost
      refine ⟨_, rfl, .inr ⟨_, _, hcall, .inl ⟨rfl, rfl⟩, ?_⟩⟩
      rw [denied_after_iff hsuffers]
      exact iff_of_true rfl fun hplain => lt_of_delayAfter hplain hdelay
  | interrupted hcall hordinary =>
      obtain ⟨_, ⟨⟩, htransient, -⟩ := hcall.trouble hoperation
      rw [Fault.isOrdinary_of_isTransient htransient] at hordinary
      cases hordinary
  | refused hcall htransient hdelay =>
      obtain rfl := hcall.number
      obtain ⟨_, ⟨⟩, -, hgrants⟩ := hcall.trouble hoperation
      obtain ⟨hplain, hn, rfl⟩ := overflow_of_delayAfter haccepted hgrants hdelay
      refine ⟨_, rfl, .inr ⟨_, _, hcall, .inr ⟨rfl, hn⟩, ?_⟩⟩
      rw [denied_after_iff hsuffers]
      exact iff_of_false nofun fun hlast => absurd (hlast hplain) (Nat.not_lt.mpr hn)
  | stopped hraised => exact ⟨_, rfl, .inl ⟨hraised, rfl⟩⟩

include hlisten

/-- The waits of an accepted policy do not shrink, do not exceed the bound, and overflow from the retry number 1024 on.
An operation whose every call meets with a passing trouble, where the service asks for no wait that is refused, is tried
until all attempts are used up, unless the run is stopped, exactly if each trouble after the attempt number 1024 is a
denial; else it ends with the overflow. -/
theorem tries_all_attempts_iff (haccepted : r.policy.Accepted most base bound) (flag : Option Flag)
    (a : Scene σ Float Q) :
    (∀ n : Nat, 1024 ≤ n → r.policy.backoff n = .error (.tooLarge .double)) ∧
      (∀ n : Nat, n < 1024 → ∃ d, r.policy.backoff n = .ok d ∧
        (Double.value d).toRat? = some (min (base * 2 ^ n) bound) ∧ d ≤ r.policy.maxDelay ∧
        ∀ m : Nat, n ≤ m → ∀ d', r.policy.backoff m = .ok d' → d ≤ d') ∧
      ∃ ss b y c, (r.attempt flag onRetry operation).ComesTo sur a (.error y) c ∧
        Suffers sur r flag onRetry operation [] (a.attempting .start) ss b ∧ ss.length < most ∧
        (b.isRaised sur flag = true ∧ y = .stopped ∨
          ∃ last e, Calls sur flag operation ss b (ss.length + 1) (.error last) e ∧
            (y = .gaveUp last most ∧ ss.length + 1 = most ∨ y = .anomaly (.tooLarge .double) ∧ 1024 ≤ ss.length) ∧
            (y = .gaveUp last most ↔
              ∀ fault ∈ (ss.map Setback.fault ++ [last]).drop 1024, fault.isRateLimit = true)) := by
  refine ⟨fun n hn => RetryPolicy.backoff_overflow _ hn, fun n hn => ?_, ?_⟩
  · obtain ⟨d, hd, hvalue⟩ := haccepted.exists_backoff hn
    exact ⟨d, hd, hvalue, haccepted.backoff_le_maxDelay hd, fun m hle d' => haccepted.backoff_mono hle hd⟩
  have hends : ∀ a : Scene σ Float Q, ∃ x b, operation.ComesTo sur a x b ∧ b.session.attempts = a.session.attempts :=
    fun a => by
      obtain ⟨fault, b, hcomes, hrecord, -⟩ := hoperation a
      exact ⟨_, b, hcomes, hrecord⟩
  obtain ⟨ss, b, y, c, hattempt, hlength, hsuffers, hcloses⟩ := exists_course hends
    (fun n delay fault a => ⟨.ok (), hlisten n delay fault a⟩) r flag a haccepted.one_le haccepted.attempts
  cases hcloses with
  | settled hsettles =>
      obtain ⟨fault, rfl, hend⟩ := hsuffers.ends_of_settles hoperation haccepted hsettles
      exact ⟨ss, b, fault, c, hattempt, hsuffers, hlength, hend⟩
  | abandoned _ _ _ _ htold =>
      obtain ⟨d, hd, -⟩ := hlisten _ _ _ _
      cases (htold.unique hd).1

end

/-- A policy of one attempt more than there are powers of two. -/
def overlong : RetryPolicy Float := ⟨.number 1025, 1, 60, 900⟩

theorem accepted_overlong : overlong.Accepted 1025 1 60 where
  attempts := rfl
  checked := rfl
  baseDelay := by decide +kernel
  base_nonneg := by decide
  maxDelay := by decide +kernel
  bound_nonneg := by decide

/-- Surroundings in which nothing ever changes. -/
def stillness : Surroundings Unit Float Unit Unit where
  clock o := (0, o)
  jitter o := (0, o)
  cancelled _ := false
  sleep _ o := o
  serve _ o := (.ok (), o)
  cancel o := o

theorem tries_all_attempts_iff_of_overlong :
    let busy : Fault Float := .transient "busy" none
    let a : Scene Unit Float Unit := ⟨.start, .start () ⟨0, [], 0⟩⟩
    ∃ c, ((⟨overlong, true⟩ : Retry Float).attempt none (fun _ _ _ => pure ()) (throw busy) :
      Work Float Unit Unit Unit).ComesTo stillness a (.error (.anomaly (.tooLarge .double))) c := by
  intro busy a
  have hoperation : ∀ a : Scene Unit Float Unit, ∃ fault b, (throw busy : Work Float Unit Unit Unit).ComesTo stillness a
      (.error fault) b ∧ b.session.attempts = a.session.attempts ∧ fault.isTransient = true ∧ overlong.Grants fault :=
    fun a => ⟨busy, a, .throw busy a, rfl, rfl, trivial⟩
  have hlisten : ∀ (n : Nat) (delay : Float) (fault : Fault Float) a, ∃ b,
      (pure () : Work Float Unit Unit Unit).ComesTo stillness a (.ok ()) b ∧ b.session.attempts = a.session.attempts :=
    fun _ _ _ a => ⟨a, .pure () a, rfl⟩
  obtain ⟨-, -, ss, b, y, c, hattempt, -, -, ⟨hraised, -⟩ | ⟨last, e, hcall, hend, hiff⟩⟩ :=
    tries_all_attempts_iff (r := ⟨overlong, true⟩) hoperation hlisten accepted_overlong none a
  · cases hraised
  · rcases hend with ⟨hgaveUp, hmost⟩ | ⟨rfl, -⟩
    -- the last trouble is no denial, and all attempts are too many
    · have hlast := hiff.mp hgaveUp last (by
        rw [List.drop_left' (by simp; omega)]
        exact List.mem_singleton.mpr rfl)
      cases (hcall.comesTo.unique (.throw busy _)).1
      cases hlast
    · exact ⟨c, hattempt⟩

/-- The last retry that the policy allows has no wait, although the bound is a minute. -/
theorem last_wait_overflows :
    overlong.Accepted 1025 1 60 ∧ overlong.backoff ((1025 : Nat) - 1 : Nat) = .error (.tooLarge .double) :=
  ⟨accepted_overlong, rfl⟩

end Retry

end RepoCensus
