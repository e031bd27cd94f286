import RepoCensus.Proofs.Retry.Rounds

/-!
# The schedule of a run of attempts

A run records the waits that it works out. Main statement: these are its sleeps between attempts, in order, and one wait
more if the run ends after a wait was worked out, because no attempt is left or because the caller who is told ends it.
-/

namespace RepoCensus

open RepoCensus.Calendar

variable {τ Q R α : Type}

namespace Retry

open Work

/-- An attempt after which the run slept: the fault, the wait without and with its random part, and what was done by the
operation, by the caller who was told, and for the sleep. -/
structure Round (τ Q R : Type) where
  fault : Fault τ
  base : τ
  delay : τ
  called : List (Deed τ Q R)
  told : List (Deed τ Q R)
  slept : List (Deed τ Q R)

/-- The end of a run after its last sleep: what was done by the operation and by the caller who was told, and a wait,
without and with its random part, that was worked out but not slept. -/
structure Finish (τ Q R : Type) where
  called : List (Deed τ Q R)
  told : List (Deed τ Q R)
  unslept : Option (τ × τ)

/-- All the sleeps of a round. -/
def Round.waits (p : Round τ Q R) : List τ := Deed.waits p.called ++ Deed.waits p.told ++ Deed.waits p.slept

variable [Seconds τ]

section

variable (r : Retry τ) (flag : Option Flag) (onRetry : RetryListener τ Q R) (operation : Work τ Q R α)

structure IsRound (n : Nat) (p : Round τ Q R) : Prop where
  transient : p.fault.isTransient = true
  called : ∃ s s', operation.Does s p.called (.error p.fault) s'
  worked : ∃ s ds s', (r.delayAfter n p.fault : Work τ Q R (τ × τ)).Does s ds (.ok (p.base, p.delay)) s'
  told : ∃ s s', (onRetry n p.delay p.fault).Does s p.told (.ok ()) s'
  slept : ∃ s s', (r.sleepBetween flag p.delay).Does s p.slept (.ok ()) s'

/-- How a run ends with the attempt number `n`, if `most` attempts are allowed. -/
inductive Finishes (most n : Nat) : Except (Fault τ) α → Finish τ Q R → Prop where
  | answered {x : Except (Fault τ) α} {called : List (Deed τ Q R)} {s s' : Session τ}
      (hcall : operation.Does s called x s') (hlasting : ∀ fault, x = .error fault → fault.isTransient = false) :
      Finishes most n x ⟨called, [], none⟩
  | refused {fault refusal : Fault τ} {called worked : List (Deed τ Q R)} {s t s' : Session τ}
      (hcall : operation.Does s called (.error fault) t) (htransient : fault.isTransient = true)
      (hwait : (r.delayAfter n fault : Work τ Q R (τ × τ)).Does t worked (.error refusal) s') :
      Finishes most n (.error refusal) ⟨called, [], none⟩
  | exhausted {fault : Fault τ} {base delay : τ} {called worked : List (Deed τ Q R)} {s t s' : Session τ}
      (hcall : operation.Does s called (.error fault) t) (htransient : fault.isTransient = true) (hmost : n = most)
      (hwait : (r.delayAfter n fault : Work τ Q R (τ × τ)).Does t worked (.ok (base, delay)) s') :
      Finishes most n (.error (.gaveUp fault n)) ⟨called, [], some (base, delay)⟩
  | abandoned {fault why : Fault τ} {base delay : τ} {called worked told : List (Deed τ Q R)} {s t u v s' : Session τ}
      (hcall : operation.Does s called (.error fault) t) (htransient : fault.isTransient = true) (hless : n < most)
      (hwait : (r.delayAfter n fault : Work τ Q R (τ × τ)).Does t worked (.ok (base, delay)) u)
      (htold : (onRetry n delay fault).Does v told (.error why) s') :
      Finishes most n (.error why) ⟨called, told, some (base, delay)⟩

/-- What a run records from the attempt number `n` on, and which sleeps there are. -/
structure Schedules (most n : Nat) (a a' : Attempts τ) (ds : List (Deed τ Q R)) (y : Except (Fault τ) α)
    (rounds : List (Round τ Q R)) (finish : Finish τ Q R) : Prop where
  isRound : ∀ i p, rounds[i]? = some p → r.IsRound flag onRetry operation (n + i) p
  finishes : r.Finishes onRetry operation most (n + rounds.length) y finish
  waits : Deed.waits ds = rounds.flatMap Round.waits ++ (Deed.waits finish.called ++ Deed.waits finish.told)
  baseDelays : a'.baseDelays = a.baseDelays ++ (rounds.map Round.base ++ (finish.unslept.map Prod.fst).toList)
  delays : a'.delays = a.delays ++ (rounds.map Round.delay ++ (finish.unslept.map Prod.snd).toList)

end

variable {r : Retry τ} {flag : Option Flag} {onRetry : RetryListener τ Q R} {operation : Work τ Q R α}
  {s s' t u : Session τ} {ds : List (Deed τ Q R)} {a : Attempts τ} {left n : Nat} {delay : τ}

/-! ## Round after round -/

section

variable (hoperation : ∀ s ds x s', operation.Does s ds x s' → s'.attempts = s.attempts)
  (hlisten : ∀ n delay fault s ds x s', (onRetry n delay fault).Does s ds x s' → s'.attempts = s.attempts)

omit [Seconds τ] in
theorem Minds.attempts {f : Attempts τ → Attempts τ} (h : Minds f s ds s') (hs : s.attempts = some a) :
    s'.attempts = some (f a) := by
  rw [h.record, hs]
  rfl

include hoperation in
omit [Seconds τ] in
theorem attempts_of_called {own called : List (Deed τ Q R)} {x : Except (Fault τ) α}
    (hbegun : Minds (Attempts.begun n) s own t) (hcall : operation.Does t called x u) (hs : s.attempts = some a) :
    u.attempts = some (a.begun n) := by
  rw [hoperation _ _ _ _ hcall]
  exact hbegun.attempts hs

include hoperation in
/-- The record of an attempt that met with a passing trouble, with the wait after it. -/
theorem Troubled.attempts {own called worked noted : List (Deed τ Q R)} {fault : Fault τ} {base delay : τ}
    {f : Attempts τ → Attempts τ} (h : Troubled r operation n s own called worked fault base delay t)
    (hnoted : Minds f t noted u) (hs : s.attempts = some a) : u.attempts = some (f (a.begun n)) := by
  obtain ⟨t₁, t₂, hbegun, hcall, hwait⟩ := h.course
  refine hnoted.attempts ?_
  rw [(looks_delayAfter hwait).1.record]
  exact attempts_of_called hoperation hbegun hcall hs

theorem Troubled.waits {own called worked noted : List (Deed τ Q R)} {fault : Fault τ} {base delay : τ}
    {f : Attempts τ → Attempts τ} (h : Troubled r operation n s own called worked fault base delay t)
    (hnoted : Minds f t noted u) (rest : List (Deed τ Q R)) :
    Deed.waits (own ++ called ++ worked ++ noted ++ rest) = Deed.waits called ++ Deed.waits rest := by
  obtain ⟨t₁, t₂, hbegun, hcall, hwait⟩ := h.course
  have hworked := Deed.waits_of_isOwn (looks_delayAfter hwait).1.own
  simp [Deed.waits_append, Deed.waits_of_isOwn hbegun.own, hworked, Deed.waits_of_isOwn hnoted.own]

theorem Schedules.cons {a₁ a' : Attempts τ} {most : Nat} {rest : List (Deed τ Q R)} {y : Except (Fault τ) α}
    {p : Round τ Q R} {rounds : List (Round τ Q R)} {finish : Finish τ Q R} (hp : r.IsRound flag onRetry operation n p)
    (hwaits : Deed.waits ds = p.waits ++ Deed.waits rest) (hbase : a₁.baseDelays = a.baseDelays ++ [p.base])
    (hdelay : a₁.delays = a.delays ++ [p.delay])
    (hrest : r.Schedules flag onRetry operation most (n + 1) a₁ a' rest y rounds finish) :
    r.Schedules flag onRetry operation most n a a' ds y (p :: rounds) finish where
  isRound i q hq := by
    cases i with
    | zero =>
        cases hq
        exact hp
    | succ i => exact Nat.add_right_comm n 1 i ▸ hrest.isRound i q hq
  finishes := by
    have hfinishes := hrest.finishes
    rwa [Nat.add_assoc, Nat.add_comm 1] at hfinishes
  waits := by
    rw [hwaits, hrest.waits, List.flatMap_cons, List.append_assoc]
  baseDelays := by
    rw [hrest.baseDelays, hbase]
    simp
  delays := by
    rw [hrest.delays, hdelay]
    simp

/-- A schedule without a round, for a run that ends before a wait is worked out. -/
theorem Schedules.unwaited {called : List (Deed τ Q R)} {most : Nat} {y : Except (Fault τ) α}
    (hfinishes : r.Finishes onRetry operation most n y ⟨called, [], none⟩) (hwaits : Deed.waits ds = Deed.waits called) :
    r.Schedules flag onRetry operation most n a (a.begun n) ds y [] ⟨called, [], none⟩ where
  isRound := nofun
  finishes := hfinishes
  waits := by simpa using hwaits
  baseDelays := (List.append_nil _).symm
  delays := (List.append_nil _).symm

/-- A schedule without a round, for a run that ends after a wait was worked out. -/
theorem Schedules.unslept {a' : Attempts τ} {called told : List (Deed τ Q R)} {base delay : τ} {most : Nat}
    {y : Except (Fault τ) α} (hfinishes : r.Finishes onRetry operation most n y ⟨called, told, some (base, delay)⟩)
    (hwaits : Deed.waits ds = Deed.waits called ++ Deed.waits told) (hbase : a'.baseDelays = a.baseDelays ++ [base])
    (hdelay : a'.delays = a.delays ++ [delay]) :
    r.Schedules flag onRetry operation most n a a' ds y [] ⟨called, told, some (base, delay)⟩ where
  isRound := nofun
  finishes := hfinishes
  waits := hwaits
  baseDelays := hbase
  delays := hdelay

include hoperation hlisten

/-- A run that is not stopped keeps to a schedule from each of its attempts on. -/
theorem exists_schedules_attemptFrom {x : Except (Fault τ) (Ending τ α)} (hs : s.attempts = some a)
    (h : (r.attemptFrom flag onRetry operation left n).Does s ds x s') (hx : outcome x ≠ .error .stopped) :
    ∃ rounds finish a', s'.attempts = some a' ∧
      r.Schedules flag onRetry operation (n + left) n a a' ds (outcome x) rounds finish := by
  -- on the attempts that are left; each round uses up one of them
  induction left using Nat.strongRecOn generalizing n s a ds with
  | _ left ih =>
      cases once_of_does h with
      | stopped => exact absurd rfl hx
      | value hbegun hcall =>
          refine ⟨[], _, _, attempts_of_called hoperation hbegun hcall hs, .unwaited (.answered hcall nofun) ?_⟩
          simp [Deed.waits_append, Deed.waits_of_isOwn hbegun.own]
      | fault hbegun hcall hlasting =>
          refine ⟨[], _, _, attempts_of_called hoperation hbegun hcall hs, .unwaited (.answered hcall ?_) ?_⟩
          · rintro _ ⟨⟩
            exact hlasting
          · simp [Deed.waits_append, Deed.waits_of_isOwn hbegun.own]
      | refused hbegun hcall htransient hwait =>
          have hlooks := (looks_delayAfter hwait).1
          have hrecord := attempts_of_called hoperation hbegun hcall hs
          refine ⟨[], _, _, hlooks.record ▸ hrecord, .unwaited (.refused hcall htransient hwait) ?_⟩
          simp [Deed.waits_append, Deed.waits_of_isOwn hbegun.own, Deed.waits_of_isOwn hlooks.own]
      | exhausted htroubled hnoted hleft =>
          subst hleft
          obtain ⟨t₁, t₂, hbegun, hcall, hwait⟩ := htroubled.course
          have hwaits := htroubled.waits hnoted []
          rw [List.append_nil] at hwaits
          exact ⟨[], _, _, htroubled.attempts hoperation hnoted hs,
            .unslept (.exhausted hcall htroubled.transient rfl hwait) hwaits rfl rfl⟩
      | abandoned htroubled hnoted hleft htold =>
          obtain ⟨t₁, t₂, hbegun, hcall, hwait⟩ := htroubled.course
          have hrecord := (hlisten _ _ _ _ _ _ _ htold).trans (htroubled.attempts hoperation hnoted hs)
          have hless : n < n + left := by omega
          exact ⟨[], _, _, hrecord,
            .unslept (.abandoned hcall htroubled.transient hless hwait htold) (htroubled.waits hnoted _) rfl rfl⟩
      | woken => exact absurd rfl hx
      | @again own called worked noted told slept rest fault base delay left' x t u v w _ htroubled hnoted hleft htold
          hsleep hrest =>
          obtain ⟨t₁, t₂, hbegun, hcall, hwait⟩ := htroubled.course
          have hw : w.attempts = some (((a.begun n).weighed base delay).retried fault) := by
            rw [(waits_of_sleepBetween hsleep).2.1, hlisten _ _ _ _ _ _ _ htold]
            exact htroubled.attempts hoperation hnoted hs
          obtain ⟨rounds, finish, a', ha', hschedules⟩ := ih left' (by omega) hw hrest
          rw [show n + 1 + left' = n + left by omega] at hschedules
          refine ⟨⟨fault, base, delay, called, told, slept⟩ :: rounds, finish, a', ha', .cons ?_ ?_ rfl rfl hschedules⟩
          · exact ⟨htroubled.transient, ⟨_, _, hcall⟩, ⟨_, _, _, hwait⟩, ⟨_, _, htold⟩, ⟨_, _, hsleep⟩⟩
          · have hwaits := htroubled.waits hnoted (told ++ slept ++ rest)
            simpa [Deed.waits_append, Round.waits] using hwaits

end

/-! ## Runs -/

theorem Schedules.sleeps_eq {a' : Attempts τ} {most : Nat} {y : Except (Fault τ) α} {rounds : List (Round τ Q R)}
    {finish : Finish τ Q R} (h : r.Schedules flag onRetry operation most n a a' ds y rounds finish) :
    rounds.flatMap (fun p => Deed.waits p.slept) = (rounds.map Round.delay).filter (r.isSlept flag) := by
  have hslept : ∀ p ∈ rounds, Deed.waits p.slept = if r.isSlept flag p.delay then [p.delay] else [] := by
    intro p hp
    obtain ⟨i, hi⟩ := List.mem_iff_getElem?.mp hp
    obtain ⟨t, t', hsleep⟩ := (h.isRound i p hi).slept
    exact (waits_of_sleepBetween hsleep).2.2
  clear h
  induction rounds with
  | nil => rfl
  | cons p rounds ih =>
      rw [List.forall_mem_cons] at hslept
      rw [List.flatMap_cons, ih hslept.2, hslept.1, List.map_cons, List.filter_cons]
      split <;> rfl

omit [Seconds τ] in
theorem append_toList_eq_filter_iff {l : List τ} {o : Option τ} {p : τ → Bool} :
    l ++ o.toList = l.filter p ↔ o = none ∧ ∀ x ∈ l, p x = true := by
  cases o with
  | none =>
      rw [Option.toList_none, List.append_nil, eq_comm, List.filter_eq_self]
      exact ⟨fun h => ⟨rfl, h⟩, And.right⟩
  | some x =>
      have hlonger : l ++ [x] ≠ l.filter p := by
        intro h
        have hlength := congrArg List.length h
        have hle := List.length_filter_le p l
        simp only [List.length_append, List.length_singleton] at hlength
        omega
      simpa using hlonger

/-- A run that is not stopped records the waits that it works out. They are its sleeps between attempts if and only if
none was worked out after which the run ended, and none was of no time where a flag is watched. -/
theorem recorded_waits_are_slept_iff
    (hoperation : ∀ s ds x s', operation.Does s ds x s' → s'.attempts = s.attempts)
    (hlisten : ∀ n delay fault s ds x s', (onRetry n delay fault).Does s ds x s' → s'.attempts = s.attempts)
    {y : Except (Fault τ) α} (h : (r.attempt flag onRetry operation).Does s ds y s') (hy : y ≠ .error .stopped) :
    ∃ rounds finish a, s'.attempts = some a ∧
      r.Schedules flag onRetry operation r.attempts 1 .start a ds y rounds finish ∧
      a.baseDelays.length = a.delays.length ∧
      (a.delays = rounds.flatMap (fun p => Deed.waits p.slept) ↔
        finish.unslept = none ∧ ∀ p ∈ rounds, r.isSlept flag p.delay = true) := by
  obtain ⟨tried, x, u, settled, rfl, hattempts, hsettle⟩ := exists_of_attempt h
  obtain ⟨rfl, f, hminds, hkept⟩ := minds_settle hsettle
  obtain ⟨rounds, finish, a, ha, hschedules⟩ := exists_schedules_attemptFrom hoperation hlisten rfl hattempts hy
  have hschedules : r.Schedules flag onRetry operation r.attempts 1 .start (f a)
      (⟨.note (.attempts .start), ()⟩ :: (tried ++ settled)) (outcome x) rounds finish := by
    refine ⟨hschedules.isRound, ?_, ?_, ?_, ?_⟩
    · have hfinishes := hschedules.finishes
      rwa [Nat.add_comm 1 r.policy.furtherAttempts] at hfinishes
    · rw [Deed.waits_cons_of_none rfl, Deed.waits_append, Deed.waits_of_isOwn hminds.own, List.append_nil]
      exact hschedules.waits
    · rw [(hkept a).2.1]
      exact hschedules.baseDelays
    · rw [(hkept a).2.2]
      exact hschedules.delays
  refine ⟨rounds, finish, f a, hminds.attempts ha, hschedules, ?_, ?_⟩
  · rw [hschedules.baseDelays, hschedules.delays]
    cases finish.unslept <;> simp [Attempts.start]
  · rw [hschedules.delays, hschedules.sleeps_eq, Attempts.start, List.nil_append, append_toList_eq_filter_iff,
      Option.map_eq_none_iff, List.forall_mem_map]

/-- Two passing troubles and then a value: what is recorded was slept. -/
theorem recorded_waits_are_slept_of_busyTwice :
    let r : Retry Rat := ⟨.usual, true⟩
    ∃ ds s' rounds finish a, (r.attempt none (fun _ _ _ => pure ()) (ask ())).Does .start ds (.ok 7) s' ∧
      s'.attempts = some a ∧
      r.Schedules none (fun _ _ _ => pure ()) (ask ()) r.attempts 1 .start a ds (.ok 7) rounds finish ∧
      a.delays = rounds.flatMap (fun p => Deed.waits p.slept) := by
  intro r
  have hask : ∀ s ds x s', (ask () : Work Rat Unit Nat Nat).Does s ds x s' → s'.attempts = s.attempts := by
    intro s ds x s' h
    obtain ⟨a, ds', rfl, hanswer⟩ := h.exists_of_act_bind
    rw [(does_ofExcept_iff.mp hanswer).2.2]
  have hlisten : ∀ (n : Nat) (delay : Rat) (fault : Fault Rat) s ds x s',
      (pure () : Work Rat Unit Nat Unit).Does s ds x s' → s'.attempts = s.attempts := by
    intro n delay fault s ds x s' h
    rw [(does_pure_iff.mp h).2.2]
  obtain ⟨ds, s', hdoes⟩ : ∃ ds s', (r.attempt none (fun _ _ _ => pure ()) (ask ())).Does .start ds (.ok 7) s' := by
    have hrun := run_attempt_busyTwice
    obtain ⟨⟨y, s'⟩, hy, hseven⟩ := Option.map_eq_some_iff.mp hrun
    cases y with
    | error fault => cases hseven
    | ok v =>
        cases congrArg Prod.fst hseven
        obtain ⟨ds, hdoes⟩ := exists_does_of_run hy
        exact ⟨ds, s', hdoes⟩
  obtain ⟨rounds, finish, a, ha, hschedules, -, hiff⟩ := recorded_waits_are_slept_iff hask hlisten hdoes nofun
  refine ⟨ds, s', rounds, finish, a, hdoes, ha, hschedules, hiff.mpr ⟨?_, fun p _ => rfl⟩⟩
  cases hschedules.finishes with
  | answered => rfl

/-- A single attempt that meets with a passing trouble: a wait is recorded, but nothing is slept. -/
theorem recorded_wait_never_slept :
    let r : Retry Rat := ⟨{ (RetryPolicy.usual : RetryPolicy Rat) with maxAttempts := .number 1 }, true⟩
    let run := (r.attempt none (fun _ _ _ => pure ()) (ask ())).run busyTwice .start (.start ⟨0, 0, false⟩ ⟨0, [], 0⟩)
    run.1.map (fun e => e.2.attempts.map fun a => (a.baseDelays, a.delays)) = some (some ([1], [1])) ∧
      Journal.sleeps run.2.journal.reverse = [] := by
  decide +kernel

end Retry

end RepoCensus
