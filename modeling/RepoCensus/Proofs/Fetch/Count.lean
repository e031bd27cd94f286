import RepoCensus.Proofs.Budget.Means
import RepoCensus.Proofs.Fetch.Refetch
import RepoCensus.Proofs.Record.Reach

/-!
# Counts and the limits that come with them

A count that a service answers is found, unless the limits in the headers of the answer cannot be taken in.
-/

namespace RepoCensus

open RepoCensus.Calendar Work

variable {σ τ Q R α β : Type}

/-! ## Limits in headers -/

/-- Limits that cannot be taken in: the end of the window is too large a number, or the budget is so low that it is
worth a warning, and no clock can show the end of the window. -/
inductive Response.Upsets [Seconds τ] (conventions : Conventions) (t : Tracker τ) (r : Response) : Anomaly → Prop where
  | tooLate {remaining reset : Int} : r.number? conventions.remainingHeader = some remaining →
      r.number? conventions.resetHeader = some reset → (Seconds.ofInt? reset : Option τ) = none →
      r.Upsets conventions t (.tooLarge .double)
  | unshowable {b : Budget τ} {why : Anomaly} : r.budget conventions = .ok (some b) → t.isLow b = true →
      b.resetMoment = .error why → r.Upsets conventions t why

section

variable [Seconds τ] {conventions : Conventions} {t t' : Tracker τ} {r : Response} {b : Budget τ} {why : Anomaly}

/-- What comes of passing on the limits that an answer tells. -/
def Response.heard (conventions : Conventions) (t : Tracker τ) (r : Response) : Except Anomaly Unit := do
  match ← r.budget conventions with
  | some b => (t.lowWarning b).map fun _ => ()
  | none => .ok ()

theorem Tracker.lowWarning_eq_error : t.lowWarning b = .error why ↔ t.isLow b = true ∧ b.resetMoment = .error why := by
  unfold lowWarning
  split
  · rename_i hlow
    cases hmoment : b.resetMoment with
    | error e => simp [hlow, bind, Except.bind]
    | ok moment => simp [bind, Except.bind, pure, Except.pure]
  · rename_i hlow
    simp [hlow]

theorem Response.budget_eq_error : (r.budget conventions : Except Anomaly (Option (Budget τ))) = .error why ↔
    why = .tooLarge .double ∧ ∃ remaining reset, r.number? conventions.remainingHeader = some remaining ∧
      r.number? conventions.resetHeader = some reset ∧ (Seconds.ofInt? reset : Option τ) = none := by
  unfold budget wholeSeconds
  split
  · rename_i remaining reset hremaining hreset
    cases hseconds : (Seconds.ofInt? reset : Option τ) with
    | none => simp [bind, Except.bind, hremaining, hreset, hseconds, eq_comm]
    | some resetAt => simp [bind, Except.bind, pure, Except.pure, hremaining, hreset, hseconds]
  · rename_i hmissing
    constructor
    · exact nofun
    · rintro ⟨_, remaining, reset, hremaining, hreset, _⟩
      exact (hmissing remaining reset hremaining hreset).elim

theorem Response.heard_eq_error : r.heard conventions t = .error why ↔ r.Upsets conventions t why := by
  unfold heard
  constructor
  · intro h
    cases hbudget : (r.budget conventions : Except Anomaly (Option (Budget τ))) with
    | error e =>
        rw [hbudget] at h
        cases h
        obtain ⟨rfl, _, _, hremaining, hreset, hseconds⟩ := budget_eq_error.mp hbudget
        exact .tooLate hremaining hreset hseconds
    | ok told =>
        rw [hbudget] at h
        cases told with
        | none => cases h
        | some b =>
            obtain ⟨hlow, hmoment⟩ := Tracker.lowWarning_eq_error.mp (map_eq_error.mp h)
            exact .unshowable hbudget hlow hmoment
  · rintro (⟨hremaining, hreset, hseconds⟩ | ⟨hbudget, hlow, hmoment⟩)
    · rw [budget_eq_error.mpr ⟨rfl, _, _, hremaining, hreset, hseconds⟩]
      rfl
    · rw [hbudget]
      exact map_eq_error.mpr (Tracker.lowWarning_eq_error.mpr ⟨hlow, hmoment⟩)

/-- Nothing but the margin of a tracker matters. -/
theorem Response.heard_congr (h : t'.safetyMargin = t.safetyMargin) :
    r.heard conventions t' = r.heard conventions t := by
  have hlow : ∀ b : Budget τ, (t'.lowWarning b).map (fun _ => ()) = (t.lowWarning b).map fun _ => () := by
    intro b
    unfold Tracker.lowWarning Tracker.isLow
    rw [h]
    split
    · cases b.resetMoment <;> rfl
    · rfl
  unfold heard
  simp only [hlow]

end

/-! ## Worlds at rest -/

/-- Nothing has happened that the service, the flags or the tracker of a bucket could notice. -/
structure World.Rests (b : Bucket) (w w' : World σ τ Q) : Prop where
  outside : w'.outside = w.outside
  ownFlag : w'.ownFlag = w.ownFlag
  tracker : w'.tracker b = w.tracker b

namespace World.Rests

variable {b : Bucket} {w w' w'' : World σ τ Q} {sur : Surroundings σ τ Q R}

theorem refl (b : Bucket) (w : World σ τ Q) : w.Rests b w := ⟨rfl, rfl, rfl⟩

theorem trans (h : w.Rests b w') (h' : w'.Rests b w'') : w.Rests b w'' :=
  ⟨h'.outside.trans h.outside, h'.ownFlag.trans h.ownFlag, h'.tracker.trans h.tracker⟩

theorem record (h : w.Rests b w') (e : Event τ Q) : w.Rests b (w'.record e) :=
  ⟨h.outside, h.ownFlag, h.tracker⟩

theorem isRaised (h : w.Rests b w') (f : Flag) : w'.isRaised sur f = w.isRaised sur f := by
  cases f with
  | callers => exact congrArg sur.cancelled h.outside
  | own => exact h.ownFlag

variable [Seconds τ]

theorem openBucket (b : Bucket) (w : World σ τ Q) : w.Rests b (w.perform sur (.openBucket b)).2 := by
  refine ⟨rfl, rfl, ?_⟩
  show ((w.registry.tracker b).2.tracker b).1 = _
  rw [Registry.get?_tracker_of_some (Registry.get?_tracker _ _)]
  rfl

end World.Rests

/-! ## Steps in a world -/

variable [Seconds τ] {sur : Surroundings σ τ Q R} {n : Numbers} {w : World σ τ Q}

theorem attains_perform {e : Effect τ Q} {post : Except (Fault τ) (e.Answer R) → Numbers → World σ τ Q → Prop}
    (h : post (.ok (w.perform sur e).1) n (w.perform sur e).2) : Attains sur.behaviour (act e) n w post := by
  refine .step id trivial ?_
  rintro _ _ ⟨rfl, rfl⟩
  exact h

theorem attains_perform_bind {e : Effect τ Q} {a : e.Answer R} {k : e.Answer R → Work τ Q R β}
    {post : Except (Fault τ) β → Numbers → World σ τ Q → Prop} (ha : (w.perform sur e).1 = a)
    (h : Attains sur.behaviour (k a) n (w.perform sur e).2 post) : Attains sur.behaviour (act e >>= k) n w post := by
  subst ha
  exact .bind (attains_perform h)

theorem attains_clock_bind {k : τ → Work τ Q R β} {post : Except (Fault τ) β → Numbers → World σ τ Q → Prop}
    (h : ∀ now w', Attains sur.behaviour (k now) n w' post) : Attains sur.behaviour (clock >>= k) n w post :=
  attains_perform_bind (e := .clock) rfl (h _ _)

theorem World.update_fst (w : World σ τ Q) (b : Bucket) (budget : Budget τ) :
    (w.update b budget).1 = ((w.tracker b).lowWarning budget).map fun _ => () := by
  unfold update
  change _ = ((w.registry.tracker b).1.lowWarning budget).map fun _ => ()
  dsimp only
  split <;> rename_i h <;> rw [h] <;> rfl

theorem attains_update_bind {b : Bucket} {budget : Budget τ} {k : Except Anomaly Unit → Work τ Q R β}
    {post : Except (Fault τ) β → Numbers → World σ τ Q → Prop}
    (h : ∀ w', Attains sur.behaviour (k (((w.tracker b).lowWarning budget).map fun _ => ())) n w' post) :
    Attains sur.behaviour (update b budget >>= k) n w post :=
  attains_perform_bind (e := .update b budget) (w.update_fst b budget) (h _)

/-- Work that goes through and leaves the world at rest. -/
def Lulls (sur : Surroundings σ τ Q R) (b : Bucket) (w : World σ τ Q) (work : Work τ Q R α) : Prop :=
  ∀ n, Attains sur.behaviour work n w fun x _ w' => (∃ a, x = .ok a) ∧ w.Rests b w'

namespace Lulls

variable {b : Bucket} {work : Work τ Q R α} {k : α → Work τ Q R β}

theorem bind {post : Except (Fault τ) β → Numbers → World σ τ Q → Prop} (h : Lulls sur b w work)
    (hk : ∀ a n' w', w.Rests b w' → Attains sur.behaviour (k a) n' w' post) :
    Attains sur.behaviour (work >>= k) n w post := by
  refine .bind ((h n).mono ?_)
  rintro _ n' w' ⟨⟨a, rfl⟩, hw'⟩
  exact hk a n' w' hw'

theorem pure (a : α) : Lulls sur b w (pure a) := fun _ => .pure ⟨⟨a, rfl⟩, .refl b w⟩

theorem note (m : Note τ) : Lulls sur b w (note m) :=
  fun _ => attains_perform ⟨⟨_, rfl⟩, (World.Rests.refl b w).record _⟩

theorem log (level : Level) (text : String) : Lulls sur b w (log level text) := note _

theorem openBucket (b : Bucket) (w : World σ τ Q) : Lulls sur b w (openBucket b) :=
  fun _ => attains_perform ⟨⟨_, rfl⟩, .openBucket b w⟩

theorem check {flag : Option Flag} (hflag : ∀ f, flag = some f → w.isRaised sur f = false) :
    Lulls sur b w (check flag) := by
  intro n
  cases flag with
  | none => exact .pure_bind (pure () n)
  | some f =>
      refine .bind (attains_perform ?_)
      have hraised : (w.perform sur (.cancelled f)).1 = false := hflag f rfl
      rw [hraised]
      exact pure () n

theorem setAttempts (a : Attempts τ) : Lulls sur b w (setAttempts a) := by
  intro n
  refine .setAttempts id trivial ?_
  rintro _ ⟨_, rfl⟩
  exact ⟨⟨_, rfl⟩, (World.Rests.refl b w).record _⟩

theorem updateAttempts (f : Attempts τ → Attempts τ) : Lulls sur b w (updateAttempts f) := by
  intro n
  refine .session_bind fun s _ => ?_
  cases s.attempts with
  | none => exact pure () n
  | some a => exact setAttempts _ _

theorem updateTask (f : Task τ → Task τ) : Lulls sur b w (updateTask f) := by
  intro n s hs
  cases htask : s.task with
  | none =>
      rw [start_updateTask_none htask]
      exact ⟨⟨_, rfl⟩, .refl b w⟩
  | some t =>
      rw [start_updateTask htask]
      rintro w' rfl
      refine ⟨trivial, ?_⟩
      rintro _ _ ⟨_, rfl⟩
      exact ⟨⟨_, rfl⟩, (World.Rests.refl b w').record _⟩

end Lulls

/-! ## One request -/

/-- An operation that meets with no passing trouble is tried once. -/
theorem Retry.attains_attempt_of_settled {r : Retry τ} {flag : Option Flag} {onRetry : RetryListener τ Q R}
    {operation : Work τ Q R α} {b : Bucket} {x : Except (Fault τ) α}
    (hflag : ∀ f, flag = some f → w.isRaised sur f = false) (hx : ∀ fault, x = .error fault → fault.isTransient = false)
    (h : ∀ n w', w.Rests b w' → Attains sur.behaviour operation n w' fun y _ _ => y = x) :
    Attains sur.behaviour (r.attempt flag onRetry operation) n w fun y _ _ => y = x := by
  refine (Lulls.setAttempts (b := b) _).bind fun _ n₁ w₁ hw₁ => .result_bind ?_
  have hflag₁ : ∀ f, flag = some f → w₁.isRaised sur f = false := fun f hf => (hw₁.isRaised f).trans (hflag f hf)
  rw [attemptFrom_eq]
  refine (Lulls.check (b := b) hflag₁).bind fun _ n₂ w₂ hw₂ => ?_
  refine (Lulls.updateAttempts (b := b) _).bind fun _ n₃ w₃ hw₃ => .result_bind ?_
  refine (h n₃ w₃ ((hw₁.trans hw₂).trans hw₃)).mono fun y n₄ w₄ hy => ?_
  rw [hy]
  cases x with
  | ok a =>
      apply Attains.pure
      refine (Lulls.updateAttempts (b := b) _).bind fun _ _ _ _ => ?_
      apply Attains.pure
      rfl
  | error fault =>
      apply Attains.ite
      · intro htransient
        exact absurd (htransient.symm.trans (hx fault rfl)) nofun
      intro _
      apply Attains.throw
      apply Attains.ite
      · intro _
        refine (Lulls.updateAttempts (b := b) _).bind fun _ _ _ _ => ?_
        apply Attains.throw
        rfl
      · intro _
        apply Attains.throw
        rfl

namespace Fetcher

variable {f : Fetcher τ} {sur : Surroundings σ τ Request Reply} {w w' : World σ τ Request} {bucket : Bucket}
  {q : Request} {response : Response}

/-- The beginning of an attempt: a permit, and the answer to the request. -/
def receive (f : Fetcher τ) (bucket : Bucket) (q : Request) : Fetch τ Response := do
  let _ ← acquire bucket f.flag f.margin f.patience f.options.maxResetWait
  f.transport.send q

/-- The budget grants a permit for a request, and this response is received, if the world rests until then and nobody
cancels the work. -/
structure Receives (f : Fetcher τ) (sur : Surroundings σ τ Request Reply) (bucket : Bucket) (q : Request)
    (response : Response) (w : World σ τ Request) : Prop where
  unraised : ∀ flag, f.flag = some flag → w.isRaised sur flag = false
  received : ∀ s w', w.Rests bucket w' → ∃ t, ((f.receive bucket q).run sur s w').1 = some (.ok response, t)

theorem Receives.rests (h : f.Receives sur bucket q response w) (hw' : w.Rests bucket w') :
    f.Receives sur bucket q response w' where
  unraised flag hflag := (hw'.isRaised flag).trans (h.unraised flag hflag)
  received s w'' hw'' := h.received s w'' (hw'.trans hw'')

/-- What is received is had, and no margin changes. -/
theorem attains_receive_of_receives (h : f.Receives sur bucket q response w) :
    Attains sur.behaviour (f.receive bucket q) n w fun x _ w' =>
      x = .ok response ∧ (w'.tracker bucket).safetyMargin = (w.tracker bucket).safetyMargin := by
  intro s _
  obtain ⟨s', hrun⟩ := h.received s w (.refl bucket w)
  exact Program.always_of_run hrun ⟨rfl, w.safetyMargin_run sur _ bucket⟩

/-- What is left of a response when the limits in its headers have been passed on. -/
def taken (f : Fetcher τ) (t : Tracker τ) (response : Response) : Except (Fault τ) Response :=
  Fault.lift ((response.heard f.conventions t).map fun _ => response)

theorem attemptOnce_eq (f : Fetcher τ) (bucket : Bucket) (q : Request) : f.attemptOnce bucket q = (do
    let response ← f.receive bucket q
    match ← ofExcept (Fault.lift (response.budget f.conventions)) with
    | some budget => do ofExcept (Fault.lift (← update bucket budget))
    | none => pure ()
    let now ← clock
    match ← ofExcept (Fault.lift (response.verdict f.room f.conventions now q.url)) with
    | some fault => throw fault
    | none => return response) := by
  unfold attemptOnce receive
  rw [bind_assoc]
  rfl

theorem attains_attemptOnce_of_receives (hreceives : f.Receives sur bucket q response w)
    (hsuccess : response.isSuccess = true) : Attains sur.behaviour (f.attemptOnce bucket q) n w fun x _ _ =>
      x = f.taken (w.tracker bucket) response := by
  rw [attemptOnce_eq]
  refine .ok_bind (attains_receive_of_receives hreceives) fun n₂ w₂ hmargin => ?_
  have htaken : f.taken (w.tracker bucket) response = f.taken (w₂.tracker bucket) response := by
    unfold taken
    rw [Response.heard_congr hmargin]
  rw [htaken]
  have hjudged : ∀ n w, Attains sur.behaviour (do
      let now ← clock
      match ← ofExcept (Fault.lift (response.verdict f.room f.conventions now q.url)) with
      | some fault => throw fault
      | none => return response : Fetch τ Response) n w fun x _ _ => x = .ok response := by
    intro n w
    refine attains_clock_bind fun now w' => ?_
    rw [Response.verdict_of_isSuccess hsuccess]
    apply Attains.ofExcept_bind rfl
    apply Attains.pure
    rfl
  unfold taken Response.heard
  cases hbudget : (response.budget f.conventions : Except Anomaly (Option (Budget τ))) with
  | error why =>
      refine .bind ?_
      apply Attains.ofExcept
      rfl
  | ok told =>
      apply Attains.ofExcept_bind rfl
      cases told with
      | none => exact .pure_bind (hjudged _ _)
      | some b =>
          dsimp only
          refine attains_update_bind fun w₃ => ?_
          refine .bind ?_
          apply Attains.ofExcept
          dsimp only [bind, Except.bind]
          cases hwarning : (w₂.tracker bucket).lowWarning b with
          | error why => rfl
          | ok text => exact hjudged _ _

/-! ## One fetch -/

omit [Seconds τ] in
theorem isTransient_of_lift {x : Except Anomaly α} {fault : Fault τ} (h : Fault.lift x = .error fault) :
    fault.isTransient = false := by
  cases x with
  | ok a => cases h
  | error why => cases h; rfl

theorem attains_send_of_receives (hreceives : f.Receives sur bucket q response w)
    (hsuccess : response.isSuccess = true) : Attains sur.behaviour (f.send bucket q) n w fun x _ _ =>
      x = f.taken (w.tracker bucket) response := by
  have hattempt : Attains sur.behaviour (f.retry.attempt f.flag onRetry (f.attemptOnce bucket q)) n w fun x _ _ =>
      x = f.taken (w.tracker bucket) response := by
    refine Retry.attains_attempt_of_settled (b := bucket) hreceives.unraised (fun _ h => isTransient_of_lift h) ?_
    intro n' w' hw'
    rw [← hw'.tracker]
    exact attains_attemptOnce_of_receives (hreceives.rests hw') hsuccess
  refine .result_bind (hattempt.mono fun x n' w' hx => ?_)
  unfold settleTask
  rw [bind_assoc]
  refine .attemptCount_bind ?_
  refine (Lulls.updateTask (b := bucket) _).bind fun _ n₁ w₁ _ => ?_
  apply Attains.ofExcept
  exact hx

/-- What comes of a response that holds a count: a finding, unless its limits cannot be taken in. -/
def Counted (f : Fetcher τ) (category : Category) (n : Tally) (t : Tracker τ) (response : Response)
    (x : Except (Fault τ) (Finding τ)) : Prop :=
  match response.heard f.conventions t with
  | .ok _ => ∃ now, x = .ok ⟨category, .count n, f.freshnessOf response, now, 1, false⟩
  | .error why => x = .error (.anomaly why)

variable {r : Repository} {category : Category} {earlier : Option (Finding τ)} {read : Nat → List UInt8 → Reading Tally}
  {count : Tally} {m : Numbers}

theorem attains_fetchRaw_of_receives (hreader : category.endpoint.reader = .count read)
    (hreceives : f.Receives sur (f.bucket category) (f.firstRequest r category earlier) response w)
    (hsuccess : response.isSuccess = true) (hstatus : response.status ≠ 304)
    (hcount : read f.room response.body = .ok count) : Attains sur.behaviour (f.fetchRaw r category earlier) m w fun x _ _ =>
      f.Counted category count (w.tracker (f.bucket category)) response x := by
  refine (Lulls.check (b := f.bucket category) hreceives.unraised).bind fun _ n₁ w₁ hw₁ => ?_
  rw [hreader]
  refine .bind ((attains_send_of_receives (hreceives.rests hw₁) hsuccess).mono fun x n₂ w₂ hx => ?_)
  rw [hx, hw₁.tracker]
  unfold Counted taken
  cases response.heard f.conventions (w.tracker (f.bucket category)) with
  | error why => rfl
  | ok _ =>
      have hchanged : refuseUnchanged earlier.isSome response = (.ok () : Except (Fault τ) Unit) := if_neg hstatus
      have hread : ofReading (read f.room response.body) = (.ok count : Except (Fault τ) Tally) := by
        rw [hcount]
        rfl
      simp only [Except.map, Fault.lift, Onward]
      apply Attains.ofExcept_bind hchanged
      apply Attains.ofExcept_bind hread
      refine attains_clock_bind fun now w₃ => ?_
      apply Attains.pure
      exact ⟨now, rfl⟩

theorem attains_fetch_of_receives (hreader : category.endpoint.reader = .count read)
    (hreceives : f.Receives sur (f.bucket category) (f.firstRequest r category (comparable category earlier)) response w)
    (hsuccess : response.isSuccess = true) (hstatus : response.status ≠ 304)
    (hcount : read f.room response.body = .ok count) : Attains sur.behaviour (f.fetch r category earlier) m w fun x _ _ =>
      ∃ y, f.Counted category count (w.tracker (f.bucket category)) response y ∧ x = y.map .ok := by
  refine (Lulls.openBucket (f.bucket category) w).bind fun _ n₁ w₁ hw₁ => ?_
  refine (Lulls.updateTask (b := f.bucket category) _).bind fun _ n₂ w₂ hw₂ => ?_
  refine (Lulls.log (b := f.bucket category) _ _).bind fun _ n₃ w₃ hw₃ => .result_bind ?_
  have hrests := (hw₁.trans hw₂).trans hw₃
  rw [← hrests.tracker]
  refine (attains_fetchRaw_of_receives hreader (hreceives.rests hrests) hsuccess hstatus hcount).mono ?_
  intro y n₄ w₄ hy
  cases y with
  | ok finding =>
      simp only [succeed, bind_assoc]
      refine (Lulls.updateTask (b := f.bucket category) _).bind fun _ n₅ w₅ _ => ?_
      refine (Lulls.log (b := f.bucket category) _ _).bind fun _ n₆ w₆ _ => ?_
      apply Attains.pure
      exact ⟨_, hy, rfl⟩
  | error fault =>
      have hfault : ∃ why, fault = .anomaly why := by
        unfold Counted at hy
        split at hy
        · obtain ⟨_, hnow⟩ := hy
          cases hnow
        · cases hy
          exact ⟨_, rfl⟩
      obtain ⟨why, rfl⟩ := hfault
      apply Attains.throw
      exact ⟨_, hy, rfl⟩

/-! ## Runs -/

/-- A count that a service answers is found, if and only if the limits that come with it can be taken in. Otherwise
the fetch ends in the anomaly that they are the cause of. -/
theorem count_found_iff {s : Session τ} (hreader : category.endpoint.reader = .count read)
    (hreceives : f.Receives sur (f.bucket category) (f.firstRequest r category (comparable category earlier)) response w)
    (hleast : 200 ≤ response.status) (hmost : response.status < 300) (hdone : response.status ≠ 202)
    (hcount : read f.room response.body = .ok count) :
    ∃ x t, ((f.fetch r category earlier).run sur s w).1 = some (x, t) ∧
      ((∃ p, x = .ok (.ok p) ∧ p.category = category ∧ p.value = .count count) ↔
        ∀ why, ¬ response.Upsets f.conventions (w.tracker (f.bucket category)) why) ∧
      ∀ why, x = .error (.anomaly why) ↔ response.Upsets f.conventions (w.tracker (f.bucket category)) why := by
  have hsuccess : response.isSuccess = true := by
    simp [Response.isSuccess, hleast, hmost, hdone]
  have hstatus : response.status ≠ 304 := by omega
  obtain ⟨x, t, hrun, y, hy, hx⟩ :=
    (attains_fetch_of_receives (m := s.numbers) hreader hreceives hsuccess hstatus hcount).run
  refine ⟨x, t, hrun, ?_⟩
  simp only [← Response.heard_eq_error, hx]
  unfold Counted at hy
  cases hheard : response.heard f.conventions (w.tracker (f.bucket category)) with
  | ok _ =>
      rw [hheard] at hy
      obtain ⟨now, rfl⟩ := hy
      refine ⟨⟨fun _ _ h => ?_, fun _ => ⟨_, rfl, rfl, rfl⟩⟩, fun _ => ⟨fun h => ?_, fun h => ?_⟩⟩ <;> cases h
  | error why =>
      rw [hheard] at hy
      subst hy
      refine ⟨⟨?_, fun h => (h why rfl).elim⟩, fun why' => ?_⟩
      · rintro ⟨p, hp, _⟩
        cases hp
      · constructor
        · rintro ⟨⟩
          rfl
        · rintro ⟨⟩
          rfl

/-- Seven stars, and how many requests are left until when. -/
def sevenUntil (remaining reset : String) : Reply :=
  ⟨200, [("X-RateLimit-Remaining", remaining), ("X-RateLimit-Reset", reset)], sevenBody⟩

theorem receives_sevenUntil (remaining reset : String) :
    usual.Receives (.quiet fun _ _ => .ok (sevenUntil remaining reset)) (usual.bucket .stars)
      (usual.firstRequest ⟨"o", "n"⟩ .stars none) (sevenUntil remaining reset).response
      (.start ⟨0, 0, false⟩ ⟨0, [], 0⟩) where
  unraised := nofun
  received s w hw := by
    let sur : Surroundings Surroundings.Hours Rat Request Reply := .quiet fun _ _ => .ok (sevenUntil remaining reset)
    have hgranted : (w.reserve sur (usual.bucket .stars) usual.margin).1 = .ok ⟨"core", none⟩ := by
      have htracker : (w.registry.tracker (usual.bucket .stars)).1 = .fresh "core" 0 0 := hw.tracker
      rw [World.reserve_fst, htracker]
      rfl
    have hattains : Attains sur.behaviour (usual.receive (usual.bucket .stars) (usual.firstRequest ⟨"o", "n"⟩ .stars none))
        s.numbers w fun x _ _ => x = .ok (sevenUntil remaining reset).response := by
      refine .ok_bind (a := ⟨"core", none⟩) (P := fun _ => True) ?_ fun n₁ w₁ _ => ?_
      · exact attains_perform_bind (e := .reserve _ _) hgranted (.pure ⟨rfl, trivial⟩)
      · refine .ok_bind (a := sevenUntil remaining reset) (P := fun _ => True) ?_ fun _ _ _ => .pure rfl
        exact attains_perform_bind (e := .ask _) rfl (.ofExcept ⟨rfl, trivial⟩)
    obtain ⟨_, t, hrun, rfl⟩ := hattains.run
    exact ⟨t, hrun⟩

/-- Seven stars are found although no request is left, since the end of the window can be shown. -/
theorem seven_stars_found :
    let sur : Surroundings Surroundings.Hours Rat Request Reply := .quiet fun _ _ => .ok (sevenUntil "0" "1700000060")
    let w : World Surroundings.Hours Rat Request := .start ⟨0, 0, false⟩ ⟨0, [], 0⟩
    ∃ p t, ((usual.fetch ⟨"o", "n"⟩ .stars none).run sur .start w).1 = some (.ok (.ok p), t) ∧
      p.category = .stars ∧ p.value = .count (.number 7) := by
  intro sur w
  have hreceives : usual.Receives sur (usual.bucket .stars)
      (usual.firstRequest ⟨"o", "n"⟩ .stars (comparable .stars none)) (sevenUntil "0" "1700000060").response w :=
    receives_sevenUntil "0" "1700000060"
  obtain ⟨x, t, hrun, hfound, hends⟩ :=
    count_found_iff (s := .start) rfl hreceives (by decide) (by decide) (by decide) read_sevenBody
  have hheard : ((sevenUntil "0" "1700000060").response.heard usual.conventions
      (w.tracker (usual.bucket .stars))).toOption = some () := by decide +kernel
  have hupsets : ∀ why, ¬ (sevenUntil "0" "1700000060").response.Upsets usual.conventions
      (w.tracker (usual.bucket .stars)) why := by
    intro why hwhy
    rw [Response.heard_eq_error.mpr hwhy] at hheard
    cases hheard
  obtain ⟨p, rfl, hp⟩ := hfound.mpr hupsets
  exact ⟨p, t, hrun, hp⟩

/-- Seven stars are lost if no request is left until the year ten thousand, although the permit is granted and the
answer is a success that holds their number. -/
theorem seven_stars_lost :
    let sur : Surroundings Surroundings.Hours Rat Request Reply :=
      .quiet fun _ _ => .ok (sevenUntil "0" "253402300800")
    let w : World Surroundings.Hours Rat Request := .start ⟨0, 0, false⟩ ⟨0, [], 0⟩
    usual.Receives sur (usual.bucket .stars) (usual.firstRequest ⟨"o", "n"⟩ .stars none)
        (sevenUntil "0" "253402300800").response w ∧
      (sevenUntil "0" "253402300800").response.status = 200 ∧
      readRepositoryField "stargazers_count" 960 (sevenUntil "0" "253402300800").response.body = .ok (.number 7) ∧
      (((usual.fetch ⟨"o", "n"⟩ .stars none).run sur .start w).1.map fun e => (found? e.1).isSome) = some false := by
  refine ⟨receives_sevenUntil _ _, rfl, read_sevenBody, ?_⟩
  decide +kernel

end Fetcher

end RepoCensus
