import RepoCensus.Proofs.Fetch.Heed
import RepoCensus.Proofs.Fetch.Requests
import RepoCensus.Proofs.Fetch.Sends
import RepoCensus.Proofs.Retry.Stages
import RepoCensus.Proofs.Work.Accounts

/-!
# The stages of a fetch

A task is told how far its fetch has come. Main statement: a pending task comes to be in progress, it is retrying and in
progress by turns, and it ends with the fetch: succeeded if something is found, failed if there is a failure. Only a
fault for which there is no reason leaves it in progress; and the word of the service that nothing has changed makes it
succeed, even where there is nothing to hand back.
-/

namespace RepoCensus

open RepoCensus.Calendar Work

variable {τ Q R α : Type}

/-! ## Reasons -/

/-- The reason for which there is a failure if a fault ends the work of a fetch. -/
inductive Fault.Gives : Fault τ → Reason → Prop where
  | overBudget (resetAt : τ) (remaining : Int) (resource : String) :
      Gives (.overBudget resetAt remaining resource) .rateLimited
  | undecodable (why : Undecodable) (status : Option Int) : Gives (.undecodable why status) .decode
  | endlessPages (pages : Int) (text : String) : Gives (.endlessPages pages text) .pagination
  | cancelled (text : String) : Gives (.cancelled text) .cancelled
  | gaveUp (last : Fault τ) (attempts : Int) : Gives (.gaveUp last attempts) .transport
  | permanent (text : String) (status : Option Int) : Gives (.permanent text status) .transport

theorem Fault.gives_iff {fault : Fault τ} {reason : Reason} :
    fault.Gives reason ↔ Failure.reasonOf? fault = some reason := by
  constructor
  · intro h
    cases h <;> rfl
  · intro h
    cases fault <;> cases h <;> constructor

/-! ## Answers -/

/-- The answer was had to the request. -/
def Deed.Answered (ds : List (Deed τ Q R)) (q : Q) (a : Except (Fault τ) R) : Prop :=
  (⟨.ask q, a⟩ : Deed τ Q R) ∈ ds

theorem Deed.hears_answered {ds : List (Deed τ Q R)} : ∀ d ∈ ds, d.Hears (Answered ds) := by
  intro d hd
  refine hears_of_forall ?_
  rintro q a rfl
  exact hd

theorem Work.Heeds.tells_of_does {v : Watch τ Q R} {n m : Bool} {post : α → Prop} {w : Work τ Q R α}
    {s s' : Session τ} {ds : List (Deed τ Q R)} {x : Except (Fault τ) α} (h : Heeds v n m post w)
    (hdoes : w.Does s ds x s') (hheard : ∀ d ∈ ds, d.Hears v.Heard) : Tells v.Told post x := by
  have hend : Tells v.Told (fun a => m ≤ ds.foldl v.left n ∧ post a) x :=
    Program.Always.plays (h s n (Bool.le_refl n)) hdoes hheard
  exact hend.mono fun _ ha => ha.2

theorem Fault.not_isWord_of_isDenial {fault : Fault τ} (h : fault.isDenial = true) : ¬ fault.IsWord := by
  cases fault <;> first | exact id | cases h

theorem Fault.not_isWord_of_isRefusal {fault : Fault τ} (h : fault.isRefusal = true) : ¬ fault.IsWord := by
  cases fault <;> first | exact id | cases h

/-! ## One request -/

variable [Seconds τ]

omit [Seconds τ] in
theorem Transport.plain_send (t : Transport) (q : Request) : Plain (t.send q : Work τ Request Reply Response) := by
  cases t with
  | direct => exact .bind (.bind (.act (e := .ask q) rfl) fun _ => .ofExcept _) fun _ => .pure _
  | wire client =>
      refine (Plain.log _ _).bind fun _ => .bind (.act (e := .ask _) rfl) fun answer => ?_
      cases answer with
      | ok reply => exact .pure _
      | error fault => exact .throw _

namespace Fetcher

variable {f : Fetcher τ} {b : Bucket} {q : Request} {s s' : Session τ} {t : Task τ}
  {ds : List (Deed τ Request Reply)}

theorem plain_attemptOnce : Plain (f.attemptOnce b q) := by
  refine (Plain.acquire b f.flag _ f.patience _).bind fun _ => ?_
  refine (Transport.plain_send f.transport q).bind fun response => ?_
  refine (Confined.ofExcept _).bind fun told => ?_
  cases told
  case' some budget => refine .bind (.act (e := .update b budget) rfl) fun _ => (Confined.ofExcept _).bind fun _ => ?_
  all_goals
    refine .bind (.act (e := .clock) rfl) fun now => (Confined.ofExcept _).bind fun verdict => ?_
    cases verdict with
    | none => exact .pure _
    | some fault => exact .throw _

theorem repeats_of_onRetry (n : Nat) (delay : τ) (fault : Fault τ) (s : Session τ) (ds : List (Deed τ Request Reply))
    (x : Except (Fault τ) Unit) (s' : Session τ) (h : (onRetry n delay fault).Does s ds x s') :
    x = .ok () ∧ Repeats 1 s ds s' := by
  obtain ⟨rfl, rfl, idle, hidle, rfl⟩ := exists_of_onRetry h
  refine ⟨rfl, fun hs => ?_, rfl⟩
  obtain ⟨t, ht⟩ := Option.isSome_iff_exists.mp hs
  rw [Deed.stages_append, hidle.stages, List.append_nil, Session.staged, ht]
  rfl

/-- The task goes on being in progress, and no failure is written to it. -/
def Goes (t : Task τ) (s' : Session τ) : Prop :=
  ∃ t', s'.task = some t' ∧ t'.stage = .inProgress ∧ t'.category = t.category ∧ t'.failure = t.failure

/-- A request tells a task that is in progress of each attempt that is to be repeated, and leaves it in progress. -/
theorem IsSent.stages {p : Sent τ} (h : f.IsSent b s ds p s') (ht : s.task = some t) (hstage : t.stage = .inProgress) :
    (∃ n, Deed.stages ds = Stage.burst n) ∧ Goes t s' := by
  obtain ⟨tried, u, hattempt, rfl, rfl⟩ := exists_of_send h.does
  obtain ⟨n, hrepeats⟩ := Retry.exists_repeats_of_attempt plain_attemptOnce repeats_of_onRetry hattempt
  have hu : u.task = some (t.repeated n) := by rw [hrepeats.task, ht]; rfl
  have hsettled (k : Nat) : (settledTask k (t.repeated n)).stage = .inProgress := by
    cases n <;> simp [settledTask, Task.repeated, hstage]
  rw [hu, Option.map_some]
  refine ⟨⟨n, ?_⟩, _, rfl, hsettled _, rfl, rfl⟩
  rw [Deed.stages_append, hrepeats.told (by rw [ht]; rfl), Deed.stages_tells_some, hsettled, Stage.burst]

/-- Requests leave a task in progress that is in progress, whatever each of them tells it. -/
theorem stages_of_series {ps : List (Sent τ)} (h : Series (f.IsSent b) s ds ps s') (ht : s.task = some t)
    (hstage : t.stage = .inProgress) : (∃ ns : List Nat, Deed.stages ds = ns.flatMap Stage.burst) ∧ Goes t s' := by
  induction h generalizing t with
  | idle hidle => exact ⟨⟨[], hidle.stages⟩, t, ht, hstage, rfl, rfl⟩
  | cons hidle hsent _ ih =>
      obtain ⟨⟨n, hn⟩, t', ht', hstage', hcategory, hfailure⟩ := hsent.stages ht hstage
      obtain ⟨⟨ns, hns⟩, t'', ht'', hstage'', hcategory', hfailure'⟩ := ih ht' hstage'
      refine ⟨⟨n :: ns, ?_⟩, t'', ht'', hstage'', hcategory'.trans hcategory, hfailure'.trans hfailure⟩
      rw [Deed.stages_append, Deed.stages_append, hidle.stages, hn, hns, List.nil_append, List.flatMap_cons]

/-! ## Words -/

/-- What answers are listened to, when these deeds are done. -/
def listening (ds : List (Deed τ Request Reply)) : Watch τ Request Reply where
  flag := .own
  Heard := Deed.Answered ds
  Told fault := ∃ q, Deed.Answered ds q (.error fault)
  told_of_heard h := ⟨_, h⟩

section

variable {all : List (Deed τ Request Reply)} (hall : ds ⊆ all)

include hall

/-- An attempt comes to a success that was brought, or to a fault. -/
theorem tells_of_attemptOnce {x : Except (Fault τ) Response} (h : (f.attemptOnce b q).Does s ds x s') :
    Tells (listening all).Told (f.Had (Deed.Answered all) q) x := by
  rcases h.exists_of_bind with ⟨fault, hacquire, rfl⟩ | ⟨taken, permit, t, rest, rfl, -, hpaid⟩
  · -- only the permit was denied
    obtain ⟨-, ⟨⟨_, hpermit⟩, -⟩ | ⟨hdenied, -⟩⟩ :=
      (attains_acquire_booked (b := b) (g := ⟨0, 0, .start⟩) f.flag _ f.patience _).of_does hacquire
    · cases hpermit
    · exact fun hword => absurd hword (Fault.not_isWord_of_isDenial hdenied)
  · have hheard : ∀ d ∈ rest, d.Hears (Deed.Answered all) := fun d hd =>
      Deed.hears_answered d (hall (List.mem_append_right _ hd))
    exact (heeds_paid (v := listening all) b q).tells_of_does hpaid hheard

theorem IsSent.tells {p : Sent τ} (h : f.IsSent b s ds p s') :
    Tells (listening all).Told (f.Had (Deed.Answered all) p.request) p.outcome := by
  have hgiven := h.given
  generalize p.outcome = y at hgiven ⊢
  cases hgiven with
  | called hcall hcalled hlasting => exact tells_of_attemptOnce (List.Subset.trans hcalled hall) hcall
  | stopped => exact nofun
  | refused hrefusal => exact fun hword => absurd hword (Fault.not_isWord_of_isRefusal hrefusal)
  | gaveUp => exact nofun

end

/-! ## Faults -/

omit [Seconds τ] in
theorem not_isTransient_of_ofReading {x : Reading α} {fault : Fault τ} (h : ofReading x = .error fault) :
    fault.isTransient = false := by
  unfold ofReading at h
  split at h <;> cases h <;> rfl

omit [Seconds τ] in
theorem not_isTransient_of_refuseUnchanged {conditional : Bool} {response : Response} {fault : Fault τ}
    (h : refuseUnchanged conditional response = .error fault) : fault.isTransient = false := by
  unfold refuseUnchanged at h
  split at h
  · split at h <;> cases h <;> rfl
  · cases h

variable {r : Repository} {category : Category} {previous earlier : Option (Finding τ)} {fault : Fault τ}
  {ps : List (Sent τ)}

omit [Seconds τ] in
theorem Unread.not_isTransient {p : Sent τ} (h : Unread f r category previous p fault) : fault.isTransient = false := by
  cases h with
  | count hread hrequest hanswer hfault =>
      obtain h | ⟨_, -, h⟩ := bind_eq_error.mp hfault
      · exact not_isTransient_of_refuseUnchanged h
      · exact not_isTransient_of_ofReading h
  | page hread hrequest hanswer hfault =>
      obtain h | ⟨_, -, h⟩ := bind_eq_error.mp hfault
      · exact not_isTransient_of_refuseUnchanged h
      · obtain h | ⟨_, -, h⟩ := bind_eq_error.mp h
        · exact not_isTransient_of_ofReading h
        · cases h

/-- No passing trouble ends the work of a fetch. -/
theorem Made.not_isTransient (h : f.Made r category previous s ds (.error fault) s' ps) :
    fault.isTransient = false := by
  obtain ⟨failed, hbreaks⟩ := h.breaks fault rfl
  cases hbreaks with
  | unanswered hanswered hfault =>
      obtain ⟨t, ds', t', hsent, -⟩ := h.sent.exists_of_mem (List.mem_concat_self)
      have hgiven := hsent.given
      rw [hfault] at hgiven
      exact hgiven.not_isTransient
  | unread hanswered hunread => exact hunread.not_isTransient
  | paused hanswered hpause => cases hpause <;> rfl

/-- A word that ends the work of a fetch was told by the service; that nothing has changed the status of an answer may
say, too. -/
theorem Made.told (h : f.Made r category previous s ds (.error fault) s' ps) (hword : fault.IsWord) :
    (∃ q, Deed.Answered ds q (.error fault)) ∨
      fault = .unchanged ∧ ∃ q reply, Deed.Answered ds q (.ok reply) ∧ reply.status = 304 := by
  obtain ⟨failed, hbreaks⟩ := h.breaks fault rfl
  have hbrought {p : Sent τ} {response : Response} (hp : p ∈ ps) (hanswer : p.outcome = .ok response)
      (hstatus : response.status = 304) : ∃ q reply, Deed.Answered ds q (.ok reply) ∧ reply.status = 304 := by
    obtain ⟨t, ds', t', hsent, hds⟩ := h.sent.exists_of_mem hp
    have htells := hsent.tells hds
    rw [hanswer] at htells
    obtain ⟨reply, hreply, rfl⟩ := htells.brought
    exact ⟨_, reply, hreply, hstatus⟩
  cases hbreaks with
  | @unanswered ps p _ hanswered hfault =>
      obtain ⟨t, ds', t', hsent, hds⟩ := h.sent.exists_of_mem List.mem_concat_self
      have htells := hsent.tells hds
      rw [hfault] at htells
      exact .inl (htells hword)
  | unread hanswered hunread =>
      cases hunread with
      | count hread hrequest hanswer hfault =>
          obtain ⟨rfl, -, hstatus⟩ := unchanged_of_countOf hword hfault
          exact .inr ⟨rfl, hbrought List.mem_concat_self hanswer hstatus⟩
      | page hread hrequest hanswer hfault =>
          obtain ⟨rfl, -, hstatus⟩ := unchanged_of_pageOf hword hfault
          exact .inr ⟨rfl, hbrought List.mem_concat_self hanswer hstatus⟩
  | paused hanswered hpause => cases hpause <;> exact hword.elim

/-! ## One category -/

/-- The stage that the end of a fetch writes to its task, if the work of the fetch came to `y` and the fetch to `x`. -/
def lastStages : Except (Fault τ) (Finding τ) → Except (Fault τ) (Except (Failure τ) (Finding τ)) → List Stage
  | _, .ok (.ok _) => [.succeeded]
  | _, .ok (.error _) => [.failed]
  | .error .unchanged, .error _ => [.succeeded]
  | _, .error _ => []

variable {x : Except (Fault τ) (Except (Failure τ) (Finding τ))}

/-- How a fetch leaves a task, of which all this was told, if the work of the fetch came to `y` and the fetch to `x`. -/
structure LeavesTask (previous : Option (Finding τ)) (y : Except (Fault τ) (Finding τ))
    (x : Except (Fault τ) (Except (Failure τ) (Finding τ))) (before : Task τ) (told : List Stage) (t : Task τ) :
    Prop where
  path : ∃ bursts : List Nat, (∀ n ∈ bursts, 0 < n) ∧
    Stage.written before.stage told = .inProgress :: (bursts.flatMap Stage.burst ++ lastStages y x)
  unfinished : ∀ stage ∈ told.dropLast, stage.isDone = false
  category : t.category = before.category
  succeeded : t.stage = .succeeded ↔ (∃ finding, x = .ok (.ok finding)) ∨ y = .error .unchanged
  /-- The work of the fetch may have come to a finding only, or to the word that nothing has changed. -/
  found : ∀ finding, x = .ok (.ok finding) → y = .ok finding ∨ y = .error .unchanged ∧ previous = some finding
  failed : ∀ failure, x = .ok (.error failure) → t.stage = .failed ∧ t.failure = some failure ∧
    ∃ fault, y = .error fault ∧ failure.cause = some fault ∧ fault.Gives failure.reason
  escaped : ∀ fault, x = .error fault → y ≠ .error .unchanged → t.stage = .inProgress ∧ t.failure = before.failure ∧
    y = .error fault ∧ fault.isTransient = false ∧ ∀ reason, ¬ fault.Gives reason
  /-- Nothing has changed, but there is nothing to hand back. -/
  lost : ∀ fault, x = .error fault → y = .error .unchanged → previous = none ∧ fault = .anomaly .noParts

omit [Seconds τ] in
/-- The end of a fetch writes one stage at most, and all that is told before it is of work that goes on. -/
theorem path_of_bursts (last : Option Stage) (ns : List Nat) {told : List Stage}
    (htold : told = .inProgress :: (ns.flatMap Stage.burst ++ last.toList)) (hlast : last ≠ some .inProgress) :
    (∃ bursts : List Nat, (∀ n ∈ bursts, 0 < n) ∧
        Stage.written .pending told = .inProgress :: (bursts.flatMap Stage.burst ++ last.toList)) ∧
      ∀ stage ∈ told.dropLast, stage.isDone = false := by
  subst htold
  constructor
  · refine ⟨ns.filter (0 < ·), ?_, ?_⟩
    · intro n hn
      simpa using (List.mem_filter.mp hn).2
    · have hlast : Stage.written .inProgress last.toList = last.toList := by
        cases last with
        | none => rfl
        | some stage => exact if_neg fun h => hlast (congrArg some h.2)
      have hwritten : Stage.written .pending (.inProgress :: (ns.flatMap Stage.burst ++ last.toList)) =
          .inProgress :: Stage.written .inProgress (ns.flatMap Stage.burst ++ last.toList) := rfl
      rw [hwritten, Stage.written_bursts, hlast]
  · have hgoing : ∀ stage ∈ Stage.inProgress :: ns.flatMap Stage.burst, stage.isDone = false := by
      refine List.forall_mem_cons.mpr ⟨rfl, fun stage hstage => ?_⟩
      obtain ⟨n, -, hn⟩ := List.mem_flatMap.mp hstage
      exact Stage.not_isDone_of_mem_burst hn
    intro stage hstage
    rw [← List.cons_append] at hstage
    cases last with
    | none =>
        rw [Option.toList_none, List.append_nil] at hstage
        exact hgoing stage (List.dropLast_subset _ hstage)
    | some stage =>
        rw [Option.toList_some, List.dropLast_concat] at hstage
        exact hgoing _ hstage

section

variable {y : Except (Fault τ) (Finding τ)} {finding : Finding τ} {failure : Failure τ} {told : List Stage}
  {before : Task τ} (hbefore : before.stage = .pending) (hcategory : t.category = before.category) (ns : List Nat)

include hbefore hcategory

omit [Seconds τ]

theorem leaves_of_found (hfound : y = .ok finding ∨ y = .error .unchanged ∧ previous = some finding)
    (htold : told = .inProgress :: (ns.flatMap Stage.burst ++ [.succeeded])) :
    LeavesTask previous y (.ok (.ok finding)) before told { t with stage := .succeeded } where
  path := hbefore ▸ (path_of_bursts (some .succeeded) ns htold nofun).1
  unfinished := (path_of_bursts (some .succeeded) ns htold nofun).2
  category := hcategory
  succeeded := ⟨fun _ => .inl ⟨finding, rfl⟩, fun _ => rfl⟩
  found := by
    rintro _ ⟨⟩
    exact hfound
  failed := nofun
  escaped := nofun
  lost := nofun

theorem leaves_of_failed (hy : y = .error fault) (hcause : failure.cause = some fault)
    (hreason : fault.Gives failure.reason)
    (htold : told = .inProgress :: (ns.flatMap Stage.burst ++ [.failed])) :
    LeavesTask previous y (.ok (.error failure)) before told (t.fail failure) where
  path := hbefore ▸ (path_of_bursts (some .failed) ns htold nofun).1
  unfinished := (path_of_bursts (some .failed) ns htold nofun).2
  category := hcategory
  succeeded := by
    subst hy
    constructor
    · exact nofun
    · rintro (⟨_, ⟨⟩⟩ | ⟨⟨⟩⟩)
      cases hreason
  found := nofun
  failed := by
    rintro _ ⟨⟩
    exact ⟨rfl, rfl, fault, hy, hcause, hreason⟩
  escaped := nofun
  lost := nofun

theorem leaves_of_lost (hprevious : previous = none)
    (htold : told = .inProgress :: (ns.flatMap Stage.burst ++ [.succeeded])) :
    LeavesTask previous (.error .unchanged) (.error (.anomaly .noParts)) before told
      { t with stage := .succeeded } where
  path := hbefore ▸ (path_of_bursts (some .succeeded) ns htold nofun).1
  unfinished := (path_of_bursts (some .succeeded) ns htold nofun).2
  category := hcategory
  succeeded := ⟨fun _ => .inr rfl, fun _ => rfl⟩
  found := nofun
  failed := nofun
  escaped := fun _ _ h => absurd rfl h
  lost := by
    rintro _ ⟨⟩ -
    exact ⟨hprevious, rfl⟩

theorem leaves_of_escaped (hstage : t.stage = .inProgress) (hfailure : t.failure = before.failure)
    (hunchanged : fault ≠ .unchanged) (hlasting : fault.isTransient = false) (hreason : ∀ reason, ¬ fault.Gives reason)
    (htold : told = .inProgress :: (ns.flatMap Stage.burst ++ [])) :
    LeavesTask previous (.error fault) (.error fault) before told t where
  path := by
    have hlast : lastStages (.error fault : Except (Fault τ) (Finding τ)) (.error fault) = [] := by
      cases fault <;> first | rfl | exact absurd rfl hunchanged
    rw [hlast, hbefore]
    exact (path_of_bursts none ns htold nofun).1
  unfinished := (path_of_bursts none ns htold nofun).2
  category := hcategory
  succeeded := by
    rw [hstage]
    constructor
    · exact nofun
    · rintro (⟨_, ⟨⟩⟩ | ⟨⟨⟩⟩)
      exact absurd rfl hunchanged
  found := nofun
  failed := nofun
  escaped := by
    rintro _ ⟨⟩ -
    exact ⟨hstage, hfailure, rfl, hlasting, hreason⟩
  lost := by
    rintro _ - ⟨⟩
    exact absurd rfl hunchanged

end

omit [Seconds τ] in
/-- The end of a fetch, whose work left the task in progress. -/
theorem exists_leaves_of_closes {y : Except (Fault τ) (Finding τ)} {u : Session τ} {told : List Stage} {before : Task τ}
    {rest : List (Deed τ Request Reply)} (hbefore : before.stage = .pending) (ns : List Nat)
    (hlasting : ∀ fault, y = .error fault → fault.isTransient = false) (hu : Goes before u)
    (h : Closes category previous u y rest x s')
    (htold : told = .inProgress :: (ns.flatMap Stage.burst ++ Deed.stages rest)) :
    ∃ t', s'.task = some t' ∧ LeavesTask previous y x before told t' := by
  obtain ⟨t, hu, hstage, hcategory, hfailure⟩ := hu
  have hsucceeded : (u.staged .succeeded).task = some { t with stage := .succeeded } := by
    rw [Session.staged, hu, Option.map_some]
  cases h with
  | found hidle =>
      rw [hsucceeded, Deed.stages_append, Deed.stages_tells_some, hidle.stages] at htold
      exact ⟨_, hsucceeded, leaves_of_found hbefore hcategory ns (.inl rfl) htold⟩
  | unchanged hprevious hidle hidle' =>
      rw [hsucceeded, Deed.stages_append, Deed.stages_append, Deed.stages_tells_some, hidle.stages,
        hidle'.stages] at htold
      exact ⟨_, hsucceeded, leaves_of_found hbefore hcategory ns (.inr ⟨rfl, hprevious⟩) htold⟩
  | @failed fault reason failure idle hreason hfailure hidle =>
      have hfail : u.task.map (·.fail failure) = some (t.fail failure) := by rw [hu, Option.map_some]
      rw [hfail, Deed.stages_append, Deed.stages_tells_some, hidle.stages] at htold
      subst hfailure
      exact ⟨_, hfail, leaves_of_failed hbefore hcategory ns rfl rfl (Fault.gives_iff.mpr hreason) htold⟩
  | lost hprevious hidle =>
      rw [hsucceeded, Deed.stages_append, Deed.stages_tells_some, hidle.stages] at htold
      exact ⟨_, hsucceeded, leaves_of_lost hbefore hcategory ns hprevious htold⟩
  | escaped hreason hunchanged =>
      refine ⟨t, hu, leaves_of_escaped hbefore hcategory ns hstage hfailure hunchanged (hlasting _ rfl)
        (fun reason h => ?_) htold⟩
      rw [Fault.gives_iff, hreason] at h
      cases h

/-- A fetch takes a pending task along. -/
theorem exists_leavesTask (ht : s.task = some t) (hstage : t.stage = .pending)
    (h : (f.fetch r category earlier).Does s ds x s') :
    ∃ raw y u ps t', raw ⊆ ds ∧
      (f.fetchRaw r category (comparable category earlier)).Does (s.staged .inProgress) raw y u ∧
      f.Made r category (comparable category earlier) (s.staged .inProgress) raw y u ps ∧ s'.task = some t' ∧
      LeavesTask (comparable category earlier) y x t (Deed.stages ds) t' := by
  obtain ⟨idle, raw, rest, y, u, rfl, hidle, hraw, hend⟩ := exists_of_fetch h
  obtain ⟨ps, hmade⟩ := exists_made_of_fetchRaw hraw
  have hs : (s.staged .inProgress).task = some { t with stage := .inProgress } := by rw [Session.staged, ht]; rfl
  obtain ⟨⟨ns, hns⟩, hgoes⟩ := stages_of_series hmade.sent hs rfl
  have hlasting : ∀ fault, y = .error fault → fault.isTransient = false := by
    rintro fault rfl
    exact hmade.not_isTransient
  have htold : Deed.stages (⟨.openBucket (f.bucket category), ()⟩ ::
      (Deed.tells (s.staged .inProgress).task ++ (idle ++ (raw ++ rest)))) =
        .inProgress :: (ns.flatMap Stage.burst ++ Deed.stages rest) := by
    rw [Deed.stages_cons_of_none rfl, hs]
    simp [hidle.stages, hns]
  obtain ⟨t'', ht'', hleaves⟩ := exists_leaves_of_closes hstage ns hlasting hgoes hend htold
  refine ⟨raw, y, u, ps, t'', fun d hd => ?_, hraw, hmade, ht'', hleaves⟩
  simp [hd]

end Fetcher

end RepoCensus
