import RepoCensus.Proofs.Fetch.Undisturbed
import RepoCensus.Proofs.Http.Verdict
import RepoCensus.Proofs.World.Steady

/-!
# Fetches in concord

A service that answers each request in one and the same way, and that tells neither a budget nor how long to
wait, leaves a fetch only one end. Services that agree on the requests of the fetch leave it the same one.
-/

namespace RepoCensus

open RepoCensus.Calendar

variable {τ Q R ι α β : Type}

namespace Work

/-- Work that comes to one and the same end, whichever of these behaviours it meets. -/
def Concords (B : ι → Behaviour τ Q R Unit) (w : Work τ Q R α) (n : Numbers) : Prop :=
  ∃ r n', ∀ i, Attains (B i) w n () fun r' n'' _ => r' = r ∧ n'' = n'

namespace Concords

variable {B : ι → Behaviour τ Q R Unit} {w : Work τ Q R α} {k : α → Work τ Q R β} {n : Numbers}

theorem pure (a : α) (n : Numbers) : Concords B (pure a : Work τ Q R α) n := ⟨.ok a, n, fun _ => .pure ⟨rfl, rfl⟩⟩

theorem bind (h : Concords B w n) (hk : ∀ a n', Concords B (k a) n') : Concords B (w >>= k) n := by
  obtain ⟨r, n', h⟩ := h
  cases r with
  | error fault =>
      refine ⟨.error fault, n', fun i => .bind ((h i).mono ?_)⟩
      rintro _ _ _ ⟨rfl, rfl⟩
      exact ⟨rfl, rfl⟩
  | ok a =>
      obtain ⟨r', n'', hk⟩ := hk a n'
      refine ⟨r', n'', fun i => .bind ((h i).mono ?_)⟩
      rintro _ _ _ ⟨rfl, rfl⟩
      exact hk i

theorem passes_bind {w' : Work τ Q R β} (h : ∀ i, Passes (B i) w) (hw' : Concords B w' n) :
    Concords B (w >>= fun _ => w') n := by
  obtain ⟨r, n', hw'⟩ := hw'
  exact ⟨r, n', fun i => (h i).attains_bind fun _ => hw' i⟩

end Concords

end Work

open Work

/-! ## Attempts -/

namespace Retry

variable [Seconds τ] {B : ι → Behaviour τ Q R Unit} {flag : Option Flag} {onRetry : RetryListener τ Q R}
  {operation : Work τ Q R α} {x : Except (Fault τ) α} {m : Numbers}

section

variable (hB : ∀ i, (B i).Calm flag) (hlisten : ∀ i n delay fault, Passes (B i) (onRetry n delay fault))

include hB hlisten

theorem concords_afterTrouble {r : Retry τ} {left n : Nat} {fault : Fault τ} (hhint : fault.IsHintless)
    (hmore : ∀ left', left = left' + 1 → Concords B (r.attemptFrom flag onRetry operation left' (n + 1)) m) :
    Concords B (r.afterTrouble flag onRetry operation left n fault) m := by
  cases hdelay : r.ownDelay n fault with
  | error why =>
      refine ⟨.error (.anomaly why), m, fun i => attains_afterTrouble (hB i) (hlisten i) hhint ?_⟩
      rw [hdelay]
      exact ⟨rfl, rfl⟩
  | ok wait =>
      cases left with
      | zero =>
          refine ⟨.ok (.exhausted fault n), m, fun i => attains_afterTrouble (hB i) (hlisten i) hhint ?_⟩
          rw [hdelay]
          exact ⟨rfl, rfl⟩
      | succ left =>
          obtain ⟨e, m', hmore⟩ := hmore left rfl
          refine ⟨e, m', fun i => attains_afterTrouble (hB i) (hlisten i) hhint ?_⟩
          rw [hdelay]
          exact hmore i

variable (hop : ∀ i m, Attains (B i) operation m () fun x' m' _ => x' = x ∧ m' = m)
  (hhint : ∀ fault, x = .error fault → fault.IsHintless)

include hop hhint

theorem concords_attempt_of_more {r : Retry τ} {left n first : Nat} {total : Option Nat}
    (hmore : ∀ left', left = left' + 1 →
      Concords B (r.attemptFrom flag onRetry operation left' (n + 1)) ⟨some n, total⟩) :
    Concords B (r.attemptFrom flag onRetry operation left n) ⟨some first, total⟩ := by
  cases x with
  | ok a =>
      refine ⟨.ok (.value a), ⟨some n, total⟩, fun i => attains_attemptFrom (hB i) ((hop i _).mono ?_)⟩
      rintro _ _ _ ⟨rfl, rfl⟩
      exact ⟨rfl, rfl⟩
  | error fault =>
      by_cases htransient : fault.isTransient = true
      · obtain ⟨e, m', hafter⟩ := concords_afterTrouble hB hlisten (hhint fault rfl) hmore
        refine ⟨e, m', fun i => attains_attemptFrom (hB i) ((hop i _).mono ?_)⟩
        rintro _ _ _ ⟨rfl, rfl⟩
        dsimp only
        rw [if_pos htransient]
        exact hafter i
      · refine ⟨.error fault, ⟨some n, total⟩, fun i => attains_attemptFrom (hB i) ((hop i _).mono ?_)⟩
        rintro _ _ _ ⟨rfl, rfl⟩
        dsimp only
        rw [if_neg htransient]
        exact ⟨rfl, rfl⟩

/-- An operation that always ends in the same way is tried in the same way. -/
theorem concords_attemptFrom (r : Retry τ) (left n first : Nat) (total : Option Nat) :
    Concords B (r.attemptFrom flag onRetry operation left n) ⟨some first, total⟩ := by
  induction left generalizing n first with
  | zero => exact concords_attempt_of_more hB hlisten hop hhint fun _ h => nomatch h
  | succ left ih =>
      refine concords_attempt_of_more hB hlisten hop hhint fun left' h => ?_
      cases h
      exact ih (n + 1) n

theorem concords_attempt (r : Retry τ) (m : Numbers) : Concords B (r.attempt flag onRetry operation) m := by
  obtain ⟨e, m', h⟩ := concords_attemptFrom hB hlisten hop hhint r r.policy.furtherAttempts 1 0 m.total
  refine ⟨outcome e, m', fun i => attains_attempt (hB i) ((h i).mono ?_)⟩
  rintro _ _ _ ⟨rfl, rfl⟩
  exact ⟨rfl, rfl⟩

end

end Retry

/-! ## Walks -/

namespace Walk

variable {B : ι → Behaviour τ Q R Unit} {flag : Option Flag} {limits : WalkLimits}
  {fetch : Option String → Work τ Q R (Page α)} (hB : ∀ i, (B i).Calm flag)
  (hfetch : ∀ cursor n, Concords B (fetch cursor) n)

include hB hfetch

theorem concords_takeNext (w : Walk α) (n : Numbers) : Concords B (takeNext limits flag fetch w) n := by
  cases hcut : w.isCut limits with
  | true =>
      refine ⟨.ok (.over, { w with truncated := true }), n,
        fun i => attains_takeNext (hB i) (fun _ => ⟨rfl, rfl⟩) ?_ ?_⟩
      all_goals
        rw [hcut]
        exact fun h => nomatch h
  | false =>
      by_cases hceiling : limits.ceiling ≤ w.pages
      · refine ⟨.ok (.broken (.tooManyPages w.pages), w), n,
          fun i => attains_takeNext (hB i) ?_ (fun _ _ => ⟨rfl, rfl⟩) ?_⟩
        · rw [hcut]
          exact fun h => nomatch h
        · exact fun _ h => absurd hceiling h
      · obtain ⟨x, n', hfetch⟩ := hfetch w.cursor n
        refine ⟨.ok (w.turned x), n', fun i => attains_takeNext (hB i) ?_ (fun _ h => absurd h hceiling) fun _ _ => ?_⟩
        · rw [hcut]
          exact fun h => nomatch h
        · refine (hfetch i).mono ?_
          rintro _ _ _ ⟨rfl, rfl⟩
          exact ⟨rfl, rfl⟩

theorem concords_advance (w : Walk α) (n : Numbers) : Concords B (advance limits flag fetch w) n := by
  unfold advance
  split
  · exact concords_takeNext hB hfetch w n
  · split
    · exact .pure _ n
    · split
      · exact .pure _ n
      · split
        · exact .passes_bind (fun i => .log (hB i) _ _) (concords_takeNext hB hfetch _ n)
        · exact concords_takeNext hB hfetch _ n

/-- A walk whose pages are always the same always comes to the same end. -/
theorem concords_collectFrom (turns : Nat) (taken : List (List α)) (w : Walk α) (n : Numbers) :
    Concords B (collectFrom limits flag fetch turns taken w) n := by
  induction turns generalizing taken w n with
  | zero => exact .pure _ n
  | succ turns ih =>
      refine (concords_advance hB hfetch w n).bind fun turn n' => ?_
      obtain ⟨_ | _ | _, w'⟩ := turn
      · exact ih _ w' n'
      · exact .pure _ n'
      · exact .pure _ n'

end Walk

/-! ## Fetches -/

variable [Seconds τ]

/-- An answer that tells neither a budget nor how long to wait, or an ordinary fault that does not tell it. -/
def Conventions.IsHintless (conventions : Conventions) : Except (Fault τ) Reply → Prop
  | .error fault => fault.isOrdinary = true ∧ fault.IsHintless
  | .ok reply => reply.IsBudgetless conventions ∧
      (reply.response.header? conventions.retryAfterHeader).filter (· ≠ "") = none

namespace Fetcher

variable {f : Fetcher τ} {r : Repository} {category : Category} {previous : Option (Finding τ)} {q : Request}
  {answers : ι → Request → Except (Fault τ) Reply} {answer : Except (Fault τ) Reply} {bucket : Bucket}

section

variable {conventions : Conventions} {reply : Reply} (h : conventions.IsHintless (.ok reply : Except (Fault τ) Reply))

include h

theorem exists_troubleOf_of_isHintless (url detail : String) :
    ∃ fault : Fault τ, fault.IsHintless ∧ ∀ now, reply.response.troubleOf conventions now url detail = .ok fault := by
  obtain ⟨hbudgetless, hretry⟩ := h
  have hbudget : reply.response.budget conventions = (.ok none : Except Anomaly (Option (Budget τ))) :=
    reply.budget_of_isBudgetless hbudgetless
  have hafter : ∀ now : τ, reply.response.retryAfter conventions now = .ok none := by
    intro now
    unfold Response.retryAfter
    rw [hretry]
  have hrefusal : ∀ now : τ, reply.response.refusal conventions now url detail =
      .ok (if reply.response.status = 429 then
          .rateLimited ("Rate limit exceeded" ++ detail) (some reply.response.status) none none
        else .permanent (s!"Access forbidden to {url}" ++ detail) (some reply.response.status)) := by
    intro now
    unfold Response.refusal
    rw [hafter, hbudget]
    by_cases h : reply.response.status = 429 <;> simp [h] <;> rfl
  unfold Response.troubleOf
  simp only [hrefusal]
  split
  · exact ⟨_, by trivial, fun _ => rfl⟩
  · split
    · refine ⟨_, ?_, fun _ => rfl⟩
      split
      · exact ⟨rfl, rfl⟩
      · trivial
    · repeat' split
      all_goals exact ⟨_, by trivial, fun _ => rfl⟩

/-- What a hintless reply tells does not depend on the time at which it is looked at. -/
theorem verdict_of_isHintless (room : Nat) (url : String) :
    ∃ v : Except Anomaly (Option (Fault τ)), (∀ now, reply.response.verdict room conventions now url = v) ∧
      ∀ fault, v = .ok (some fault) → fault.IsHintless := by
  cases hsuccess : reply.response.isSuccess with
  | true => exact ⟨.ok none, fun _ => Response.verdict_of_isSuccess hsuccess, nofun⟩
  | false =>
      cases hdetail : reply.response.detail room with
      | error why =>
          refine ⟨.error why, fun now => ?_, nofun⟩
          rw [Response.verdict_eq hsuccess, hdetail]
          rfl
      | ok detail =>
          obtain ⟨fault, hhint, htrouble⟩ := exists_troubleOf_of_isHintless h url detail
          refine ⟨.ok (some fault), fun now => ?_, ?_⟩
          · rw [Response.verdict_eq hsuccess, hdetail]
            exact congrArg (Except.map some) (htrouble now)
          · rintro _ ⟨⟩
            exact hhint

end

theorem takenFor_of_isHintless (h : f.conventions.IsHintless answer) (url : String) :
    ∃ x, (∀ now, f.takenFor now url answer = x) ∧ ∀ fault, x = .error fault → fault.IsHintless := by
  cases answer with
  | error fault =>
      refine ⟨.error fault, fun _ => rfl, ?_⟩
      rintro _ ⟨⟩
      exact h.2
  | ok reply =>
      obtain ⟨v, hverdict, hhint⟩ := verdict_of_isHintless h f.room url
      refine ⟨f.judge Seconds.zero url reply.response, fun now => ?_, fun fault hfault => ?_⟩
      · show f.judge now url reply.response = _
        unfold judge
        rw [hverdict, hverdict]
      · unfold judge at hfault
        rw [hverdict] at hfault
        obtain why | _ | fault' := v
        · cases hfault
          trivial
        · cases hfault
        · cases hfault
          exact hhint fault rfl

/-- How a service with such answers behaves. -/
abbrev steadily (f : Fetcher τ) (answer : Request → Except (Fault τ) Reply) : Behaviour τ Request Reply Unit :=
  (Conduct.steady answer).behaviour f.flag

omit [Seconds τ] in
theorem calm_steadily (answer : Request → Except (Fault τ) Reply) : (f.steadily answer).Calm f.flag :=
  Conduct.calm _ _

section

variable (hdirect : f.transport = .direct) (hpatience : 1 ≤ f.patience)

include hdirect hpatience

theorem concords_send (hanswers : ∀ i, answers i q = answer) (hhint : f.conventions.IsHintless answer) (n : Numbers) :
    Concords (fun i => f.steadily (answers i)) (f.send bucket q) n := by
  obtain ⟨x, htaken, hhintless⟩ := takenFor_of_isHintless hhint q.url
  have hop : ∀ i m, Attains (f.steadily (answers i)) (f.attemptOnce bucket q) m ()
      fun x' m' _ => x' = x ∧ m' = m := by
    intro i m
    refine attains_attemptOnce (calm_steadily _) (fun _ => .ok ()) hdirect hpatience ⟨(), trivial⟩ fun _ _ _ => ?_
    refine ⟨⟨_, (), rfl⟩, ?_⟩
    rintro _ _ rfl
    rw [hanswers i]
    refine hears_of_isBudgetless ?_ fun now => ⟨htaken now, rfl⟩
    rintro reply rfl
    exact hhint.1
  obtain ⟨x', n', h⟩ := Retry.concords_attempt (fun i => calm_steadily (answers i))
    (fun i => passes_onRetry (calm_steadily (answers i))) hop hhintless f.retry n
  refine ⟨x', settled n', fun i => attains_send (calm_steadily _) ((h i).mono ?_)⟩
  rintro _ _ _ ⟨rfl, rfl⟩
  exact ⟨rfl, rfl⟩

variable {common : Request → Except (Fault τ) Reply}
  (hanswers : ∀ i cursor, answers i (f.pageRequest r category previous cursor) =
    common (f.pageRequest r category previous cursor))
  (hhint : ∀ cursor, f.conventions.IsHintless (common (f.pageRequest r category previous cursor)))

include hanswers hhint

theorem concords_fetchPage (read : List UInt8 → Reading (List Record)) (cursor : Option String) (n : Numbers) :
    Concords (fun i => f.steadily (answers i)) (f.fetchPage r category previous read cursor) n := by
  obtain ⟨x, n', h⟩ := concords_send hdirect hpatience (fun i => hanswers i cursor) (hhint cursor) n
  refine ⟨x.bind (f.pageOf read cursor.isNone previous.isSome), n', fun i => attains_fetchPage ((h i).mono ?_)⟩
  rintro _ _ _ ⟨rfl, rfl⟩
  exact ⟨rfl, rfl⟩

theorem concords_fetchRaw (n : Numbers) : ∃ x n', ∀ i, Attains (f.steadily (answers i))
    (f.fetchRaw r category previous) n () fun x' n'' _ => x'.map Finding.gist = x ∧ n'' = n' := by
  cases hreader : category.endpoint.reader with
  | count read =>
      obtain ⟨x, n', h⟩ := concords_send hdirect hpatience (fun i => hanswers i none) (hhint none) n
      refine ⟨f.countGist (read f.room) previous.isSome x, n', fun i => attains_fetchRaw (calm_steadily _) ?_ ?_⟩
      · rintro read' hread
        cases hreader.symm.trans hread
        refine (h i).mono ?_
        rintro _ _ _ ⟨rfl, rfl⟩ now
        exact ⟨map_gist_finding _ _ _, rfl⟩
      · exact fun _ hread => nomatch hreader.symm.trans hread
  | page read =>
      obtain ⟨x, n', h⟩ := Walk.concords_collectFrom (fun i => calm_steadily (answers i))
        (concords_fetchPage hdirect hpatience hanswers hhint (read f.room)) ((Walk.start none).turnsLeft f.limits) []
        (.start none) n
      refine ⟨walkGist x, n', fun i => attains_fetchRaw (calm_steadily _) ?_ ?_⟩
      · exact fun _ hread => nomatch hreader.symm.trans hread
      · rintro read' hread
        cases hreader.symm.trans hread
        refine (h i).mono ?_
        rintro _ _ _ ⟨rfl, rfl⟩ now
        exact ⟨map_gist_finding _ _ _, rfl⟩

end

/-- A fetch comes to the same end whenever the services agree on the answers to its requests. -/
theorem concords_fetch (hdirect : f.transport = .direct) (hpatience : 1 ≤ f.patience)
    {common : Request → Except (Fault τ) Reply} {earlier : Option (Finding τ)}
    (hanswers : ∀ i cursor, answers i (f.pageRequest r category (comparable category earlier) cursor) =
      common (f.pageRequest r category (comparable category earlier) cursor))
    (hhint : ∀ cursor, f.conventions.IsHintless
      (common (f.pageRequest r category (comparable category earlier) cursor))) (n : Numbers) :
    ∃ x n', ∀ i, Attains (f.steadily (answers i)) (f.fetch r category earlier) n ()
      fun x' n'' _ => x'.map (Except.map Finding.gist) = x ∧ n'' = n' := by
  obtain ⟨x, n', h⟩ := concords_fetchRaw hdirect hpatience hanswers hhint n
  cases x with
  | error fault =>
      refine ⟨(concluded category (comparable category earlier) n'.latest (.error fault)).map
        (Except.map Finding.gist), n', fun i => attains_fetch (calm_steadily _) ((h i).mono ?_)⟩
      rintro (fault' | finding) n'' _ ⟨hx, rfl⟩
      · cases hx
        exact ⟨rfl, rfl⟩
      · cases hx
  | ok gist =>
      refine ⟨.ok (.ok gist), n', fun i => attains_fetch (calm_steadily _) ((h i).mono ?_)⟩
      rintro (fault' | finding) n'' _ ⟨hx, rfl⟩
      · cases hx
      · cases hx
        exact ⟨rfl, rfl⟩

end Fetcher

end RepoCensus
