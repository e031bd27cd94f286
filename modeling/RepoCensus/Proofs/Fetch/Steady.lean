import RepoCensus.Proofs.Fetch.Undisturbed
import RepoCensus.Proofs.Http.Verdict
import RepoCensus.Proofs.Pages.Steady
import RepoCensus.Proofs.Retry.Steady
import RepoCensus.Proofs.World.Steady

/-!
# Fetches from a steady service

What a fetch finds at a steady service whose permits are never refused can be told from the answers alone, whatever
the service tells of its budgets and however long it asks to wait.
-/

namespace RepoCensus

open RepoCensus.Calendar Work

variable {τ : Type} [Seconds τ]

/-- An answer that tells no budget, or one whose next window a clock can show. -/
def Reply.IsTellable (τ : Type) [Seconds τ] (conventions : Conventions) (reply : Reply) : Prop :=
  ∃ budget : Option (Budget τ), reply.response.budget conventions = .ok budget ∧
    ∀ b, budget = some b → ∃ moment, b.resetMoment = .ok moment

theorem Reply.IsBudgetless.isTellable {conventions : Conventions} {reply : Reply} (h : reply.IsBudgetless conventions) :
    reply.IsTellable τ conventions :=
  ⟨none, reply.budget_of_isBudgetless h, nofun⟩

/-- The response to a request, if it is a success. -/
def answered (answer : Request → Except (Fault τ) Reply) (q : Request) : Option Response :=
  match answer q with
  | .ok reply => if reply.response.isSuccess then some reply.response else none
  | .error _ => none

namespace Fetcher

variable {f : Fetcher τ} {answer : Request → Except (Fault τ) Reply} {bucket : Bucket} {q : Request}

/-! ## One request -/

/-- A service that tells no budgets but such as a clock can show, and whose own faults do not say that nothing has
changed. -/
structure Serves (f : Fetcher τ) (answer : Request → Except (Fault τ) Reply) : Prop where
  honest : ∀ q, answer q ≠ .error .unchanged
  tellable : ∀ q reply, answer q = .ok reply → reply.IsTellable τ f.conventions

/-- How such a service behaves. -/
abbrev keeping (f : Fetcher τ) (answer : Request → Except (Fault τ) Reply) :
    Behaviour τ Request Reply (Ledger Request) :=
  (Conduct.ledger answer).behaviour f.flag

theorem calm_keeping : (f.keeping answer).Calm f.flag := Conduct.calm _ _

theorem leaves_judge (now : τ) (url : String) (response : Response) :
    Leaves (if response.isSuccess then some response else none) (f.judge now url response) := by
  unfold judge
  cases hsuccess : response.isSuccess with
  | true =>
      rw [Response.verdict_of_isSuccess hsuccess]
      rfl
  | false =>
      cases hverdict : (response.verdict f.room f.conventions now url : Except Anomaly (Option (Fault τ))) with
      | error why => exact Leaves.of_error nofun
      | ok v =>
          obtain ⟨fault, rfl, hfault⟩ := Response.exists_fault_of_verdict hsuccess hverdict
          exact Leaves.of_error hfault.ne_unchanged

section

variable (hserves : f.Serves answer) (hdirect : f.transport = .direct) (hpatience : 1 ≤ f.patience)

include hserves in
/-- What is made of an answer is the response that it holds. -/
theorem hears_of_serves : f.Hears (f.keeping answer) bucket (fun _ => .ok ()) q.url (answer q)
    (Leaves (answered answer q)) := by
  unfold answered
  cases hanswer : answer q with
  | error fault => exact Leaves.of_error fun h => hserves.honest q (h ▸ hanswer)
  | ok reply =>
      obtain ⟨budget, hbudget, hmoment⟩ := hserves.tellable q reply hanswer
      refine ⟨fun b hb => ?_, fun now => ?_⟩
      · cases hbudget.symm.trans hb
        refine fun g => ⟨⟨.ok (), g, hmoment b rfl, rfl, rfl⟩, ?_⟩
        rintro a g' ⟨_, ha, hg⟩
        exact ⟨ha, hg⟩
      · cases budget with
        | none =>
            rw [hear_of_no_budget hbudget]
            exact leaves_judge now q.url reply.response
        | some b =>
            rw [hear_of_budget hbudget]
            exact leaves_judge now q.url reply.response

include hserves hdirect hpatience

theorem yields_attemptOnce : Yields (f.keeping answer) (f.attemptOnce bucket q) (answered answer q) := by
  intro n g
  refine attains_attemptOnce calm_keeping (fun _ => .ok ()) hdirect hpatience ⟨_, rfl⟩ fun _ g₁ _ => ?_
  refine ⟨⟨_, _, rfl, rfl⟩, ?_⟩
  rintro _ g₂ ⟨rfl, _⟩
  exact hears_of_serves hserves

theorem yields_send : Yields (f.keeping answer) (f.send bucket q) (answered answer q) := by
  intro n g
  have hop : Yields (f.keeping answer) (f.attemptOnce bucket q) (answered answer q) :=
    yields_attemptOnce hserves hdirect hpatience
  exact attains_send calm_keeping (Retry.yields_attempt calm_keeping (passes_onRetry calm_keeping) hop n g)

end

/-! ## What can be read -/

section

variable (f : Fetcher τ) (r : Repository) (category : Category) (answer : Request → Except (Fault τ) Reply)

/-- The page at a cursor, if it can be read. -/
def pageAt (read : List UInt8 → Reading (List Record)) (cursor : Option String) : Option (Page Record) :=
  (answered answer (f.pageRequest r category none cursor)).bind fun response =>
    (f.pageOf read cursor.isNone false response).toOption

/-- What a request for a count tells, if it can be read. -/
def countAt (read : List UInt8 → Reading Tally) : Option Gist :=
  (answered answer (f.firstRequest r category none)).bind fun response =>
    (f.countGist read false (.ok response)).toOption

/-- What is found at a service. -/
def finds : Option Gist :=
  match category.endpoint.reader with
  | .count read => f.countAt r category answer (read f.room)
  | .page read =>
    let start : Walk Record := .start none
    (Walk.gatherIn f.limits (f.pageAt r category answer (read f.room)) (start.turnsLeft f.limits) [] start).map fun e =>
      itemsGist e.1 e.2

end

/-! ## What is read -/

omit [Seconds τ] in
theorem leaves_ofReading_map {α β : Type} (x : Reading α) (k : α → β) :
    Leaves ((ofReading x : Except (Fault τ) α).map k).toOption ((ofReading x).map k : Except (Fault τ) β) := by
  unfold ofReading
  split
  · rfl
  · exact ⟨rfl, nofun⟩
  · exact ⟨rfl, nofun⟩

section

variable {response : Response} (h : response.status ≠ 304)

include h

omit [Seconds τ] in
theorem pageOf_eq (read : List UInt8 → Reading (List Record)) (isFirst conditional : Bool) :
    f.pageOf read isFirst conditional response = (ofReading (read response.body)).map fun items =>
      ⟨items, Link.next? (response.header? f.conventions.linkHeader),
        if isFirst then f.freshnessOf response else none⟩ := by
  unfold pageOf refuseUnchanged
  rw [if_neg h]
  dsimp only [bind, Except.bind]
  cases (ofReading (read response.body) : Except (Fault τ) (List Record)) <;> rfl

omit [Seconds τ] in
theorem countGist_eq (read : List UInt8 → Reading Tally) (conditional : Bool) :
    f.countGist read conditional (.ok response) = (ofReading (read response.body)).map fun count =>
      ⟨.count count, f.freshnessOf response, 1, false⟩ := by
  unfold countGist countOf refuseUnchanged
  dsimp only [bind, Except.bind]
  rw [if_neg h]
  cases (ofReading (read response.body) : Except (Fault τ) Tally) <;> rfl

end

/-- An end with a finding of this category that tells this, or with none. -/
def LeavesFinding (category : Category) (o : Option Gist) (x : Except (Fault τ) (Finding τ)) : Prop :=
  Leaves o (x.map Finding.gist) ∧ ∀ finding, x = .ok finding → finding.category = category

omit [Seconds τ] in
theorem leavesFinding {category : Category} {o : Option Gist} {x : Except (Fault τ) Gist} (h : Leaves o x) (now : τ) :
    LeavesFinding category o (x.map (Gist.finding category now)) := by
  refine ⟨by rwa [map_gist_finding], ?_⟩
  cases x with
  | error fault => exact fun _ h => nomatch h
  | ok gist => rintro _ ⟨⟩; rfl

/-- A service that answers a first request as if nothing were known from before. -/
structure Anew (f : Fetcher τ) (r : Repository) (category : Category) (answer : Request → Except (Fault τ) Reply)
    (previous : Option (Finding τ)) : Prop where
  same : answer (f.firstRequest r category previous) = answer (f.firstRequest r category none)
  plain : ∀ cursor reply, answer (f.pageRequest r category none cursor) = .ok reply → reply.status ≠ 304

section

variable {r : Repository} {category : Category} {previous : Option (Finding τ)}
  (hanew : f.Anew r category answer previous)

include hanew

omit [Seconds τ] in
theorem Anew.answered_eq (cursor : Option String) :
    answered answer (f.pageRequest r category previous cursor) =
      answered answer (f.pageRequest r category none cursor) := by
  cases cursor with
  | some url => rfl
  | none =>
      unfold answered pageRequest
      rw [hanew.same]

omit [Seconds τ] in
theorem Anew.status_ne {cursor : Option String} {response : Response}
    (h : answered answer (f.pageRequest r category none cursor) = some response) : response.status ≠ 304 := by
  unfold answered at h
  split at h
  · rename_i reply hreply
    split at h
    · cases h
      exact hanew.plain cursor reply hreply
    · cases h
  · cases h

variable (hserves : f.Serves answer) (hdirect : f.transport = .direct) (hpatience : 1 ≤ f.patience)

include hserves hdirect hpatience

theorem yields_fetchPage (read : List UInt8 → Reading (List Record)) (cursor : Option String) :
    Yields (f.keeping answer) (f.fetchPage r category previous read cursor)
      (f.pageAt r category answer read cursor) := by
  intro n g
  refine attains_fetchPage ((yields_send hserves hdirect hpatience n g).mono fun x _ _ hx => ?_)
  rw [hanew.answered_eq cursor] at hx
  refine hx.bind fun response hresponse => ?_
  rw [pageOf_eq (hanew.status_ne hresponse), pageOf_eq (hanew.status_ne hresponse)]
  exact leaves_ofReading_map _ _

/-- What the work of a fetch leaves can be told from the answers alone. -/
theorem attains_fetchRaw_of_anew (n : Numbers) (g : Ledger Request) :
    Attains (f.keeping answer) (f.fetchRaw r category previous) n g fun x _ _ =>
      LeavesFinding category (f.finds r category answer) x := by
  refine attains_fetchRaw calm_keeping (fun read hread => ?_) fun read hread => ?_
  · refine (yields_send hserves hdirect hpatience n g).mono fun x _ _ hx => leavesFinding ?_
    have hfirst : answered answer (f.firstRequest r category previous) =
        answered answer (f.firstRequest r category none) :=
      hanew.answered_eq none
    rw [hfirst] at hx
    have hcount : f.finds r category answer = f.countAt r category answer (read f.room) := by
      unfold finds
      rw [hread]
    rw [hcount]
    have hbind : f.countGist (read f.room) previous.isSome x =
        x.bind fun response => f.countGist (read f.room) previous.isSome (.ok response) := by
      cases x <;> rfl
    rw [hbind]
    refine hx.bind fun response hresponse => ?_
    have hpage : answered answer (f.pageRequest r category none none) = some response := hresponse
    have hstatus : response.status ≠ 304 := hanew.status_ne hpage
    rw [countGist_eq hstatus, countGist_eq hstatus]
    exact leaves_ofReading_map _ _
  · have hpage : ∀ cursor, Yields (f.keeping answer) (f.fetchPage r category previous (read f.room) cursor)
        (f.pageAt r category answer (read f.room) cursor) :=
      yields_fetchPage hanew hserves hdirect hpatience (read f.room)
    refine (Walk.attains_collectFrom_of_yields calm_keeping hpage _ _ _ n g).mono fun x _ _ hx => leavesFinding ?_
    have hpages : f.finds r category answer = (Walk.gatherIn f.limits
        (f.pageAt r category answer (read f.room)) ((Walk.start none : Walk Record).turnsLeft f.limits) [] (.start none)).map fun e => itemsGist e.1 e.2 := by
      unfold finds
      rw [hread]
    rw [hpages]
    exact hx.map _

end

/-! ## What is found -/

section

variable {r : Repository} {category : Category} {gist : Gist}

omit [Seconds τ] in
theorem freshness_of_countAt {read : List UInt8 → Reading Tally} (h : f.countAt r category answer read = some gist) :
    ∃ response, answered answer (f.firstRequest r category none) = some response ∧
      gist.freshness = f.freshnessOf response := by
  obtain ⟨response, hresponse, hgist⟩ := Option.bind_eq_some_iff.mp h
  refine ⟨response, hresponse, ?_⟩
  unfold countGist at hgist
  dsimp only [bind, Except.bind] at hgist
  cases hcount : (countOf read false response : Except (Fault τ) Tally) with
  | error fault => rw [hcount] at hgist; cases hgist
  | ok count => rw [hcount] at hgist; cases hgist; rfl

omit [Seconds τ] in
theorem freshness_of_pageAt {read : List UInt8 → Reading (List Record)} {p : Page Record}
    (h : f.pageAt r category answer read none = some p) :
    ∃ response, answered answer (f.firstRequest r category none) = some response ∧
      p.freshness = f.freshnessOf response := by
  obtain ⟨response, hresponse, hpage⟩ := Option.bind_eq_some_iff.mp h
  refine ⟨response, hresponse, ?_⟩
  unfold pageOf at hpage
  dsimp only [bind, Except.bind] at hpage
  split at hpage
  · cases hpage
  · cases hitems : (ofReading (read response.body) : Except (Fault τ) (List Record)) with
    | error fault => rw [hitems] at hpage; cases hpage
    | ok items => rw [hitems] at hpage; cases hpage; rfl

omit [Seconds τ] in
/-- The mark of what is found is that of the answer to the first request. -/
theorem freshness_of_finds (hopen : (Walk.start none : Walk Record).isCut f.limits = false)
    (h : f.finds r category answer = some gist) :
    ∃ response, answered answer (f.firstRequest r category none) = some response ∧
      gist.freshness = f.freshnessOf response := by
  unfold finds at h
  split at h
  · exact freshness_of_countAt h
  · obtain ⟨⟨items, walk⟩, hwalk, rfl⟩ := Option.map_eq_some_iff.mp h
    obtain ⟨p, hp, hfirst⟩ := Walk.begun_of_gatherIn hopen (.inl rfl) hwalk
    obtain ⟨response, hresponse, hfreshness⟩ := freshness_of_pageAt hp
    refine ⟨response, hresponse, ?_⟩
    show walk.firstPage.bind Page.freshness = _
    rw [hfirst]
    exact hfreshness

/-- Services that have the same pages of a category: the same answer to a count, or the same pages all along the
chain. -/
def SamePages (f : Fetcher τ) (r : Repository) (category : Category)
    (answer answer' : Request → Except (Fault τ) Reply) :
    Prop :=
  match category.endpoint.reader with
  | .count read => f.countAt r category answer' (read f.room) = f.countAt r category answer (read f.room)
  | .page read => ∀ cursor, Page.Leads (f.pageAt r category answer (read f.room)) cursor →
      f.pageAt r category answer' (read f.room) cursor = f.pageAt r category answer (read f.room) cursor

omit [Seconds τ] in
theorem finds_eq_of_samePages {answer' : Request → Except (Fault τ) Reply} (h : f.SamePages r category answer answer') :
    f.finds r category answer' = f.finds r category answer := by
  unfold SamePages at h
  unfold finds
  split at h
  · exact h
  · dsimp only
    rw [Walk.gatherIn_congr h _ _ (Walk.follows_start _)]

end

end Fetcher

end RepoCensus
