import RepoCensus.Fetch.Basic
import RepoCensus.Proofs.Pages.Undisturbed
import RepoCensus.Proofs.Retry.Undisturbed

/-!
# Undisturbed fetches

What a fetch makes of the answers to its requests, where nothing disturbs the work.
-/

namespace RepoCensus

open RepoCensus.Calendar

variable {τ G : Type}

/-! ## What is found -/

/-- What a finding tells, its category and the time of the fetch apart. -/
structure Gist where
  value : Value
  freshness : Option Freshness
  pages : Int
  truncated : Bool

def Finding.gist (p : Finding τ) : Gist := ⟨p.value, p.freshness, p.pages, p.truncated⟩

def Gist.finding (category : Category) (fetchedAt : τ) (x : Gist) : Finding τ :=
  ⟨category, x.value, x.freshness, fetchedAt, x.pages, x.truncated⟩

theorem map_gist_finding {ε : Type} (category : Category) (fetchedAt : τ) (x : Except ε Gist) :
    (x.map (Gist.finding category fetchedAt)).map Finding.gist = x := by
  cases x <;> rfl

/-- How budgets of a bucket are passed on, and how that ends. -/
def Behaviour.Tells (B : Behaviour τ Request Reply G) (bucket : Bucket) (tell : Budget τ → Except Anomaly Unit)
    (budget : Budget τ) : Prop :=
  ∀ g, B.allows g (.update bucket budget) ∧
    ∀ a g', B.answers g (.update bucket budget) a g' → a = tell budget ∧ g' = g

/-- An answer without a budget: it does not tell both the requests left and the time of the next window. -/
def Reply.IsBudgetless (conventions : Conventions) (reply : Reply) : Prop :=
  reply.response.number? conventions.remainingHeader = none ∨ reply.response.number? conventions.resetHeader = none

variable [Seconds τ]

theorem Reply.budget_of_isBudgetless {conventions : Conventions} {reply : Reply} (h : reply.IsBudgetless conventions) :
    reply.response.budget conventions = (.ok none : Except Anomaly (Option (Budget τ))) := by
  unfold Response.budget
  rcases h with h | h
  · rw [h]
  · rw [h]
    cases reply.response.number? conventions.remainingHeader <;> rfl

namespace Fetcher

open Work

variable {f : Fetcher τ} {B : Behaviour τ Request Reply G} {n : Numbers} {g : G} {bucket : Bucket} {q : Request}
  {tell : Budget τ → Except Anomaly Unit}

/-! ## One request -/

omit [Seconds τ] in
/-- The requests that a fetch keeps of a budget. -/
def margin (f : Fetcher τ) : Option Int := some f.options.safetyMargin.floor

def judge (f : Fetcher τ) (now : τ) (url : String) (response : Response) : Except (Fault τ) Response := do
  match ← Fault.lift (response.verdict f.room f.conventions now url) with
  | some fault => throw fault
  | none => return response

/-- What is made of an answer: the budget that it tells is passed on, and then it is judged. -/
def hear (f : Fetcher τ) (tell : Budget τ → Except Anomaly Unit) (now : τ) (url : String) (reply : Reply) :
    Except (Fault τ) Response := do
  match ← Fault.lift (reply.response.budget f.conventions) with
  | some budget => Fault.lift (tell budget)
  | none => pure ()
  f.judge now url reply.response

theorem hear_of_no_budget {now : τ} {url : String} {reply : Reply}
    (h : reply.response.budget f.conventions = (.ok none : Except Anomaly (Option (Budget τ)))) :
    f.hear tell now url reply = f.judge now url reply.response := by
  unfold hear
  rw [h]
  rfl

theorem hear_of_budget {now : τ} {url : String} {reply : Reply} {budget : Budget τ}
    (h : reply.response.budget f.conventions = .ok (some budget)) :
    f.hear tell now url reply =
      match tell budget with
      | .ok _ => f.judge now url reply.response
      | .error why => .error (.anomaly why) := by
  unfold hear
  rw [h]
  show ((Fault.lift (tell budget)).bind fun _ => f.judge now url reply.response) = _
  cases tell budget <;> rfl

/-- How an answer is taken in: the budgets that it may tell are passed on as `tell` says. -/
def Hears (f : Fetcher τ) (B : Behaviour τ Request Reply G) (bucket : Bucket)
    (tell : Budget τ → Except Anomaly Unit) (url : String) (answer : Except (Fault τ) Reply)
    (post : Except (Fault τ) Response → Prop) : Prop :=
  match answer with
  | .error fault => post (.error fault)
  | .ok reply => (∀ budget, reply.response.budget f.conventions = .ok (some budget) → B.Tells bucket tell budget) ∧
      ∀ now, post (f.hear tell now url reply)

theorem Hears.mono {url : String} {answer : Except (Fault τ) Reply} {post post' : Except (Fault τ) Response → Prop}
    (h : f.Hears B bucket tell url answer post) (hpost : ∀ x, post x → post' x) :
    f.Hears B bucket tell url answer post' := by
  cases answer with
  | error fault => exact hpost _ h
  | ok reply => exact ⟨h.1, fun now => hpost _ (h.2 now)⟩

/-- What is made of an answer that tells no budget. -/
def takenFor (f : Fetcher τ) (now : τ) (url : String) (answer : Except (Fault τ) Reply) : Except (Fault τ) Response :=
  answer.bind fun reply => f.judge now url reply.response

theorem hears_of_isBudgetless {url : String} {answer : Except (Fault τ) Reply} {post : Except (Fault τ) Response → Prop}
    (hanswer : ∀ reply, answer = .ok reply → reply.IsBudgetless f.conventions)
    (h : ∀ now, post (f.takenFor now url answer)) : f.Hears B bucket tell url answer post := by
  cases answer with
  | error fault => exact h Seconds.zero
  | ok reply =>
      have hbudget : reply.response.budget f.conventions = (.ok none : Except Anomaly (Option (Budget τ))) :=
        reply.budget_of_isBudgetless (hanswer reply rfl)
      refine ⟨fun budget hb => ?_, fun now => ?_⟩
      · rw [hbudget] at hb
        cases hb
      · rw [hear_of_no_budget hbudget]
        exact h now

section

variable (hB : B.Calm f.flag)

include hB

theorem attains_judge {post : Except (Fault τ) Response → Numbers → G → Prop} {url : String} {response : Response}
    (h : ∀ now, post (f.judge now url response) n g) : Attains B (do
      let now ← clock
      match ← ofExcept (Fault.lift (response.verdict f.room f.conventions now url)) with
      | some fault => throw fault
      | none => return response : Fetch τ Response) n g post := by
  refine (Passes.clock hB).attains_bind fun now => .bind (.ofExcept ?_)
  have h := h now
  unfold judge at h
  cases hverdict : response.verdict f.room f.conventions now url with
  | error why => rw [hverdict] at h; exact h
  | ok fault =>
      rw [hverdict] at h
      cases fault with
      | some fault => exact .throw h
      | none => exact .pure h

theorem attains_attemptOnce (tell : Budget τ → Except Anomaly Unit)
    {post : Except (Fault τ) Response → Numbers → G → Prop} (hdirect : f.transport = .direct)
    (hpatience : 1 ≤ f.patience) (hpay : B.allows g (.reserve bucket f.margin))
    (h : ∀ permit g₁, B.answers g (.reserve bucket f.margin) (.ok permit) g₁ → B.allows g₁ (.ask q) ∧
      ∀ answer g₂, B.answers g₁ (.ask q) answer g₂ → f.Hears B bucket tell q.url answer fun r => post r n g₂) :
    Attains B (f.attemptOnce bucket q) n g post := by
  refine .bind (attains_acquire hB hpatience hpay fun permit g₁ hpermit => ?_)
  obtain ⟨hask, hanswers⟩ := h permit g₁ hpermit
  simp only [hdirect, Transport.send, ask, bind_assoc]
  refine .bind (attains_step hB hask fun answer g₂ hanswer => ?_)
  have hhears := hanswers answer g₂ hanswer
  refine .bind (.ofExcept ?_)
  cases answer with
  | error fault => exact hhears
  | ok reply =>
      obtain ⟨htells, hheard⟩ := hhears
      refine .pure_bind (.bind (.ofExcept ?_))
      cases hbudget : (reply.response.budget f.conventions : Except Anomaly (Option (Budget τ))) with
      | error why =>
          have hheard := hheard Seconds.zero
          unfold hear at hheard
          rw [hbudget] at hheard
          exact hheard
      | ok budget =>
          cases budget with
          | none =>
              simp only [hear_of_no_budget hbudget] at hheard
              exact attains_judge hB hheard
          | some budget =>
              simp only [hear_of_budget hbudget] at hheard
              obtain ⟨hallows, htold⟩ := htells budget hbudget g₂
              refine .bind (attains_step hB hallows fun a g₃ ha => ?_)
              obtain ⟨rfl, rfl⟩ := htold a g₃ ha
              refine .bind (.ofExcept ?_)
              cases htell : tell budget with
              | error why => rw [htell] at hheard; exact hheard Seconds.zero
              | ok _ => rw [htell] at hheard; exact attains_judge hB hheard

theorem passes_onRetry (n : Nat) (delay : τ) (fault : Fault τ) : Passes B (onRetry n delay fault) := by
  refine .of_attains fun m g post h => .session_bind fun s _ => ?_
  obtain ⟨attempts, task⟩ := s
  cases task with
  | none => exact .pure (h ())
  | some t =>
      refine (Passes.setStage hB .retrying).attains_bind fun _ => ?_
      exact .ite (fun _ => (Passes.log hB _ _).attains h) fun _ => .pure (h ())

/-- The numbers after a request that took so many attempts. -/
def settled (m : Numbers) : Numbers := ⟨m.latest, m.total.map (· + m.latest.getD 0)⟩

theorem attains_send {post : Except (Fault τ) Response → Numbers → G → Prop}
    (h : Attains B (f.retry.attempt f.flag onRetry (f.attemptOnce bucket q)) n g fun r m => post r (settled m)) :
    Attains B (f.send bucket q) n g post := by
  refine .result_bind (h.mono fun r m g' hr => .bind ?_)
  refine .attemptCount_bind (attains_updateTask hB (· + m.latest.getD 0) (fun _ => rfl) ?_)
  exact .ofExcept hr

/-! ## Reading answers -/

/-- The count that an answer holds. -/
def countOf (read : List UInt8 → Reading Tally) (conditional : Bool) (response : Response) :
    Except (Fault τ) Tally := do
  refuseUnchanged conditional response
  ofReading (read response.body)

/-- What is found out from the answer to a request for a count. -/
def countGist (f : Fetcher τ) (read : List UInt8 → Reading Tally) (conditional : Bool)
    (x : Except (Fault τ) Response) : Except (Fault τ) Gist := do
  let response ← x
  let count ← countOf read conditional response
  return ⟨.count count, f.freshnessOf response, 1, false⟩

def itemsGist (items : List Record) (walk : Walk Record) : Gist :=
  ⟨.records items, walk.firstPage.bind Page.freshness, walk.pages, walk.truncated⟩

/-- What is found out by a walk. -/
def walkGist (x : Except (Fault τ) (Except (Fault τ) (List Record) × Walk Record)) : Except (Fault τ) Gist :=
  (Walk.gathered x).map fun e => itemsGist e.1 e.2

/-- The page that an answer holds; only the first page has a mark. -/
def pageOf (f : Fetcher τ) (read : List UInt8 → Reading (List Record)) (isFirst conditional : Bool)
    (response : Response) : Except (Fault τ) (Page Record) := do
  refuseUnchanged (isFirst && conditional) response
  return {
    items := ← ofReading (read response.body)
    next := Link.next? (response.header? f.conventions.linkHeader)
    freshness := if isFirst then f.freshnessOf response else none }

variable {r : Repository} {category : Category} {previous : Option (Finding τ)}

omit hB in
theorem fetchCount_eq (read : List UInt8 → Reading Tally) : f.fetchCount r category previous read = (do
    let response ← f.send (f.bucket category) (f.firstRequest r category previous)
    let count ← ofExcept (countOf read previous.isSome response)
    return Gist.finding category (← clock) ⟨.count count, f.freshnessOf response, 1, false⟩) := by
  simp only [fetchCount, countOf, ofExcept_bind, bind_assoc]
  rfl

theorem attains_fetchCount {read : List UInt8 → Reading Tally}
    {post : Except (Fault τ) (Finding τ) → Numbers → G → Prop}
    (h : Attains B (f.send (f.bucket category) (f.firstRequest r category previous)) n g fun x m g' =>
      ∀ now, post ((f.countGist read previous.isSome x).map (Gist.finding category now)) m g') :
    Attains B (f.fetchCount r category previous read) n g post := by
  rw [fetchCount_eq]
  refine .bind (h.mono fun x m g' hx => ?_)
  cases x with
  | error fault => exact hx Seconds.zero
  | ok response =>
      refine .bind (.ofExcept ?_)
      unfold countGist at hx
      dsimp only [bind, Except.bind] at hx
      cases hcount : (countOf read previous.isSome response : Except (Fault τ) Tally) with
      | error fault => rw [hcount] at hx; exact hx Seconds.zero
      | ok count =>
          rw [hcount] at hx
          exact (Passes.clock hB).attains_bind fun now => .pure (hx now)

/-- The request for the page at a cursor; without a cursor it is the first request for the category. -/
def pageRequest (f : Fetcher τ) (r : Repository) (category : Category) (previous : Option (Finding τ)) :
    Option String → Request
  | none => f.firstRequest r category previous
  | some url => { url := url }

omit hB in
theorem fetchPage_eq (read : List UInt8 → Reading (List Record)) (cursor : Option String) :
    f.fetchPage r category previous read cursor = (do
      let response ← f.send (f.bucket category) (f.pageRequest r category previous cursor)
      ofExcept (f.pageOf read cursor.isNone previous.isSome response)) := by
  cases cursor <;> simp only [fetchPage, pageOf, pageRequest, ofExcept_bind] <;> rfl

omit hB in
theorem attains_fetchPage {read : List UInt8 → Reading (List Record)} {cursor : Option String}
    {post : Except (Fault τ) (Page Record) → Numbers → G → Prop}
    (h : Attains B (f.send (f.bucket category) (f.pageRequest r category previous cursor)) n g fun x =>
      post (x.bind (f.pageOf read cursor.isNone previous.isSome))) :
    Attains B (f.fetchPage r category previous read cursor) n g post := by
  rw [fetchPage_eq]
  refine .bind (h.mono fun x m g' hx => ?_)
  cases x with
  | error fault => exact hx
  | ok response => exact .ofExcept hx

theorem attains_fetchCollection {read : List UInt8 → Reading (List Record)}
    {post : Except (Fault τ) (Finding τ) → Numbers → G → Prop}
    (h : Attains B (Walk.collect f.limits f.flag (f.fetchPage r category previous read) (.start none)) n g
      fun x m g' => ∀ now, post ((walkGist x).map (Gist.finding category now)) m g') :
    Attains B (f.fetchCollection r category previous read) n g post := by
  refine .bind (h.mono fun x m g' hx => ?_)
  cases x with
  | error fault => exact hx Seconds.zero
  | ok walked =>
      obtain ⟨items, walk⟩ := walked
      refine .bind (.ofExcept ?_)
      cases items with
      | error fault => exact hx Seconds.zero
      | ok items =>
          have hclock : Attains B (do
              return Gist.finding category (← clock) ⟨.records items, walk.firstPage.bind Page.freshness,
                walk.pages, walk.truncated⟩ : Fetch τ (Finding τ)) m g' post :=
            (Passes.clock hB).attains_bind fun now => .pure (hx now)
          exact .ite (fun _ => (Passes.log hB _ _).attains_bind fun _ => hclock) fun _ => hclock

/-- The work of a fetch finds what its reader makes of the answers. -/
theorem attains_fetchRaw {post : Except (Fault τ) (Finding τ) → Numbers → G → Prop}
    (hcount : ∀ read, category.endpoint.reader = .count read →
      Attains B (f.send (f.bucket category) (f.firstRequest r category previous)) n g fun x m g' =>
        ∀ now, post ((f.countGist (read f.room) previous.isSome x).map (Gist.finding category now)) m g')
    (hpage : ∀ read, category.endpoint.reader = .page read →
      Attains B (Walk.collect f.limits f.flag (f.fetchPage r category previous (read f.room)) (.start none)) n g
        fun x m g' => ∀ now, post ((walkGist x).map (Gist.finding category now)) m g') :
    Attains B (f.fetchRaw r category previous) n g post := by
  refine (Passes.check hB).attains_bind fun _ => ?_
  cases hreader : category.endpoint.reader with
  | count read => exact attains_fetchCount hB (hcount read hreader)
  | page read => exact attains_fetchCollection hB (hpage read hreader)

/-! ## One category -/

/-- What a fetch makes of the end of its work, if the latest request took so many attempts. -/
def concluded (category : Category) (previous : Option (Finding τ)) (latest : Option Nat) :
    Except (Fault τ) (Finding τ) → Except (Fault τ) (Except (Failure τ) (Finding τ))
  | .ok finding => .ok (.ok finding)
  | .error fault =>
    match fault, previous with
    | .unchanged, some finding => .ok (.ok finding)
    | .unchanged, none => .error (.anomaly .noParts)
    | _, _ =>
      match Failure.reasonOf? fault with
      | some reason => .ok (.error ⟨category, reason, some fault, latest.getD 0⟩)
      | none => .error fault

theorem attains_fetch {earlier : Option (Finding τ)}
    {post : Except (Fault τ) (Except (Failure τ) (Finding τ)) → Numbers → G → Prop}
    (h : Attains B (f.fetchRaw r category (comparable category earlier)) n g fun x m =>
      post (concluded category (comparable category earlier) m.latest x) m) :
    Attains B (f.fetch r category earlier) n g post := by
  refine (Passes.openBucket hB _).attains_bind fun _ => ?_
  refine (Passes.setStage hB _).attains_bind fun _ => ?_
  refine (Passes.log hB _ _).attains_bind fun _ => .result_bind (h.mono fun x m g' hx => ?_)
  have hsucceed : ∀ finding, post (.ok (.ok finding)) m g' → Attains B (do
      return .ok (← succeed r finding category) : Fetch τ (Except (Failure τ) (Finding τ))) m g' post := by
    intro finding hx
    simp only [succeed, bind_assoc, pure_bind]
    refine (Passes.setStage hB _).attains_bind fun _ => ?_
    exact (Passes.log hB _ _).attains_bind fun _ => .pure hx
  cases x with
  | ok finding => exact hsucceed finding hx
  | error fault =>
      have hfail : post (match Failure.reasonOf? fault with
          | some reason => .ok (.error ⟨category, reason, some fault, m.latest.getD 0⟩)
          | none => .error fault) m g' → Attains B (match Failure.reasonOf? fault with
          | some reason => do return .error (← fail category reason fault)
          | none => throw fault : Fetch τ (Except (Failure τ) (Finding τ))) m g' post := by
        intro hx
        cases hreason : Failure.reasonOf? fault with
        | none => rw [hreason] at hx; exact .throw hx
        | some reason =>
            rw [hreason] at hx
            simp only [fail, bind_assoc, pure_bind]
            refine .attemptCount_bind (Passes.attains_bind (Passes.updateTask hB fun _ => rfl) fun _ => ?_)
            exact (Passes.log hB _ _).attains_bind fun _ => .pure hx
      generalize comparable category earlier = previous at hx ⊢
      cases previous with
      | none =>
          cases fault with
          | unchanged =>
              refine (Passes.log hB _ _).attains_bind fun _ => ?_
              exact (Passes.setStage hB _).attains_bind fun _ => .throw hx
          | _ => exact hfail hx
      | some finding =>
          cases fault with
          | unchanged => exact (Passes.log hB _ _).attains_bind fun _ => hsucceed finding hx
          | _ => exact hfail hx

end

end Fetcher

end RepoCensus
