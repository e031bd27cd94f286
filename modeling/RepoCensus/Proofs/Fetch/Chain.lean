import RepoCensus.Proofs.Fetch.Requests
import RepoCensus.Proofs.Fetch.Undisturbed
import RepoCensus.Proofs.Pages.Chain
import RepoCensus.Proofs.World.Played

/-!
# Fetching a chain of pages

A collection whose pages lead from one to the next is fetched as if there were no passing troubles: what is
found is the pages themselves, and each request is repeated once for each trouble.
-/

namespace RepoCensus

open RepoCensus.Calendar

variable {σ τ : Type}

/-! ## Leaves -/

/-- A page of a collection as the service hands it out: some troubles, and then the page. -/
structure Leaf (τ : Type) where
  troubles : List (Except (Fault τ) Reply)
  reply : Reply
  items : List Record

/-- The leaves that are read: all of them, or as many as pages are allowed. -/
def Options.Counts.reads {o : Options τ} (n : o.Counts) (leaves : List (Leaf τ)) : List (Leaf τ) :=
  match n.pages with
  | some m => leaves.take m.toNat
  | none => leaves

namespace Fetcher

/-- A trouble that passes, and that is no limit of the service. If it is an answer, there is room for its body. -/
def IsPlain (f : Fetcher τ) : Except (Fault τ) Reply → Prop
  | .error fault => fault.isTransient = true ∧ fault.isRateLimit = false
  | .ok reply => (reply.status = 202 ∨ reply.status = 408 ∨ 500 ≤ reply.status) ∧
    reply.IsBudgetless f.conventions ∧ Fits f.room reply.body

/-- A leaf that can be had: fewer plain troubles than attempts, each with a wait after it, and a page that can
be read. -/
structure Bears [Seconds τ] (f : Fetcher τ) (n : f.options.Counts)
    (read : Nat → List UInt8 → Reading (List Record)) (leaf : Leaf τ) : Prop where
  plain : ∀ answer ∈ leaf.troubles, f.IsPlain answer
  few : (leaf.troubles.length : Int) < n.attempts
  delays : ∀ i, i < leaf.troubles.length → ∃ wait, f.retry.policy.backoff (i : Int) = .ok wait
  status : 200 ≤ leaf.reply.status ∧ leaf.reply.status < 300 ∧ leaf.reply.status ≠ 202
  budgetless : leaf.reply.IsBudgetless f.conventions
  body : read f.room leaf.reply.body = .ok leaf.items

/-! ## Requests, answers and pages -/

section

variable (f : Fetcher τ)

/-- Where the page leads to. -/
def leadsTo (leaf : Leaf τ) : Option String := Link.next? (leaf.reply.response.header? f.conventions.linkHeader)

/-- The pages of leaves of which the first one is had at a cursor. -/
def pages : Option String → List (Leaf τ) → List (Page Record)
  | _, [] => []
  | cursor, leaf :: rest =>
    ⟨leaf.items, f.leadsTo leaf, if cursor.isNone then f.freshnessOf leaf.reply.response else none⟩ ::
      pages (f.leadsTo leaf) rest

variable (r : Repository) (category : Category) (previous : Option (Finding τ))

/-- The requests by which leaves are had, each with its answer. -/
def script : Option String → List (Leaf τ) → List (Request × Except (Fault τ) Reply)
  | _, [] => []
  | cursor, leaf :: rest =>
    (leaf.troubles ++ [Except.ok leaf.reply]).map (f.pageRequest r category previous cursor, ·) ++
      script (f.leadsTo leaf) rest

/-- The requests by which leaves are had: each of them once, and once more for each trouble. -/
def requests : Option String → List (Leaf τ) → List Request
  | _, [] => []
  | cursor, leaf :: rest =>
    List.replicate (leaf.troubles.length + 1) (f.pageRequest r category previous cursor) ++
      requests (f.leadsTo leaf) rest

end

variable {f : Fetcher τ} {r : Repository} {category : Category} {previous : Option (Finding τ)}
  {cursor : Option String} {leaves : List (Leaf τ)} {leaf : Leaf τ}

theorem map_fst_script : (f.script r category previous cursor leaves).map Prod.fst =
    f.requests r category previous cursor leaves := by
  induction leaves generalizing cursor with
  | nil => rfl
  | cons leaf rest ih =>
      simp only [script, requests, List.map_append, List.map_map, ih]
      simp [Function.comp_def, List.map_const', List.replicate_succ']

theorem length_pages : (f.pages cursor leaves).length = leaves.length := by
  induction leaves generalizing cursor with
  | nil => rfl
  | cons leaf rest ih => exact congrArg Nat.succ ih

theorem take_pages (n : Nat) : (f.pages cursor leaves).take n = f.pages cursor (leaves.take n) := by
  induction leaves generalizing cursor n with
  | nil => cases n <;> rfl
  | cons leaf rest ih =>
      cases n with
      | zero => rfl
      | succ n => exact congrArg (_ :: ·) (ih n)

theorem flatMap_items_pages : (f.pages cursor leaves).flatMap Page.items = leaves.flatMap Leaf.items := by
  induction leaves generalizing cursor with
  | nil => rfl
  | cons leaf rest ih => exact congrArg (leaf.items ++ ·) ih

/-! ## One leaf -/

open Work

variable [Seconds τ]

/-- The trouble that an answer tells. -/
def troubleOf (f : Fetcher τ) (url : String) (answer : Except (Fault τ) Reply) : Fault τ :=
  match f.takenFor Seconds.zero url answer with
  | .error fault => fault
  | .ok _ => .unchanged

theorem judge_of_isSuccess {now : τ} {url : String} {response : Response} (h : response.isSuccess = true) :
    f.judge now url response = .ok response := by
  unfold judge
  rw [Response.verdict_of_isSuccess h]
  rfl

/-- Whenever an answer is judged that there is a passing trouble, it says so, if there is room for its body. -/
theorem judge_of_trouble {url : String} {response : Response}
    (h : response.status = 202 ∨ response.status = 408 ∨ 500 ≤ response.status) (hfits : Fits f.room response.body) :
    ∃ text, ∀ now, f.judge now url response = .error (.transient text (some response.status)) := by
  have hsuccess : response.isSuccess = false := by
    unfold Response.isSuccess
    simp only [Bool.or_eq_false_iff, Bool.and_eq_false_iff, decide_eq_false_iff_not]
    omega
  have hrefused : ¬ (response.status = 403 ∨ response.status = 429) := by omega
  obtain ⟨detail, hdetail⟩ := Response.exists_detail_iff.mpr hfits
  obtain ⟨text, htrouble⟩ : ∃ text, ∀ now, response.troubleOf f.conventions now url detail =
      (.ok (.transient text (some response.status)) : Except Anomaly (Fault τ)) := by
    unfold Response.troubleOf
    by_cases hpending : response.status = 202
    · exact ⟨s!"Statistics for {url} are still being computed", fun now => by simp only [if_pos hpending]⟩
    · have hbroken : response.status = 408 ∨ 500 ≤ response.status := h.resolve_left hpending
      refine ⟨s!"Server error {response.status} on {url}" ++ detail, fun now => ?_⟩
      simp only [if_neg hpending, if_neg hrefused, if_pos hbroken]
  refine ⟨text, fun now => ?_⟩
  rw [judge, Response.verdict_eq hsuccess, hdetail]
  simp only [Except.bind, htrouble]
  rfl

/-- A plain trouble is told at whatever time it is looked at. -/
theorem takenFor_of_isPlain {url : String} {answer : Except (Fault τ) Reply} (h : f.IsPlain answer) :
    (∀ now, f.takenFor now url answer = .error (f.troubleOf url answer)) ∧
      (f.troubleOf url answer).isTransient = true ∧ (f.troubleOf url answer).isRateLimit = false := by
  cases answer with
  | error fault => exact ⟨fun _ => rfl, h⟩
  | ok reply =>
      obtain ⟨text, htaken⟩ : ∃ text, ∀ now, f.takenFor now url (.ok reply) =
          .error (.transient text (some reply.status)) := judge_of_trouble h.1 h.2.2
      have htrouble : f.troubleOf url (.ok reply) = .transient text (some reply.status) := by
        unfold troubleOf
        rw [htaken]
      rw [htrouble]
      exact ⟨htaken, rfl, rfl⟩

/-! ## Playing a leaf -/

variable {bucket : Bucket} {m : Numbers} {q : Request} {rest : List (Request × Except (Fault τ) Reply)}
  {read : Nat → List UInt8 → Reading (List Record)}

/-- How a service behaves that plays a script for requests that are paid from a bucket. -/
abbrev playing (f : Fetcher τ) (bucket : Bucket) : Behaviour τ Request Reply (Prospect τ Request Reply) :=
  (Conduct.scripted τ Request Reply bucket f.margin).behaviour f.flag

omit [Seconds τ] in
theorem calm_playing : (f.playing bucket).Calm f.flag := Conduct.calm _ _

section

variable {n : f.options.Counts} (ho : f.options.Accepted) (hdirect : f.transport = .direct) (hpatience : 1 ≤ f.patience)

include hdirect hpatience

theorem attains_attemptOnce_of_played {answer : Except (Fault τ) Reply}
    (hanswer : ∀ reply, answer = .ok reply → reply.IsBudgetless f.conventions) :
    Attains (f.playing bucket) (f.attemptOnce bucket q) m (.start ((q, answer) :: rest)) fun r m' g' =>
      (∃ now, r = f.takenFor now q.url answer) ∧ m' = m ∧ g' = .start rest := by
  have hpay : (f.playing bucket).allows (.start ((q, answer) :: rest)) (.reserve bucket f.margin) :=
    ⟨⟨rest.length, (q, answer) :: rest⟩, rfl, rfl, rfl⟩
  refine attains_attemptOnce calm_playing (fun _ => .ok ()) hdirect hpatience hpay ?_
  rintro permit ⟨permits, answers⟩ ⟨_, _, _, hg⟩
  obtain ⟨hpermits, rfl⟩ := Prospect.mk.inj hg
  obtain rfl : rest.length = permits := Nat.succ.inj hpermits
  refine ⟨⟨answer, ⟨rest.length, rest⟩, rfl⟩, ?_⟩
  rintro answer' ⟨permits, answers⟩ hg
  obtain ⟨rfl, hanswers⟩ := Prospect.mk.inj hg
  obtain ⟨hentry, rfl⟩ := List.cons.inj hanswers
  obtain rfl : answer = answer' := (Prod.mk.inj hentry).2
  exact hears_of_isBudgetless hanswer fun now => ⟨⟨now, rfl⟩, rfl, rfl⟩

/-- The script still has these troubles for a request, all of them plain, and then the reply. -/
def AwaitsReply (f : Fetcher τ) (q : Request) (reply : Reply) (rest : List (Request × Except (Fault τ) Reply))
    (answers : List (Except (Fault τ) Reply)) (g : Prospect τ Request Reply) : Prop :=
  (∀ answer ∈ answers, f.IsPlain answer) ∧ g = .start ((answers ++ [Except.ok reply]).map (q, ·) ++ rest)

theorem attains_attemptOnce_of_trouble {answer : Except (Fault τ) Reply} {answers : List (Except (Fault τ) Reply)}
    {reply : Reply} {g : Prospect τ Request Reply} (h : f.AwaitsReply q reply rest (answer :: answers) g) :
    Attains (f.playing bucket) (f.attemptOnce bucket q) m g fun r m' g' =>
      r = .error (f.troubleOf q.url answer) ∧ m' = m ∧ f.AwaitsReply q reply rest answers g' := by
  obtain ⟨hplain, rfl⟩ := h
  rw [List.forall_mem_cons] at hplain
  refine (attains_attemptOnce_of_played hdirect hpatience ?_).mono ?_
  · rintro reply rfl
    exact hplain.1.2.1
  · rintro r m' g' ⟨⟨now, rfl⟩, rfl, rfl⟩
    exact ⟨(takenFor_of_isPlain hplain.1).1 now, rfl, hplain.2, rfl⟩

theorem attains_attemptOnce_of_reply {g : Prospect τ Request Reply} (hleaf : f.Bears n read leaf)
    (h : f.AwaitsReply q leaf.reply rest [] g) :
    Attains (f.playing bucket) (f.attemptOnce bucket q) m g fun r m' g' =>
      r = .ok leaf.reply.response ∧ m' = m ∧ g' = .start rest := by
  obtain ⟨-, rfl⟩ := h
  refine (attains_attemptOnce_of_played hdirect hpatience ?_).mono ?_
  · rintro reply ⟨⟩
    exact hleaf.budgetless
  · rintro r m' g' ⟨⟨now, rfl⟩, rfl, rfl⟩
    have hstatus : 200 ≤ leaf.reply.response.status ∧ leaf.reply.response.status < 300 ∧
      leaf.reply.response.status ≠ 202 := hleaf.status
    have hsuccess : leaf.reply.response.isSuccess = true := by simp [Response.isSuccess, hstatus]
    exact ⟨judge_of_isSuccess hsuccess, rfl, rfl⟩

include ho

/-- A request is repeated until the troubles are over. -/
theorem attains_send_of_played (hleaf : f.Bears n read leaf) :
    Attains (f.playing bucket) (f.send bucket q) m
      (.start ((leaf.troubles ++ [Except.ok leaf.reply]).map (q, ·) ++ rest)) fun r _ g' =>
        r = .ok leaf.reply.response ∧ g' = .start rest := by
  have hagain : ∀ answer answers m g, f.AwaitsReply q leaf.reply rest (answer :: answers) g →
      Attains (f.playing bucket) (f.attemptOnce bucket q) m g fun r m' g' =>
        r = .error (f.troubleOf q.url answer) ∧ m' = m ∧ f.AwaitsReply q leaf.reply rest answers g' :=
    fun _ _ _ _ h => attains_attemptOnce_of_trouble hdirect hpatience h
  have hdone : ∀ m g, f.AwaitsReply q leaf.reply rest [] g → Attains (f.playing bucket) (f.attemptOnce bucket q) m g
      fun r m' g' => r = .ok leaf.reply.response ∧ m' = m ∧ g' = .start rest :=
    fun _ _ h => attains_attemptOnce_of_reply hdirect hpatience hleaf h
  have hfew : leaf.troubles.length < f.retry.attempts := by
    have hattempts := attempts_retry n ho
    have hfew := hleaf.few
    omega
  refine attains_send calm_playing ((Retry.attains_attempt_of_troubles calm_playing (passes_onRetry calm_playing) hagain
    hdone ?_ hleaf.delays hfew ⟨hleaf.plain, rfl⟩).mono ?_)
  · exact fun answer h => (takenFor_of_isPlain (hleaf.plain answer h)).2
  · rintro e m' g' ⟨rfl, _, rfl⟩
    exact ⟨rfl, rfl⟩

theorem attains_fetchPage_of_played (hleaf : f.Bears n read leaf) :
    Attains (f.playing (f.bucket category)) (f.fetchPage r category previous (read f.room) cursor) m
      (.start (f.script r category previous cursor (leaf :: leaves))) fun x _ g' =>
        x = .ok ⟨leaf.items, f.leadsTo leaf, if cursor.isNone then f.freshnessOf leaf.reply.response else none⟩ ∧
          g' = .start (f.script r category previous (f.leadsTo leaf) leaves) := by
  refine attains_fetchPage ((attains_send_of_played ho hdirect hpatience hleaf).mono ?_)
  rintro x m' g' ⟨rfl, rfl⟩
  refine ⟨?_, rfl⟩
  have hchanged : leaf.reply.response.status ≠ 304 := by
    have hstatus : leaf.reply.response.status < 300 := hleaf.status.2.1
    omega
  show f.pageOf (read f.room) cursor.isNone previous.isSome leaf.reply.response = _
  unfold pageOf refuseUnchanged
  rw [if_neg hchanged]
  have hbody : read f.room leaf.reply.response.body = .ok leaf.items := hleaf.body
  rw [hbody]
  rfl

/-- The script still has the leaves that these pages come from, the first of them at the cursor. -/
def AwaitsPages (f : Fetcher τ) (n : f.options.Counts) (read : Nat → List UInt8 → Reading (List Record)) (r : Repository)
    (category : Category) (previous : Option (Finding τ)) (cursor : Option String) (pages : List (Page Record))
    (g : Prospect τ Request Reply) : Prop :=
  ∃ leaves, pages = f.pages cursor leaves ∧ (∀ leaf ∈ leaves, f.Bears n read leaf) ∧
    g = .start (f.script r category previous cursor leaves)

theorem attains_fetchPage_of_awaitsPages {page : Page Record} {pages : List (Page Record)}
    {g : Prospect τ Request Reply} (h : f.AwaitsPages n read r category previous cursor (page :: pages) g) :
    Attains (f.playing (f.bucket category)) (f.fetchPage r category previous (read f.room) cursor) m g fun x _ g' =>
      x = .ok page ∧ f.AwaitsPages n read r category previous page.next pages g' := by
  obtain ⟨leaves, hpages, hbears, rfl⟩ := h
  cases leaves with
  | nil => cases hpages
  | cons leaf leaves =>
      cases hpages
      rw [List.forall_mem_cons] at hbears
      refine (attains_fetchPage_of_played ho hdirect hpatience hbears.1).mono ?_
      rintro x m' g' ⟨rfl, rfl⟩
      exact ⟨rfl, leaves, rfl, hbears.2, rfl⟩

end

/-! ## Playing a chain -/

omit [Seconds τ] in
theorem allow_reads (n : f.options.Counts) (ho : f.options.Accepted) {first : Leaf τ} {rest : List (Leaf τ)}
    (hceiling : ((n.reads (first :: rest)).length : Int) ≤ n.ceiling) :
    ∃ left, n.reads (first :: rest) = first :: rest.take left ∧
      f.limits.Allow 0 (f.pages none (first :: rest)) (left + 1) := by
  rw [limits_eq n]
  unfold Options.Counts.reads at hceiling ⊢
  cases hpages : n.pages with
  | none =>
      rw [hpages] at hceiling
      refine ⟨rest.length, by rw [List.take_length], ?_⟩
      constructor
      · rw [length_pages]
        exact Nat.le_refl _
      · simpa using hceiling
      · intro m hm
        cases hm
      · rw [length_pages]
        exact fun h => absurd h (Nat.lt_irrefl _)
  | some m =>
      rw [hpages] at hceiling
      obtain ⟨k, hk⟩ : ∃ k : Nat, m = (k : Int) + 1 := ⟨(m - 1).toNat, by have := n.pages_pos ho hpages; omega⟩
      have htoNat : m.toNat = k + 1 := by omega
      simp only [htoNat, List.take_succ_cons, List.length_cons, List.length_take] at hceiling ⊢
      refine ⟨min k rest.length, ?_, ?_⟩
      · have htake : rest.take k = rest.take (min k rest.length) := List.take_eq_take_iff.mpr (by omega)
        rw [htake]
      · constructor
        · rw [length_pages, List.length_cons]
          omega
        · simpa using hceiling
        · rintro _ ⟨⟩
          omega
        · rw [length_pages, List.length_cons]
          intro hlt
          rw [hk]
          simp only [Option.some.injEq]
          omega

variable {first : Leaf τ}

omit [Seconds τ] in
/-- What is told of a walk that gathered the pages of some leaves. -/
theorem itemsGist_of_gathered {page : Page Record} {truncated : Bool} {items : Except (Fault τ) (List Record)}
    {walk : Walk Record} (h : Walk.Gathered page (f.pages none leaves) truncated (items, walk)) :
    ∃ records, items = .ok records ∧
      itemsGist records walk = ⟨.records (leaves.flatMap Leaf.items), page.freshness, leaves.length, truncated⟩ := by
  have hitems : items = .ok (leaves.flatMap Leaf.items) := by
    rw [← flatMap_items_pages]
    exact h.items
  have hpages : walk.pages = leaves.length := by
    rw [← length_pages]
    exact h.pages
  have hfirst : walk.firstPage = some page := h.firstPage
  have htruncated : walk.truncated = truncated := h.truncated
  refine ⟨_, hitems, ?_⟩
  rw [itemsGist, hfirst, hpages, htruncated]
  rfl

theorem attains_fetch_of_played {n : f.options.Counts} (ho : f.options.Accepted) (hdirect : f.transport = .direct)
    (hpatience : 1 ≤ f.patience) (hread : category.endpoint.reader = .page read) {earlier : Option (Finding τ)}
    (hbears : ∀ leaf ∈ first :: leaves, f.Bears n read leaf) (hlinked : Page.Linked (f.pages none (first :: leaves)))
    (hnodup : (Page.cursors (f.pages none (first :: leaves))).Nodup)
    (hceiling : ((n.reads (first :: leaves)).length : Int) ≤ n.ceiling) :
    Attains (f.playing (f.bucket category)) (f.fetch r category earlier) m
      (.start (f.script r category (comparable category earlier) none (n.reads (first :: leaves)))) fun x _ g' =>
        ∃ finding, x = .ok (.ok finding) ∧ finding.category = category ∧ finding.gist =
          ⟨.records ((n.reads (first :: leaves)).flatMap Leaf.items), f.freshnessOf first.reply.response,
            (n.reads (first :: leaves)).length,
            decide ((n.reads (first :: leaves)).length < (first :: leaves).length)⟩ ∧
          g' = .start [] := by
  obtain ⟨left, hreads, hallow⟩ := allow_reads n ho hceiling
  refine attains_fetch calm_playing ((Passes.check calm_playing).attains_bind fun _ => ?_)
  rw [hread]
  refine attains_fetchCollection calm_playing ?_
  have hfetch : ∀ cursor page pages m g,
      f.AwaitsPages n read r category (comparable category earlier) cursor (page :: pages) g →
      Attains (f.playing (f.bucket category)) (f.fetchPage r category (comparable category earlier) (read f.room) cursor) m g
        fun x _ g' => x = .ok page ∧ f.AwaitsPages n read r category (comparable category earlier) page.next pages g' :=
    fun _ _ _ _ _ h => attains_fetchPage_of_awaitsPages ho hdirect hpatience h
  rw [hreads]
  have hbears' : ∀ leaf ∈ first :: leaves.take left, f.Bears n read leaf := by
    rw [List.forall_mem_cons] at hbears ⊢
    exact ⟨hbears.1, fun leaf hleaf => hbears.2 leaf (List.mem_of_mem_take hleaf)⟩
  have hpages : f.pages none (first :: leaves.take left) = _ :: (f.pages (f.leadsTo first) leaves).take left :=
    congrArg (_ :: ·) (take_pages left).symm
  refine (Walk.attains_collect_of_linked calm_playing hfetch hlinked hnodup hallow
    ⟨first :: leaves.take left, hpages.symm, hbears', rfl⟩).mono ?_
  rintro x m' g' ⟨⟨items, walk⟩, rfl, hgathered, cursor, leaves', hnil, _, rfl⟩
  rw [← hpages] at hgathered
  obtain ⟨records, rfl, hgist⟩ := itemsGist_of_gathered hgathered
  have htruncated : left < (f.pages (f.leadsTo first) leaves).length ↔
      (first :: leaves.take left).length < (first :: leaves).length := by
    rw [length_pages, List.length_cons, List.length_cons, List.length_take]
    omega
  rw [decide_eq_decide.mpr htruncated] at hgist
  intro now
  cases leaves' with
  | cons leaf leaves' => cases hnil
  | nil => exact ⟨_, rfl, rfl, hgist, rfl⟩

/-- A chain of pages is fetched as if there were no troubles on the way. What is found is the elements of its
pages in order, as far as the options allow, and the mark of the first one. The requests are those for its pages,
each of them repeated once for each trouble. -/
theorem run_fetch_of_chain {d : Draft τ} (hd : d.checked = .ok f.options) (n : f.options.Counts)
    (hdirect : f.transport = .direct) (hpatience : 1 ≤ f.patience) (hread : category.endpoint.reader = .page read)
    (earlier : Option (Finding τ)) (hbears : ∀ leaf ∈ first :: leaves, f.Bears n read leaf)
    (hlinked : Page.Linked (f.pages none (first :: leaves)))
    (hnodup : (Page.cursors (f.pages none (first :: leaves))).Nodup)
    (hceiling : ((n.reads (first :: leaves)).length : Int) ≤ n.ceiling) {sur : Surroundings σ τ Request Reply}
    (s : Session τ) {w : World σ τ Request}
    (hplays : sur.Plays f.flag (f.script r category (comparable category earlier) none (n.reads (first :: leaves)))
      w.outside)
    (haffords : w.Affords (f.bucket category) f.margin
      (f.script r category (comparable category earlier) none (n.reads (first :: leaves))).length)
    (hown : f.flag = some .own → w.ownFlag = false) :
    let run := (f.fetch r category earlier).run sur s w
    (∃ finding s', run.1 = some (.ok (.ok finding), s') ∧ finding.category = category ∧ finding.gist =
        ⟨.records ((n.reads (first :: leaves)).flatMap Leaf.items), f.freshnessOf first.reply.response,
          (n.reads (first :: leaves)).length, decide ((n.reads (first :: leaves)).length < (first :: leaves).length)⟩) ∧
      Journal.requests (Journal.after w.journal.length run.2.journal) =
        f.requests r category (comparable category earlier) none (n.reads (first :: leaves)) := by
  intro run
  have hattains : Attains _ (f.fetch r category earlier) s.numbers _ _ :=
    attains_fetch_of_played (Draft.accepted_of_checked hd) hdirect hpatience hread hbears hlinked hnodup hceiling
  have hshown := Conduct.shown_scripted sur f.flag (f.bucket category) f.margin w
    (f.script r category (comparable category earlier) none (n.reads (first :: leaves)))
  obtain ⟨⟨x, s'⟩, g', hrun, ⟨finding, rfl, hcategory, hgist, rfl⟩, hcue⟩ :=
    hshown.run (hattains s rfl) ⟨hplays, haffords, hown, [], [], rfl, .refl w⟩
      (Program.throughout (fun _ _ => trivial) _ _)
  refine ⟨⟨finding, s', hrun, hcategory, hgist⟩, ?_⟩
  obtain ⟨done, granted, hdone, hrecords⟩ := hcue.played
  have hdone : done = _ := (List.append_nil done).symm.trans hdone.symm
  rw [← map_fst_script, ← hdone]
  exact hrecords.requests

end Fetcher

/-! ## A chain with troubles on the way -/

/-- Options with which a collection is cut off after two pages. -/
def Options.twoPages : Options Rat := { Options.usual with maxPages := some 2 }

def Options.Counts.twoPages : Options.twoPages.Counts := ⟨5, 10000, some 2, rfl, rfl, rfl⟩

def Fetcher.twoPages : Fetcher Rat := ⟨.direct, none, "https://h", .twoPages, .usual, none, 1, 960⟩

/-- Three pages, the first of which is late, and the second of which comes after a broken answer. -/
def Leaf.faltering : List (Leaf Rat) := [
  ⟨[.error (.timedOut "late" none)],
    ⟨200, [("ETag", "v1"), ("Link", "<https://h/2>; rel=\"next\"")], "\x7b\"Lean\":3\x7d".toUTF8.toList⟩,
    [.language "Lean" (.number 3)]⟩,
  ⟨[.ok ⟨503, [], []⟩],
    ⟨200, [("Link", "<https://h/3>; rel=\"next\"")], "\x7b\"C\":2\x7d".toUTF8.toList⟩,
    [.language "C" (.number 2)]⟩,
  ⟨[], ⟨200, [], "\x7b\"Go\":1\x7d".toUTF8.toList⟩, [.language "Go" (.number 1)]⟩]

/-- A place where these pages are handed out. -/
def Surroundings.faltering : Surroundings Surroundings.Hours Rat Request Reply :=
  .quiet fun _ n => ((Leaf.faltering.flatMap fun leaf => leaf.troubles ++ [Except.ok leaf.reply])[n]?).getD
    (.error .unchanged)

theorem run_fetch_of_faltering :
    let w : World Surroundings.Hours Rat Request := .start ⟨0, 0, false⟩ ⟨0, [], 0⟩
    let run := (Fetcher.twoPages.fetch ⟨"o", "n"⟩ .languages none).run .faltering .start w
    (∃ finding s', run.1 = some (.ok (.ok finding), s') ∧ finding.gist =
        ⟨.records [.language "Lean" (.number 3), .language "C" (.number 2)], some ⟨some "v1", none⟩, 2, true⟩) ∧
      Journal.requests (Journal.after w.journal.length run.2.journal) =
        [⟨"https://h/repos/o/n/languages", [("per_page", "100")], [], "GET", none⟩,
          ⟨"https://h/repos/o/n/languages", [("per_page", "100")], [], "GET", none⟩,
          ⟨"https://h/2", [], [], "GET", none⟩, ⟨"https://h/2", [], [], "GET", none⟩] := by
  intro w run
  have hbears : ∀ leaf ∈ Leaf.faltering, Fetcher.twoPages.Bears .twoPages readLanguages leaf := by
    have hdelays : ∀ (n i : Nat), i < n → ∃ wait, Fetcher.twoPages.retry.policy.backoff (i : Int) = .ok wait :=
      fun _ _ _ => ⟨_, rfl⟩
    intro leaf hleaf
    simp only [Leaf.faltering, List.mem_cons, List.not_mem_nil, or_false] at hleaf
    rcases hleaf with rfl | rfl | rfl
    · refine ⟨?_, by decide, hdelays _, by decide, .inl (by decide +kernel), by with_unfolding_all rfl⟩
      rintro _ (_ | ⟨_, ⟨⟩⟩)
      exact ⟨rfl, rfl⟩
    · refine ⟨?_, by decide, hdelays _, by decide, .inl (by decide +kernel), by with_unfolding_all rfl⟩
      rintro _ (_ | ⟨_, ⟨⟩⟩)
      exact ⟨by decide, .inl (by decide +kernel), fun _ => nofun⟩
    · exact ⟨fun _ h => (nomatch h), by decide, hdelays _, by decide, .inl (by decide +kernel), by with_unfolding_all rfl⟩
  have hd : ((Options.usual : Options Rat).draft { maxPages := some (.ok 2) }).checked =
      .ok Fetcher.twoPages.options := by rfl
  have hlinked : Page.Linked (Fetcher.twoPages.pages none Leaf.faltering) := by decide +kernel
  have hnodup : (Page.cursors (Fetcher.twoPages.pages none Leaf.faltering)).Nodup := by decide +kernel
  have hplays : Surroundings.faltering.Plays Fetcher.twoPages.flag
      (Fetcher.twoPages.script ⟨"o", "n"⟩ .languages none none (Options.Counts.twoPages.reads Leaf.faltering))
      w.outside := by
    refine Surroundings.plays_quiet rfl fun i q a h => ?_
    match i with
    | 0 => cases h; rfl
    | 1 => cases h; rfl
    | 2 => cases h; rfl
    | 3 => cases h; rfl
    | i + 4 => cases h
  have haffords : w.Affords (Fetcher.twoPages.bucket .languages) Fetcher.twoPages.margin 4 := fun budget h => nomatch h
  have hchain := Fetcher.twoPages.run_fetch_of_chain hd .twoPages rfl (Nat.le_refl 1) rfl none hbears hlinked
    hnodup (by decide) .start hplays haffords (fun h => nomatch h)
  obtain ⟨⟨finding, s', hrun, _, hgist⟩, hrequests⟩ := hchain
  refine ⟨⟨finding, s', hrun, hgist.trans ?_⟩, hrequests.trans ?_⟩
  · have hfresh : Fetcher.twoPages.freshnessOf (Leaf.faltering[0]).reply.response = some ⟨some "v1", none⟩ := by
      decide +kernel
    exact congrArg (Gist.mk _ · _ _) hfresh
  · decide +kernel

/-- How a fetch of the languages ends where the service is down at first, and says so with a body: the anomaly that ends
it, if there is one, the number of pages that are found, and the number of requests. -/
def Fetcher.languagesAfter (body : List UInt8) : Option (Option Anomaly × Option Int) × Nat :=
  let sur : Surroundings Surroundings.Hours Rat Request Reply := .quiet fun _ n =>
    .ok (if n = 0 then ⟨503, [], body⟩ else ⟨200, [], "\x7b\"Go\":1\x7d".toUTF8.toList⟩)
  let run := (Fetcher.twoPages.fetch ⟨"o", "n"⟩ .languages none).run sur .start (.start ⟨0, 0, false⟩ ⟨0, [], 0⟩)
  let ending (x : Except (Fault Rat) (Except (Failure Rat) (Finding Rat))) : Option Anomaly × Option Int :=
    match x with
    | .ok (.ok finding) => (none, some finding.pages)
    | .error (.anomaly why) => (some why, none)
    | _ => (none, none)
  (run.1.map fun e => ending e.1, (Journal.requests run.2.journal).length)

/-- An answer that the service is down ends the fetch at once if its body has one array more inside of each other than
there is room for. With an empty body the same answer is a trouble that passes. -/
theorem Fetcher.deep_trouble_ends_fetch :
    Fetcher.languagesAfter (List.replicate 961 Json.openingByte) = (some (some (.tooDeep .array), none), 1) ∧
      Fetcher.languagesAfter [] = (some (none, some 1), 2) := by
  constructor <;> decide +kernel

end RepoCensus
