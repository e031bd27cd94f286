import RepoCensus.Proofs.Fetch.Concord
import RepoCensus.Proofs.Fetch.Requests
import RepoCensus.Proofs.Fetch.Steady

/-!
# Fetching again

A service may say that nothing has changed since an earlier finding. Whoever shows it that finding is told what a
fetch from the beginning would tell.
-/

namespace RepoCensus

open RepoCensus.Calendar Work

variable {σ τ : Type}

theorem Freshness.mem_conditionalHeaders {m : Freshness} {e : String} :
    ("If-None-Match", e) ∈ m.conditionalHeaders ↔ m.etag.filter (· ≠ "") = some e := by
  unfold conditionalHeaders conditional
  simp only [List.mem_append, Option.mem_toList, Option.map_eq_some_iff, Prod.mk.injEq]
  constructor
  · rintro (⟨e', he', -, rfl⟩ | ⟨_, _, h, _⟩)
    · exact he'
    · exact absurd h (by decide)
  · exact fun h => .inl ⟨e, h, trivial, rfl⟩

namespace Fetcher

variable [Seconds τ] {f : Fetcher τ} {r : Repository} {category : Category}
  {answer answer₀ : Request → Except (Fault τ) Reply}
  {p p₀ : Finding τ}

/-! ## Marks -/

/-- The mark of the first page of a category, if it is not empty. -/
def etag (f : Fetcher τ) (r : Repository) (category : Category) (answer : Request → Except (Fault τ) Reply) :
    Option String :=
  ((answered answer (f.firstRequest r category none)).bind f.freshnessOf).bind fun m => m.etag.filter (· ≠ "")

/-- A request that names the mark of the first page. -/
def Names (f : Fetcher τ) (r : Repository) (category : Category) (answer : Request → Except (Fault τ) Reply)
    (q : Request) : Prop :=
  ∃ e, f.etag r category answer = some e ∧ ("If-None-Match", e) ∈ q.headers

/-- A service that tells that nothing has changed if and only if the mark of the first page is named, and whose
other answers depend on the address and the parameters alone. -/
structure Revalidates (f : Fetcher τ) (r : Repository) (category : Category)
    (answer : Request → Except (Fault τ) Reply) :
    Prop extends f.Serves answer where
  unchanged_iff : ∀ q, (∃ reply, answer q = .ok reply ∧ reply.status = 304) ↔ f.Names r category answer q
  otherwise : ∀ q, ¬ f.Names r category answer q → answer q = answer { q with headers := [] }

omit [Seconds τ] in
/-- A finding tells the mark of the first page from which it was made. -/
theorem etag_eq_some_iff (hopen : (Walk.start none : Walk Record).isCut f.limits = false)
    (h : f.finds r category answer = some p.gist) {e : String} :
    f.etag r category answer = some e ↔ ("If-None-Match", e) ∈ (f.firstRequest r category (some p)).headers := by
  obtain ⟨response, hresponse, hfreshness⟩ := freshness_of_finds hopen h
  have hfreshness : p.freshness = f.freshnessOf response := hfreshness
  have hheaders : (f.firstRequest r category (some p)).headers =
      ((f.freshnessOf response).map Freshness.conditionalHeaders).getD [] := by
    rw [← hfreshness]
    rfl
  unfold etag
  rw [hresponse, hheaders]
  cases hm : f.freshnessOf response with
  | none => simp [hm]
  | some m =>
      rw [Option.bind_some, hm]
      exact Freshness.mem_conditionalHeaders.symm

theorem anew_of_not_names (h : f.Revalidates r category answer) {previous : Option (Finding τ)}
    (hnames : ¬ f.Names r category answer (f.firstRequest r category previous)) :
    f.Anew r category answer previous where
  same := h.otherwise _ hnames
  plain cursor reply hreply hstatus := by
    obtain ⟨e, _, he⟩ := (h.unchanged_iff _).mp ⟨reply, hreply, hstatus⟩
    cases cursor <;> cases he

theorem Revalidates.anew (h : f.Revalidates r category answer) : f.Anew r category answer none := by
  refine anew_of_not_names h ?_
  rintro ⟨e, _, he⟩
  cases he

omit [Seconds τ] in
theorem comparable_cases (category : Category) (p : Finding τ) :
    comparable category (some p) = some p ∨ comparable category (some p) = none := by
  simp only [comparable, Option.filter]
  split
  · exact .inl rfl
  · exact .inr rfl

omit [Seconds τ] in
theorem comparable_eq_none (h : p.category ≠ category ∨ p.isMarked = false) : comparable category (some p) = none := by
  unfold comparable Option.filter
  rcases h with h | h <;> simp [h]

omit [Seconds τ] in
/-- A finding whose mark is named in the request for its category is compared with. -/
theorem comparable_of_named (hcategory : p.category = category) {e : String}
    (h : ("If-None-Match", e) ∈ (f.firstRequest r category (some p)).headers) :
    comparable category (some p) = some p := by
  have hmarked : p.isMarked = true := by
    unfold firstRequest at h
    unfold Finding.isMarked
    cases hm : p.freshness with
    | none => simp [hm] at h
    | some m =>
        have he := Freshness.mem_conditionalHeaders.mp (by simpa [hm] using h)
        obtain ⟨hetag, hne⟩ := Option.filter_eq_some_iff.mp he
        simp [Freshness.isMarked, Freshness.isMark, hetag, of_decide_eq_true hne]
  simp [comparable, Option.filter, hcategory, hmarked]

/-! ## Nothing has changed -/

section

variable (hserves : f.Serves answer) (hdirect : f.transport = .direct) (hpatience : 1 ≤ f.patience)

include hserves hdirect hpatience

/-- A success takes one request and one permit. -/
theorem attains_send_of_success (bucket : Bucket) {q : Request} {response : Response}
    (hanswer : answered answer q = some response) (n : Numbers) (g : Ledger Request) :
    Attains (f.keeping answer) (f.send bucket q) n g fun x _ g' =>
      x = .ok response ∧ g' = ⟨g.asked ++ [q], g.granted ++ [bucket]⟩ := by
  refine attains_send calm_keeping (Retry.attains_attempt calm_keeping (Retry.attains_attemptFrom calm_keeping ?_))
  refine attains_attemptOnce calm_keeping (fun _ => .ok ()) hdirect hpatience ⟨_, rfl⟩ fun _ g₁ hg₁ => ?_
  refine ⟨⟨_, _, rfl, rfl⟩, ?_⟩
  rintro _ g₂ ⟨rfl, rfl⟩
  obtain ⟨_, rfl⟩ := hg₁
  refine (hears_of_serves hserves).mono fun x hx => ?_
  rw [hanswer] at hx
  cases x with
  | error fault => cases hx.1
  | ok a => cases hx; exact ⟨rfl, rfl⟩

end

omit [Seconds τ] in
theorem countGist_of_unchanged {read : List UInt8 → Reading Tally} {response : Response} (h : response.status = 304) :
    f.countGist read true (.ok response) = .error .unchanged := by
  unfold countGist countOf refuseUnchanged
  dsimp only [bind, Except.bind]
  rw [if_pos h]
  rfl

omit [Seconds τ] in
theorem pageOf_of_unchanged {read : List UInt8 → Reading (List Record)} {response : Response}
    (h : response.status = 304) : f.pageOf read true true response = .error .unchanged := by
  unfold pageOf refuseUnchanged
  dsimp only [bind, Except.bind]
  rw [if_pos h]
  rfl

/-- A service that is shown the mark of its first page says that nothing has changed. -/
theorem exists_unchanged (h : f.Revalidates r category answer) {q : Request} (hnames : f.Names r category answer q) :
    ∃ response, answered answer q = some response ∧ response.status = 304 := by
  obtain ⟨reply, hreply, hstatus⟩ := (h.unchanged_iff q).mpr hnames
  have hstatus : reply.response.status = 304 := hstatus
  refine ⟨reply.response, ?_, hstatus⟩
  unfold answered
  rw [hreply]
  simp [Response.isSuccess, hstatus]

/-- Where nothing has changed the work of a fetch ends after one request. -/
theorem attains_fetchRaw_of_names (h : f.Revalidates r category answer) (hdirect : f.transport = .direct)
    (hpatience : 1 ≤ f.patience) (hopen : (Walk.start none : Walk Record).isCut f.limits = false)
    (hceiling : ¬ f.limits.ceiling ≤ ((Walk.start none : Walk Record).pages : Int))
    (hnames : f.Names r category answer (f.firstRequest r category (some p))) (n : Numbers) (g : Ledger Request) :
    Attains (f.keeping answer) (f.fetchRaw r category (some p)) n g fun x _ g' => x = .error .unchanged ∧
      g' = ⟨g.asked ++ [f.firstRequest r category (some p)], g.granted ++ [f.bucket category]⟩ := by
  obtain ⟨response, hresponse, hstatus⟩ := exists_unchanged h hnames
  have hsend := attains_send_of_success h.toServes hdirect hpatience (f.bucket category) hresponse n g
  refine attains_fetchRaw calm_keeping (fun read _ => ?_) fun read _ => ?_
  · refine hsend.mono ?_
    rintro _ _ _ ⟨rfl, rfl⟩ now
    have hcount : f.countGist (read f.room) (some p).isSome (.ok response) = .error .unchanged := countGist_of_unchanged hstatus
    rw [hcount]
    exact ⟨rfl, rfl⟩
  · refine Walk.attains_collectFrom (Walk.attains_advance_first calm_keeping rfl ?_)
    refine Walk.attains_takeNext calm_keeping (fun hcut => nomatch hopen.symm.trans hcut) (fun _ h => absurd h hceiling)
      fun _ _ => attains_fetchPage (hsend.mono ?_)
    rintro _ _ _ ⟨rfl, rfl⟩
    have hpage : f.pageOf (read f.room) (Walk.start none : Walk Record).cursor.isNone (some p).isSome response =
        .error .unchanged := pageOf_of_unchanged hstatus
    dsimp only [Except.bind]
    rw [hpage]
    exact fun _ => ⟨rfl, rfl⟩

/-! ## Fetching again -/

/-- The finding of a fetch, if there is one. -/
def found? : Except (Fault τ) (Except (Failure τ) (Finding τ)) → Option (Finding τ)
  | .ok (.ok finding) => some finding
  | _ => none

/-- The end of a fetch that found this, or nothing. -/
def Found (category : Category) (o : Option Gist) (x : Except (Fault τ) (Except (Failure τ) (Finding τ))) : Prop :=
  (found? x).map Finding.gist = o ∧ ∀ p, found? x = some p → p.category = category

omit [Seconds τ] in
theorem found_concluded {o : Option Gist} {x : Except (Fault τ) (Finding τ)} (h : LeavesFinding category o x)
    (previous : Option (Finding τ)) (latest : Option Nat) :
    Found category o (concluded category previous latest x) := by
  obtain ⟨hleaves, hcategory⟩ := h
  cases x with
  | ok finding =>
      refine ⟨hleaves.symm, ?_⟩
      rintro _ ⟨⟩
      exact hcategory finding rfl
  | error fault =>
      obtain ⟨rfl, hfault⟩ := hleaves
      have hnone : found? (concluded category previous latest (.error fault)) = none := by
        simp only [concluded]
        split
        · exact absurd rfl hfault
        · exact absurd rfl hfault
        · split <;> rfl
      rw [Found, hnone]
      exact ⟨rfl, fun _ h => nomatch h⟩

/-- Whatever is known from before, if the service answers as if it were not, the fetch finds what is there. -/
theorem attains_fetch_of_anew (hserves : f.Serves answer) (hdirect : f.transport = .direct) (hpatience : 1 ≤ f.patience)
    {earlier : Option (Finding τ)} (hanew : f.Anew r category answer (comparable category earlier)) (n : Numbers)
    (g : Ledger Request) : Attains (f.keeping answer) (f.fetch r category earlier) n g fun x _ _ =>
      Found category (f.finds r category answer) x :=
  attains_fetch calm_keeping ((attains_fetchRaw_of_anew hanew hserves hdirect hpatience n g).mono fun _ _ _ hx =>
    found_concluded hx _ _)

/-- Services whose marks of the first page tell whether the pages are the same. -/
def Consistent (f : Fetcher τ) (r : Repository) (category : Category)
    (answer₀ answer : Request → Except (Fault τ) Reply) :
    Prop :=
  ∀ e, f.etag r category answer₀ = some e → f.etag r category answer = some e → f.SamePages r category answer₀ answer

/-- A fetch with an earlier finding finds what is there, too; if its mark is still that of the first page, it finds the
earlier finding itself, by one request and one permit. -/
theorem attains_fetch_again (h : f.Revalidates r category answer) (hdirect : f.transport = .direct)
    (hpatience : 1 ≤ f.patience) (hopen : (Walk.start none : Walk Record).isCut f.limits = false)
    (hceiling : ¬ f.limits.ceiling ≤ ((Walk.start none : Walk Record).pages : Int))
    (hfound : f.finds r category answer₀ = some p.gist) (hcategory : p.category = category)
    (hconsistent : f.Consistent r category answer₀ answer) (n : Numbers) (g : Ledger Request) :
    Attains (f.keeping answer) (f.fetch r category (some p)) n g fun x _ g' =>
      Found category (f.finds r category answer) x ∧
        ∀ e, f.etag r category answer₀ = some e → f.etag r category answer = some e → x = .ok (.ok p) ∧
          g' = ⟨g.asked ++ [f.firstRequest r category (some p)], g.granted ++ [f.bucket category]⟩ := by
  have hmark : ∀ {e}, f.etag r category answer₀ = some e ↔
      ("If-None-Match", e) ∈ (f.firstRequest r category (some p)).headers :=
    etag_eq_some_iff hopen hfound
  by_cases hnames : f.Names r category answer (f.firstRequest r category (some p))
  · obtain ⟨e, he, hheader⟩ := hnames
    have hsame := hconsistent e (hmark.mpr hheader) he
    refine attains_fetch calm_keeping ?_
    rw [comparable_of_named hcategory hheader]
    refine (attains_fetchRaw_of_names h hdirect hpatience hopen hceiling ⟨e, he, hheader⟩ n g).mono ?_
    rintro _ _ _ ⟨rfl, rfl⟩
    refine ⟨⟨?_, ?_⟩, fun _ _ _ => ⟨rfl, rfl⟩⟩
    · rw [finds_eq_of_samePages hsame, hfound]
      rfl
    · rintro _ ⟨⟩
      exact hcategory
  · have hanew : f.Anew r category answer (comparable category (some p)) := by
      rcases comparable_cases category p with hp | hp
      · rw [hp]
        exact anew_of_not_names h hnames
      · rw [hp]
        exact h.anew
    refine (attains_fetch_of_anew h.toServes hdirect hpatience hanew n g).mono fun x _ _ hx => ⟨hx, fun e he₀ he => ?_⟩
    exact absurd ⟨e, he, hmark.mp he₀⟩ hnames

/-! ## Runs -/

/-- A fetch from a steady service that nobody cancels, and to which no permit is refused. -/
structure Unhindered (f : Fetcher τ) (r : Repository) (category : Category) (earlier : Option (Finding τ))
    (answer : Request → Except (Fault τ) Reply) (sur : Surroundings σ τ Request Reply) (s : Session τ)
    (w : World σ τ Request) : Prop where
  steady : sur.Steady answer
  uncancelled : w.Uncancelled sur f.flag
  granted : ((f.fetch r category earlier).start s).Throughout sur (World.Grants sur) w

theorem Unhindered.run {earlier : Option (Finding τ)} {sur : Surroundings σ τ Request Reply} {s : Session τ}
    {w : World σ τ Request} (h : f.Unhindered r category earlier answer sur s w)
    {post : Except (Fault τ) (Except (Failure τ) (Finding τ)) → Ledger Request → Prop}
    (hattains : ∀ n, Attains (f.keeping answer) (f.fetch r category earlier) n ⟨[], []⟩ fun x _ g => post x g) :
    ∃ x t, ((f.fetch r category earlier).run sur s w).1 = some (x, t) ∧
      post x ⟨Journal.requests (Journal.after w.journal.length ((f.fetch r category earlier).run sur s w).2.journal),
        Journal.permits (Journal.after w.journal.length ((f.fetch r category earlier).run sur s w).2.journal)⟩ := by
  obtain ⟨⟨x, t⟩, g, hrun, hpost, hkeeps⟩ := (Conduct.shown_ledger h.steady f.flag w).run (hattains s.numbers s rfl)
    ⟨h.uncancelled, .refl w⟩ h.granted
  have hrequests : Journal.requests (Journal.after w.journal.length _) = g.asked := hkeeps.records.requests
  have hpermits : Journal.permits (Journal.after w.journal.length _) = g.granted := hkeeps.records.permits
  refine ⟨x, t, hrun, ?_⟩
  unfold Work.run
  rw [hrequests, hpermits]
  exact hpost

/-- Nothing hinders a fetch where no budget is known and none is told. -/
theorem Unhindered.of_untouched (hdirect : f.transport = .direct) (hpatience : 1 ≤ f.patience)
    {earlier : Option (Finding τ)} {sur : Surroundings σ τ Request Reply} (hsteady : sur.Steady answer)
    (hhint : ∀ q, f.conventions.IsHintless (answer q)) (s : Session τ) {w : World σ τ Request}
    (hw : w.Untouched sur f.flag) : f.Unhindered r category earlier answer sur s w := by
  refine ⟨hsteady, hw.uncancelled, ?_⟩
  let answers : Unit → Request → Except (Fault τ) Reply := fun _ => answer
  have hanswers : ∀ i cursor, answers i (f.pageRequest r category (comparable category earlier) cursor) =
      answer (f.pageRequest r category (comparable category earlier) cursor) := fun _ _ => rfl
  obtain ⟨_, _, h⟩ := concords_fetch hdirect hpatience hanswers (fun _ => hhint _) s.numbers
  exact (Conduct.shown_steady hsteady f.flag).throughout (fun hw e => hw.grants e) (h () s rfl) hw

/-- A finding that was had from a service, by a fetch from the beginning or by fetching again. -/
inductive Obtained (f : Fetcher τ) (r : Repository) (category : Category) :
    (Request → Except (Fault τ) Reply) → Finding τ → Prop where
  | fetched {σ : Type} {answer : Request → Except (Fault τ) Reply} {sur : Surroundings σ τ Request Reply}
      {s t : Session τ} {w : World σ τ Request} {p : Finding τ} (hanswer : f.Revalidates r category answer)
      (h : f.Unhindered r category none answer sur s w)
      (hrun : ((f.fetch r category none).run sur s w).1 = some (.ok (.ok p), t)) : Obtained f r category answer p
  | again {σ : Type} {answer₀ answer : Request → Except (Fault τ) Reply} {sur : Surroundings σ τ Request Reply}
      {s t : Session τ} {w : World σ τ Request} {p₀ p : Finding τ} (h₀ : Obtained f r category answer₀ p₀)
      (hanswer : f.Revalidates r category answer) (hconsistent : f.Consistent r category answer₀ answer)
      (h : f.Unhindered r category (some p₀) answer sur s w)
      (hrun : ((f.fetch r category (some p₀)).run sur s w).1 = some (.ok (.ok p), t)) : Obtained f r category answer p

section

variable (hdirect : f.transport = .direct) (hpatience : 1 ≤ f.patience)
  (hopen : (Walk.start none : Walk Record).isCut f.limits = false)
  (hceiling : ¬ f.limits.ceiling ≤ ((Walk.start none : Walk Record).pages : Int))

include hdirect hpatience hopen hceiling

/-- What was had from a service is what is there. -/
theorem Obtained.finds (hp : f.Obtained r category answer p) :
    f.finds r category answer = some p.gist ∧ p.category = category := by
  have hfound : ∀ {σ : Type} {answer : Request → Except (Fault τ) Reply} {earlier : Option (Finding τ)}
      {sur : Surroundings σ τ Request Reply} {s t : Session τ} {w : World σ τ Request} {p : Finding τ},
      f.Unhindered r category earlier answer sur s w →
      ((f.fetch r category earlier).run sur s w).1 = some (.ok (.ok p), t) →
      (∀ n, Attains (f.keeping answer) (f.fetch r category earlier) n ⟨[], []⟩ fun x _ _ =>
        Found category (f.finds r category answer) x) →
      f.finds r category answer = some p.gist ∧ p.category = category := by
    intro σ answer earlier sur s t w p h hrun hattains
    obtain ⟨x, t', hrun', hgist, hcategory⟩ := h.run hattains
    cases hrun.symm.trans hrun'
    exact ⟨hgist.symm, hcategory p rfl⟩
  induction hp with
  | fetched hanswer h hrun =>
      exact hfound h hrun fun n => attains_fetch_of_anew hanswer.toServes hdirect hpatience hanswer.anew n _
  | again h₀ hanswer hconsistent h hrun ih =>
      refine hfound h hrun fun n => ?_
      exact (attains_fetch_again hanswer hdirect hpatience hopen hceiling ih.1 ih.2 hconsistent n _).mono
        fun _ _ _ hx => hx.1

end

omit [Seconds τ] in
/-- Options that are accepted let a walk begin. -/
theorem isCut_start (n : f.options.Counts) (ho : f.options.Accepted) :
    (Walk.start none : Walk Record).isCut f.limits = false := by
  rw [limits_eq n]
  cases hn : n.pages with
  | none => rfl
  | some m => exact decide_eq_false (Int.not_le.mpr (n.pages_pos ho hn))

/-- Fetching again finds what a fetch from the beginning would find. If the mark of the first page is still the same
the earlier finding itself is handed back, after one request and one permit. A finding that cannot be compared with
makes no difference at all. -/
theorem refetch_agrees {σ' : Type} {d : Draft τ} (hd : d.checked = .ok f.options) (n : f.options.Counts)
    (hdirect : f.transport = .direct) (hpatience : 1 ≤ f.patience) (hp : f.Obtained r category answer₀ p)
    (hanswer : f.Revalidates r category answer) (hconsistent : f.Consistent r category answer₀ answer)
    {sur : Surroundings σ τ Request Reply} {sur' : Surroundings σ' τ Request Reply} {s s' : Session τ}
    {w : World σ τ Request} {w' : World σ' τ Request} (hagain : f.Unhindered r category (some p) answer sur s w)
    (hfirst : f.Unhindered r category none answer sur' s' w') :
    (∃ x t x' t', ((f.fetch r category (some p)).run sur s w).1 = some (x, t) ∧
      ((f.fetch r category none).run sur' s' w').1 = some (x', t') ∧
      (found? x).map Finding.gist = (found? x').map Finding.gist ∧
      ∀ e, f.etag r category answer₀ = some e → f.etag r category answer = some e → x = .ok (.ok p) ∧
        Journal.requests (Journal.after w.journal.length ((f.fetch r category (some p)).run sur s w).2.journal) =
          [f.firstRequest r category (some p)] ∧
        Journal.permits (Journal.after w.journal.length ((f.fetch r category (some p)).run sur s w).2.journal) =
          [f.bucket category]) ∧
    ∀ p' : Finding τ, p'.category ≠ category ∨ p'.isMarked = false →
      f.fetch r category (some p') = f.fetch r category none := by
  have ho := Draft.accepted_of_checked hd
  have hopen : (Walk.start none : Walk Record).isCut f.limits = false := isCut_start n ho
  have hceiling : ¬ f.limits.ceiling ≤ ((Walk.start none : Walk Record).pages : Int) := by
    have hpos := n.ceiling_pos ho
    rw [limits_eq n]
    exact Int.not_le.mpr hpos
  constructor
  · obtain ⟨hfinds, hcategory⟩ := hp.finds hdirect hpatience hopen hceiling
    obtain ⟨x, t, hrun, ⟨hgist, _⟩, hsame⟩ := hagain.run fun m =>
      attains_fetch_again hanswer hdirect hpatience hopen hceiling hfinds hcategory hconsistent m _
    obtain ⟨x', t', hrun', hgist', _⟩ := hfirst.run fun m =>
      attains_fetch_of_anew hanswer.toServes hdirect hpatience hanswer.anew m _
    refine ⟨x, t, x', t', hrun, hrun', hgist.trans hgist'.symm, fun e he₀ he => ?_⟩
    obtain ⟨hx, hledger⟩ := hsame e he₀ he
    injection hledger with hrequests hpermits
    exact ⟨hx, hrequests, hpermits⟩
  · intro p' h
    unfold fetch
    rw [comparable_eq_none h]
    rfl

/-! ## A service with a mark -/

def sevenBody : List UInt8 := "\x7b\"stargazers_count\":7\x7d".toUTF8.toList

theorem read_sevenBody : readRepositoryField "stargazers_count" 960 sevenBody = .ok (.number 7) := by
  have h : (readRepositoryField "stargazers_count" 960 sevenBody).toOption = some (.number 7) := by decide +kernel
  revert h
  cases readRepositoryField "stargazers_count" 960 sevenBody with
  | error _ => exact nofun
  | ok n => rintro ⟨⟩; rfl

/-- A service that knows the number of stars, and that answers who shows it the mark of this answer with a reply of
its own. -/
def marked (unchanged : Reply) : Request → Except (Fault Rat) Reply := fun q =>
  if ("If-None-Match", "v1") ∈ q.headers then .ok unchanged
  else .ok ⟨200, [("ETag", "v1")], sevenBody⟩

/-- The finding of seven stars. -/
def sevenStars : Finding Rat := ⟨.stars, .count (.number 7), some ⟨some "v1", none⟩, 0, 1, false⟩

theorem names_marked {unchanged : Reply} {q : Request} :
    usual.Names ⟨"o", "n"⟩ .stars (marked unchanged) q ↔ ("If-None-Match", "v1") ∈ q.headers := by
  have hetag : usual.etag ⟨"o", "n"⟩ .stars (marked unchanged) = some "v1" := by rfl
  unfold Names
  rw [hetag]
  simp

theorem unchanged_iff_names_marked {unchanged : Reply} (hstatus : unchanged.status = 304) (q : Request) :
    (∃ reply, marked unchanged q = .ok reply ∧ reply.status = 304) ↔
      usual.Names ⟨"o", "n"⟩ .stars (marked unchanged) q := by
  rw [names_marked]
  unfold marked
  constructor
  · rintro ⟨reply, h, hreply⟩
    refine Decidable.byContradiction fun hq => ?_
    rw [if_neg hq] at h
    cases h
    exact absurd hreply (by decide)
  · exact fun hq => ⟨unchanged, if_pos hq, hstatus⟩

theorem revalidates_marked : usual.Revalidates ⟨"o", "n"⟩ .stars (marked ⟨304, [], []⟩) where
  honest q h := by
    unfold marked at h
    split at h <;> cases h
  tellable q reply h := by
    unfold marked at h
    split at h <;> cases h
    · exact Reply.IsBudgetless.isTellable (.inl (by decide +kernel))
    · exact Reply.IsBudgetless.isTellable (.inl (by decide +kernel))
  unchanged_iff := unchanged_iff_names_marked rfl
  otherwise q hq := by
    rw [names_marked] at hq
    exact (if_neg hq).trans (if_neg List.not_mem_nil).symm

/-- Nothing hinders a fetch of the stars. -/
theorem unhindered_marked (earlier : Option (Finding Rat)) :
    usual.Unhindered ⟨"o", "n"⟩ .stars earlier (marked ⟨304, [], []⟩) (.quiet fun q _ => marked ⟨304, [], []⟩ q)
      .start (.start ⟨0, 0, false⟩ ⟨0, [], 0⟩) := by
  refine .of_untouched rfl (by decide) (fun _ _ => rfl) (fun q => ?_) .start ⟨⟨nofun, nofun⟩, fun _ => rfl⟩
  unfold marked
  split
  · exact ⟨.inl (by decide +kernel), by decide +kernel⟩
  · exact ⟨.inl (by decide +kernel), by decide +kernel⟩

theorem obtained_sevenStars : usual.Obtained ⟨"o", "n"⟩ .stars (marked ⟨304, [], []⟩) sevenStars := by
  obtain ⟨x, t, hrun, ⟨hgist, hcategory⟩⟩ := (unhindered_marked none).run fun m =>
    attains_fetch_of_anew revalidates_marked.toServes rfl (by decide) revalidates_marked.anew m _
  have htime : (((usual.fetch ⟨"o", "n"⟩ .stars none).run (.quiet fun q _ => marked ⟨304, [], []⟩ q) .start
      (.start ⟨0, 0, false⟩ ⟨0, [], 0⟩)).1.bind fun e => found? e.1).map Finding.fetchedAt = some 0 := by
    decide +kernel
  have hfinds : usual.finds ⟨"o", "n"⟩ .stars (marked ⟨304, [], []⟩) = some sevenStars.gist := by
    show Except.toOption (usual.countGist _ false (.ok (Reply.response ⟨200, [("ETag", "v1")], sevenBody⟩))) = _
    rw [countGist_eq (by decide)]
    show ((ofReading (readRepositoryField "stargazers_count" 960 sevenBody)).map _).toOption = _
    rw [read_sevenBody]
    rfl
  rw [hrun] at htime
  rw [hfinds] at hgist
  match x, hrun with
  | .ok (.ok p), hrun =>
      have hp : p = sevenStars := by
        cases p
        cases hgist
        cases hcategory _ rfl
        cases htime
        rfl
      subst hp
      exact .fetched revalidates_marked (unhindered_marked none) hrun

/-- Who fetches seven stars again makes one request, and is told of the same seven stars. -/
theorem refetch_agrees_of_marked :
    let sur : Surroundings Surroundings.Hours Rat Request Reply := .quiet fun q _ => marked ⟨304, [], []⟩ q
    let w : World Surroundings.Hours Rat Request := .start ⟨0, 0, false⟩ ⟨0, [], 0⟩
    let run := (usual.fetch ⟨"o", "n"⟩ .stars (some sevenStars)).run sur .start w
    ((Options.usual : Options Rat).draft {}).checked = .ok usual.options ∧
      usual.Obtained ⟨"o", "n"⟩ .stars (marked ⟨304, [], []⟩) sevenStars ∧
      (∃ t, run.1 = some (.ok (.ok sevenStars), t)) ∧
      Journal.requests (Journal.after w.journal.length run.2.journal) =
        [⟨"https://h/repos/o/n", [], [("If-None-Match", "v1")], "GET", none⟩] := by
  intro sur w run
  have hd : ((Options.usual : Options Rat).draft {}).checked = .ok usual.options := by rfl
  have hconsistent : usual.Consistent ⟨"o", "n"⟩ .stars (marked ⟨304, [], []⟩) (marked ⟨304, [], []⟩) :=
    fun _ _ _ => rfl
  obtain ⟨⟨x, t, _, _, hrun, _, _, hsame⟩, _⟩ := refetch_agrees hd .usual rfl (by decide) obtained_sevenStars
    revalidates_marked hconsistent (unhindered_marked _) (unhindered_marked none)
  obtain ⟨rfl, hrequests, _⟩ := hsame "v1" rfl rfl
  exact ⟨hd, obtained_sevenStars, ⟨t, hrun⟩, hrequests.trans (by decide +kernel)⟩

/-- A service that says that nothing has changed, and that its budget is used up until the year ten thousand. -/
def spent : Request → Except (Fault Rat) Reply :=
  marked ⟨304, [("X-RateLimit-Remaining", "0"), ("X-RateLimit-Reset", "253402300800")], []⟩

/-- If the moment at which the next window opens cannot be shown, the earlier finding is lost, although the mark is
still the same and the permit was granted. -/
theorem refetch_lost_of_spent :
    let sur : Surroundings Surroundings.Hours Rat Request Reply := .quiet fun q _ => spent q
    let w : World Surroundings.Hours Rat Request := .start ⟨0, 0, false⟩ ⟨0, [], 0⟩
    let again := (usual.fetch ⟨"o", "n"⟩ .stars (some sevenStars)).run sur .start w
    let first := (usual.fetch ⟨"o", "n"⟩ .stars none).run sur .start w
    usual.Obtained ⟨"o", "n"⟩ .stars (marked ⟨304, [], []⟩) sevenStars ∧
      usual.Consistent ⟨"o", "n"⟩ .stars (marked ⟨304, [], []⟩) spent ∧
      (∀ q, (∃ reply, spent q = .ok reply ∧ reply.status = 304) ↔ usual.Names ⟨"o", "n"⟩ .stars spent q) ∧
      usual.etag ⟨"o", "n"⟩ .stars (marked ⟨304, [], []⟩) = some "v1" ∧
      usual.etag ⟨"o", "n"⟩ .stars spent = some "v1" ∧
      Journal.permits again.2.journal = [usual.bucket .stars] ∧
      again.1.map (fun e => (found? e.1).isSome) = some false ∧
      first.1.map (fun e => (found? e.1).isSome) = some true := by
  intro sur w again first
  refine ⟨obtained_sevenStars, fun _ _ _ => rfl, unchanged_iff_names_marked rfl, rfl, rfl, ?_, ?_, ?_⟩
  · decide +kernel
  · decide +kernel
  · decide +kernel

end Fetcher

end RepoCensus
