import Mathlib.Data.List.Forall2
import RepoCensus.Proofs.Fetch.Requests
import RepoCensus.Proofs.Fetch.Undisturbed
import RepoCensus.Proofs.Text.Lower

/-!
# The case of header names

A service may spell the names of its headers with capitals or without, and so may the conventions by which they are
looked up. Budgets, waits and links are found under any spelling. The marks of freshness are looked up as the
conventions spell them, among names in lower case, so a name with a capital is never found.

Main statement: two spellings of a reply and of the conventions tell the same budget, wait and link. They tell the same
marks exactly if the conventions do not miss one.
-/

namespace RepoCensus

open RepoCensus.Calendar RepoCensus.Text

/-- Names that differ in the case of their letters at most. -/
def SameName (a b : String) : Prop := lower a = lower b

instance (a b : String) : Decidable (SameName a b) := inferInstanceAs (Decidable (_ = _))

/-- Two spellings of one reply. -/
structure Reply.Respelled (p q : Reply) : Prop where
  status : p.status = q.status
  headers : List.Forall₂ (fun h k => SameName h.1 k.1 ∧ h.2 = k.2) p.headers q.headers
  body : p.body = q.body

/-- Two spellings of the header names of a service. -/
structure Conventions.Respelled (c d : Conventions) : Prop where
  remaining : SameName c.remainingHeader d.remainingHeader
  reset : SameName c.resetHeader d.resetHeader
  limit : SameName c.limitHeader d.limitHeader
  resource : SameName c.resourceHeader d.resourceHeader
  retryAfter : SameName c.retryAfterHeader d.retryAfterHeader
  etag : SameName c.etagHeader d.etagHeader
  lastModified : SameName c.lastModifiedHeader d.lastModifiedHeader
  link : SameName c.linkHeader d.linkHeader

theorem Reply.Respelled.response_eq {p q : Reply} (h : p.Respelled q) : p.response = q.response := by
  have hnames : p.headers.map (fun h => (lower h.1, h.2)) = q.headers.map (fun h => (lower h.1, h.2)) := by
    rw [← List.forall₂_eq_eq_eq, List.forall₂_map_left_iff, List.forall₂_map_right_iff]
    exact h.headers.imp fun _ _ hk => Prod.ext hk.1 hk.2
  unfold Reply.response Response.make
  rw [h.status, h.body, hnames]

/-! ## Looking up a name -/

theorem Entries.get?_putAll_of_notMem {α : Type} {name : String} {more : List (String × α)}
    (h : name ∉ more.map Prod.fst) (entries : List (String × α)) :
    get? name (putAll entries more) = get? name entries := by
  induction more generalizing entries with
  | nil => rfl
  | cons e more ih =>
      rw [List.map_cons, List.mem_cons, not_or] at h
      show get? name (putAll (put e.1 e.2 entries) more) = _
      rw [ih h.2, get?_put_ne h.1]

namespace Response

variable {τ : Type} [Seconds τ] {r : Response} {a b : String} {c d : Conventions}

theorem header?_congr (h : SameName a b) (r : Response) : r.header? a = r.header? b :=
  congrArg (Entries.get? · r.headers) h

theorem number?_congr (h : SameName a b) (r : Response) : r.number? a = r.number? b := by
  rw [number?, number?, header?_congr h]

/-- Among the headers of a reply a name is found as it is spelled only if it is spelled in lower case. -/
theorem get?_headers (p : Reply) (name : String) :
    Entries.get? name p.response.headers = if lower name = name then p.response.header? name else none := by
  split
  · rename_i h
    rw [header?, h]
  · rename_i h
    refine Entries.get?_putAll_of_notMem (fun hmem => h ?_) []
    obtain ⟨k, hk, rfl⟩ := List.mem_map.mp hmem
    obtain ⟨k, -, rfl⟩ := List.mem_map.mp hk
    exact lower_lower k.1

theorem budget_congr (h : c.Respelled d) (r : Response) :
    (r.budget c : Except Anomaly (Option (Budget τ))) = r.budget d := by
  unfold budget
  rw [number?_congr h.remaining, number?_congr h.reset, number?_congr h.limit, header?_congr h.resource]

theorem retryAfter_congr (h : c.Respelled d) (now : τ) (r : Response) : r.retryAfter c now = r.retryAfter d now := by
  unfold retryAfter
  rw [header?_congr h.retryAfter]

end Response

theorem Fetcher.next_pageOf_congr {τ : Type} {f g : Fetcher τ} (h : f.conventions.Respelled g.conventions)
    (read : List UInt8 → Reading (List Record)) (isFirst conditional : Bool) (r : Response) :
    (f.pageOf read isFirst conditional r).map Page.next = (g.pageOf read isFirst conditional r).map Page.next := by
  unfold pageOf
  rw [Response.header?_congr h.link]
  cases (refuseUnchanged (isFirst && conditional) r : Except (Fault τ) Unit) with
  | error fault => rfl
  | ok u =>
      cases (ofReading (read r.body) : Except (Fault τ) (List Record)) with
      | error fault => rfl
      | ok items => rfl

/-! ## The marks of freshness -/

namespace Freshness

/-- The marks, if there are some. -/
def marked? (f : Freshness) : Option Freshness := if f.isMarked then some f else none

/-- The marks that an answer has under the names of the conventions, however these are spelled. -/
def ofAnswer? (c : Conventions) (r : Response) : Option Freshness :=
  marked? ⟨r.header? c.etagHeader, r.header? c.lastModifiedHeader⟩

/-- The conventions miss a mark of an answer: it is marked, and it has a header whose name they spell with a
capital. -/
def Misses (c : Conventions) (r : Response) : Prop :=
  (ofAnswer? c r).isSome ∧ ∃ name ∈ [c.etagHeader, c.lastModifiedHeader], lower name ≠ name ∧ (r.header? name).isSome

instance (c : Conventions) (r : Response) : Decidable (Misses c r) := inferInstanceAs (Decidable (_ ∧ _))

variable {c d : Conventions} {f g : Freshness}

@[simp] theorem isSome_marked? : f.marked?.isSome ↔ f.isMarked := by
  unfold marked?
  split <;> simp [*]

theorem marked?_eq_iff (h : f.isMarked → g.isMarked) : f.marked? = g.marked? ↔ (g.isMarked → f = g) := by
  unfold marked?
  cases hg : g.isMarked with
  | false =>
      have hf : f.isMarked = false := by
        rw [Bool.eq_false_iff]
        exact fun hf => by simp [h hf] at hg
      simp [hf]
  | true =>
      constructor
      · intro heq _
        split at heq
        · exact Option.some.inj heq
        · cases heq
      · intro heq
        simp [heq rfl, hg]

theorem ofAnswer?_congr (h : c.Respelled d) (r : Response) : ofAnswer? c r = ofAnswer? d r := by
  unfold ofAnswer?
  rw [Response.header?_congr h.etag, Response.header?_congr h.lastModified]

/-- The marks that are found among the headers of a reply are those that it has, unless the conventions miss one. -/
theorem ofHeaders?_eq_iff (c : Conventions) (p : Reply) :
    ofHeaders? c p.response.headers = ofAnswer? c p.response ↔ ¬ Misses c p.response := by
  have hfound (name : String) : Entries.get? name p.response.headers = p.response.header? name ↔
      ¬ (lower name ≠ name ∧ (p.response.header? name).isSome) := by
    rw [Response.get?_headers]
    split
    · simp [*]
    · cases p.response.header? name <;> simp [*]
  show marked? ⟨Entries.get? c.etagHeader _, Entries.get? c.lastModifiedHeader _⟩ = marked? _ ↔ _
  rw [marked?_eq_iff]
  · simp only [Freshness.mk.injEq, hfound, Misses, ofAnswer?, isSome_marked?, List.exists_mem_cons_iff,
      List.not_mem_nil, false_and, exists_false, or_false, not_and, not_or]
  · have hmark (name : String) : isMark (Entries.get? name p.response.headers) → isMark (p.response.header? name) := by
      rw [Response.get?_headers]
      split
      · exact id
      · exact fun h => by cases h
    simp only [isMarked, Bool.or_eq_true]
    exact Or.imp (hmark _) (hmark _)

end Freshness

/-! ## Spelled one way and another -/

namespace Fetcher

variable {τ : Type} [Seconds τ] {f g : Fetcher τ} {p q : Reply}

/-- However a reply and the conventions are spelled, the reply tells the same budget, the same wait and the same next
page, and the same marks under each spelling of the conventions. These are the marks that it has, unless the conventions
miss one; then they are not what conventions that miss none find. -/
theorem respelled_tells_same (hp : p.Respelled q) (hf : f.conventions.Respelled g.conventions) (now : τ)
    (read : List UInt8 → Reading (List Record)) (isFirst conditional : Bool) :
    (p.response.budget f.conventions : Except Anomaly (Option (Budget τ))) = q.response.budget g.conventions ∧
      p.response.retryAfter f.conventions now = q.response.retryAfter g.conventions now ∧
      (f.pageOf read isFirst conditional p.response).map Page.next =
        (g.pageOf read isFirst conditional q.response).map Page.next ∧
      f.freshnessOf p.response = f.freshnessOf q.response ∧
      Freshness.ofAnswer? f.conventions p.response = Freshness.ofAnswer? g.conventions q.response ∧
      (f.freshnessOf p.response = Freshness.ofAnswer? f.conventions p.response ↔
        ¬ Freshness.Misses f.conventions p.response) ∧
      (¬ Freshness.Misses f.conventions p.response →
        (f.freshnessOf p.response = g.freshnessOf q.response ↔ ¬ Freshness.Misses g.conventions q.response)) := by
  rw [← hp.response_eq]
  have hmarks : Freshness.ofAnswer? f.conventions p.response = Freshness.ofAnswer? g.conventions p.response :=
    Freshness.ofAnswer?_congr hf _
  refine ⟨Response.budget_congr hf _, Response.retryAfter_congr hf now _,
    next_pageOf_congr hf read isFirst conditional _, rfl, hmarks, Freshness.ofHeaders?_eq_iff _ p, fun hnone => ?_⟩
  have hfound : f.freshnessOf p.response = Freshness.ofAnswer? g.conventions p.response :=
    ((Freshness.ofHeaders?_eq_iff _ p).mpr hnone).trans hmarks
  rw [hfound, eq_comm]
  exact Freshness.ofHeaders?_eq_iff _ p

/-- A reply with capitals in the names of its headers. -/
def capitalReply : Reply :=
  ⟨200, [("ETag", "v1"), ("X-RateLimit-Remaining", "7"), ("X-RateLimit-Reset", "60"), ("Retry-After", "5")], []⟩

/-- The same reply in lower case. -/
def lowerReply : Reply :=
  ⟨200, [("etag", "v1"), ("x-ratelimit-remaining", "7"), ("x-ratelimit-reset", "60"), ("retry-after", "5")], []⟩

/-- A fetcher whose conventions spell the name of a mark as the service does. -/
def capitalMark : Fetcher Rat := { usual with conventions := { usual.conventions with etagHeader := "ETag" } }

theorem respelled_capitalReply : capitalReply.Respelled lowerReply where
  status := rfl
  headers := by
    refine .cons ?_ (.cons ?_ (.cons ?_ (.cons ?_ .nil))) <;> decide +kernel
  body := rfl

theorem respelled_capitalMark : usual.conventions.Respelled capitalMark.conventions := by
  constructor <;> decide +kernel

theorem respelled_tells_same_of_capitalReply :
    (capitalReply.response.budget usual.conventions : Except Anomaly (Option (Budget Rat))) =
        lowerReply.response.budget capitalMark.conventions ∧
      usual.freshnessOf capitalReply.response = some ⟨some "v1", none⟩ ∧
      usual.freshnessOf capitalReply.response ≠ capitalMark.freshnessOf lowerReply.response := by
  have hfinds : ¬ Freshness.Misses usual.conventions capitalReply.response := by decide +kernel
  have hmisses : Freshness.Misses capitalMark.conventions lowerReply.response := by decide +kernel
  obtain ⟨hbudget, -, -, -, -, hmarks, hsame⟩ :=
    respelled_tells_same respelled_capitalReply respelled_capitalMark 0 (fun _ => .ok []) true false
  refine ⟨hbudget, ?_, fun heq => (hsame hfinds).mp heq hmisses⟩
  rw [hmarks.mpr hfinds]
  decide +kernel

/-- Conventions that spell the name of a mark as the reply does find no mark; in lower case they find it. -/
theorem capital_mark_missed :
    usual.conventions.Respelled capitalMark.conventions ∧
      usual.freshnessOf capitalReply.response = some ⟨some "v1", none⟩ ∧
      capitalMark.freshnessOf capitalReply.response = none :=
  ⟨respelled_capitalMark, by decide +kernel, by decide +kernel⟩

end Fetcher

end RepoCensus
