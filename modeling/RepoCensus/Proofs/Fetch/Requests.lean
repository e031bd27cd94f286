import RepoCensus.Proofs.Fetch.Cost
import RepoCensus.Proofs.Settings.Options
import RepoCensus.Proofs.World.Run

/-!
# How many requests a fetch makes

Whatever the service answers, a fetch comes to its end, and the options bound the number of its requests: so
many attempts for each page, and so many pages.
-/

namespace RepoCensus

open RepoCensus.Calendar RepoCensus.Numeral

variable {σ τ : Type}

/-! ## Bounds that options tell -/

/-- The whole numbers of attempts and of pages that options stand for. -/
structure Options.Counts (o : Options τ) where
  attempts : Int
  ceiling : Int
  pages : Option Int
  maxRetries : o.maxRetries.IsWhole attempts
  pageCeiling : o.pageCeiling.IsWhole ceiling
  maxPages : o.maxPages.map Amount.value = pages.map fun n => .ofRat n

namespace Options.Counts

variable {o : Options τ}

def mostPages (n : o.Counts) : Int := n.pages.elim n.ceiling (min · n.ceiling)

/-- The attempts at requests that a category may need. -/
def mostSends (n : o.Counts) (category : Category) : Int :=
  if category.endpoint.isPaged then n.attempts * n.mostPages else n.attempts

theorem attempts_pos (n : o.Counts) (ho : o.Accepted) : 1 ≤ n.attempts := by
  have h := ho.maxRetries
  rw [n.maxRetries.isBelow] at h
  simpa using h

theorem ceiling_pos (n : o.Counts) (ho : o.Accepted) : 1 ≤ n.ceiling := by
  have h := ho.pageCeiling
  rw [n.pageCeiling.isBelow] at h
  simpa using h

theorem maxPages_cases (n : o.Counts) :
    (o.maxPages = none ∧ n.pages = none) ∨ ∃ a m, o.maxPages = some a ∧ n.pages = some m ∧ a.IsWhole m := by
  have h := n.maxPages
  cases hmax : o.maxPages with
  | none =>
      cases hn : n.pages with
      | none => exact .inl ⟨rfl, rfl⟩
      | some m => rw [hmax, hn] at h; cases h
  | some a =>
      cases hn : n.pages with
      | none => rw [hmax, hn] at h; cases h
      | some m => rw [hmax, hn] at h; exact .inr ⟨a, m, rfl, rfl, Option.some.inj h⟩

theorem pages_pos (n : o.Counts) (ho : o.Accepted) {m : Int} (hm : n.pages = some m) : 1 ≤ m := by
  rcases n.maxPages_cases with ⟨_, hn⟩ | ⟨a, m', hmax, hn, ha⟩
  · cases hm.symm.trans hn
  · cases hm.symm.trans hn
    have h := ho.maxPages a hmax
    rw [ha.isBelow] at h
    simpa using h

end Options.Counts

namespace Fetcher

variable {f : Fetcher τ}

theorem attempts_retry (n : f.options.Counts) (ho : f.options.Accepted) :
    (f.retry.attempts : Int) = n.attempts := by
  have h := n.attempts_pos ho
  unfold Retry.attempts RetryPolicy.furtherAttempts retry
  rw [n.maxRetries.ceiling]
  omega

theorem limits_eq (n : f.options.Counts) : f.limits = ⟨n.pages, n.ceiling⟩ := by
  unfold limits
  rw [n.pageCeiling.ceiling]
  rcases n.maxPages_cases with ⟨hmax, hn⟩ | ⟨a, m, hmax, hn, ha⟩
  · rw [hmax, hn]
    rfl
  · rw [hmax, hn, Option.map_some, ha.ceiling]

theorem mostPages_limits (n : f.options.Counts) (ho : f.options.Accepted) :
    (f.limits.mostPages : Int) = n.mostPages := by
  have hceiling := n.ceiling_pos ho
  rw [limits_eq n]
  unfold WalkLimits.mostPages Options.Counts.mostPages
  cases hn : n.pages with
  | none => simp only [Option.elim_none]; omega
  | some m =>
      have hm := n.pages_pos ho hn
      simp only [Option.elim_some]
      omega

theorem cost_eq [Seconds τ] (n : f.options.Counts) (ho : f.options.Accepted) (category : Category) :
    (f.cost ⟨1, 0⟩ category : Int) = n.mostSends category := by
  unfold cost mostRequests sendCost Options.Counts.mostSends
  split
  · rw [Nat.add_zero, Nat.mul_one, Int.natCast_mul, attempts_retry n ho, mostPages_limits n ho, Int.mul_comm]
  · rw [Nat.add_zero, Nat.mul_one, Nat.one_mul, attempts_retry n ho]

variable [Seconds τ]

/-- Whatever the service answers and whatever is left of the budget, the options bound the requests of a fetch by a
single worker; and it comes to its end, if its seconds are in order and its waits take their time. -/
theorem isSome_run_fetch_and_requests_le {d : Draft τ} (hd : d.checked = .ok f.options) (n : f.options.Counts)
    (sur : Surroundings σ τ Request Reply) (r : Repository) (category : Category) (earlier : Option (Finding τ))
    (s : Session τ) (w : World σ τ Request) :
    ((Journal.requests (Journal.after w.journal.length
        ((f.fetch r category earlier).run sur s w).2.journal)).length : Int) ≤ n.mostSends category ∧
      (OrderedSeconds τ → sur.Punctual f.flag → 2 ≤ f.patience →
        ((f.fetch r category earlier).run sur s w).1.isSome) := by
  let c : Crew σ τ Request Reply :=
    ⟨sur, ⟨1, 0⟩, f.patience, ¬ (OrderedSeconds τ ∧ sur.Punctual f.flag ∧ 2 ≤ f.patience)⟩
  let g : Standing σ τ Request := ⟨f.cost ⟨1, 0⟩ category, 0, w⟩
  have hf : f.Joins c := ⟨rfl, fun h => (Classical.not_not.mp h).1, fun h => (Classical.not_not.mp h).2.1⟩
  have hothers : c.Endures 0 := (Classical.em c.stalls).imp_right fun h => (Classical.not_not.mp h).2.2
  have halways := within_fetch hf r category earlier s g (Nat.le_refl _) hothers
  obtain ⟨g', hworld, hpays, hend⟩ := halways.run
  have hworld : g'.world = ((f.fetch r category earlier).run sur s w).2 := hworld
  have hrequests := hpays.requests_le rfl
  rw [hworld] at hrequests
  constructor
  · rw [← cost_eq n (Draft.accepted_of_checked hd)]
    have hle : (Journal.requests (Journal.after w.journal.length
        ((f.fetch r category earlier).run sur s w).2.journal)).length ≤ f.cost ⟨1, 0⟩ category :=
      Nat.le_trans hrequests (Nat.sub_le _ _)
    exact_mod_cast hle
  · intro hordered hsur hpatience
    cases hrun : ((f.fetch r category earlier).run sur s w).1 with
    | some e => rfl
    | none =>
        have hstalls : c.stalls := by rwa [show (Program.run _ _ _).1 = none from hrun] at hend
        exact absurd ⟨hordered, hsur, hpatience⟩ hstalls

end Fetcher

/-! ## A service without end -/

/-- A service each of whose answers is an empty page that leads on to a page that was never told of before. -/
def Surroundings.endless : Surroundings Surroundings.Hours Rat Request Reply :=
  .quiet fun _ n => .ok ⟨200, [("link", s!"<https://h/{n}>; rel=\"next\"")], "[]".toUTF8.toList⟩

/-- A fetcher whose caller chooses nothing. -/
def Fetcher.usual : Fetcher Rat := ⟨.direct, none, "https://h", .usual, .usual, none, 2, 960⟩

/-- The counts of a caller who chooses nothing. -/
def Options.Counts.usual : Fetcher.usual.options.Counts := ⟨5, 10000, none, rfl, rfl, rfl⟩

/-- Who chooses nothing makes no more than fifty thousand requests to a service without end. -/
theorem requests_le_of_endless :
    let w : World Surroundings.Hours Rat Request := .start ⟨0, 0, false⟩ ⟨0, [], 0⟩
    let run := (Fetcher.usual.fetch ⟨"o", "n"⟩ .contributors none).run .endless .start w
    ((Options.usual : Options Rat).draft {}).checked = .ok Fetcher.usual.options ∧
      Surroundings.endless.Punctual Fetcher.usual.flag ∧ 2 ≤ Fetcher.usual.patience ∧ run.1.isSome ∧
      ((Journal.requests (Journal.after w.journal.length run.2.journal)).length : Int) ≤ 50000 := by
  intro w
  have hd : ((Options.usual : Options Rat).draft {}).checked = .ok Fetcher.usual.options := by rfl
  have hn : Options.Counts.usual.mostSends .contributors = 50000 := by decide
  have hsur : Surroundings.endless.Punctual Fetcher.usual.flag := Surroundings.punctual_quiet _ _
  obtain ⟨hrequests, hends⟩ := Fetcher.usual.isSome_run_fetch_and_requests_le hd .usual .endless ⟨"o", "n"⟩
    .contributors none .start w
  rw [hn] at hrequests
  exact ⟨hd, hsur, Nat.le_refl 2, hends inferInstance hsur (Nat.le_refl 2), hrequests⟩

end RepoCensus
