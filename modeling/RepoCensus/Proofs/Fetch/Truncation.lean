import RepoCensus.Proofs.Fetch.Refetch
import RepoCensus.Proofs.Fetch.Stages

/-!
# Whole collections

A fetch whose number of pages is not limited finds whole collections. Main statement: a finding that is cut off is
the earlier one, which is handed back because the service told that nothing has changed.
-/

namespace RepoCensus

open RepoCensus.Calendar Work

variable {τ : Type}

/-- An answer that nothing has changed. -/
def Deed.TellsUnchanged : Deed τ Request Reply → Prop
  | ⟨.ask _, .ok reply⟩ => reply.status = 304
  | ⟨.ask _, .error fault⟩ => fault = .unchanged
  | _ => False

variable [Seconds τ]

namespace Fetcher

variable {f : Fetcher τ} {r : Repository} {category : Category} {previous earlier : Option (Finding τ)}
  {s s' : Session τ} {ds : List (Deed τ Request Reply)}

/-- Work that ends because nothing has changed was told so. -/
theorem Made.exists_unchanged {ps : List (Sent τ)} (h : f.Made r category previous s ds (.error .unchanged) s' ps) :
    ∃ d ∈ ds, d.TellsUnchanged := by
  rcases h.told trivial with ⟨q, hq⟩ | ⟨-, q, reply, hreply, hstatus⟩
  · exact ⟨_, hq, rfl⟩
  · exact ⟨_, hreply, hstatus⟩

/-- Where the number of pages is not limited, a fetch finds a whole collection, or it hands back the earlier finding
because the service told that nothing has changed. -/
theorem found_whole_or_unchanged {finding : Finding τ} (hpages : f.options.maxPages = none)
    (h : (f.fetch r category earlier).Does s ds (.ok (.ok finding)) s') :
    (finding.truncated = false ∧ ∃ t raw u, raw ⊆ ds ∧
        (f.fetchRaw r category (comparable category earlier)).Does t raw (.ok finding) u) ∨
      (earlier = some finding ∧ finding.category = category ∧ finding.isMarked = true ∧
        ∃ d ∈ ds, d.TellsUnchanged) := by
  obtain ⟨idle, raw, rest, y, u, rfl, hidle, hraw, hend⟩ := exists_of_fetch h
  obtain ⟨ps, hmade⟩ := exists_made_of_fetchRaw hraw
  have hsubset : raw ⊆ ⟨.openBucket (f.bucket category), ()⟩ ::
      (Deed.tells (s.staged .inProgress).task ++ (idle ++ (raw ++ rest))) := by
    intro d hd
    simp [hd]
  cases hend with
  | found =>
      refine .inl ⟨eq_false_of_ne_true fun htruncated => ?_, _, raw, u, hsubset, hraw⟩
      have hlimited := hmade.cut finding rfl htruncated
      rw [hpages] at hlimited
      cases hlimited
  | unchanged hprevious =>
      obtain ⟨d, hd, hunchanged⟩ := hmade.exists_unchanged
      obtain ⟨hearlier, hcomparable⟩ := Option.filter_eq_some_iff.mp hprevious
      rw [Bool.and_eq_true, decide_eq_true_eq] at hcomparable
      exact .inr ⟨hearlier, hcomparable.1, hcomparable.2, d, hsubset hd, hunchanged⟩

/-! ## A page limit that is given up -/

omit [Seconds τ] in
theorem eq_of_found? {x : Except (Fault τ) (Except (Failure τ) (Finding τ))} {finding : Finding τ}
    (h : found? x = some finding) : x = .ok (.ok finding) := by
  obtain fault | failure | finding' := x
  · cases h
  · cases h
  · cases h
    rfl

/-- A service with two pages of languages, that knows its mark again. -/
def pagedLanguages : Request → Except (Fault Rat) Reply := fun q =>
  if q.headers.any fun h => h.1 == "If-None-Match" && h.2 == "v1" then .ok ⟨304, [], []⟩
  else .ok ⟨200, [("ETag", "v1"), ("Link", "<https://h/2>; rel=\"next\"")], "\x7b\"C\":10\x7d".toUTF8.toList⟩

/-- What is found by who takes no more than one page. -/
def firstPage : Option (Finding Rat) :=
  let limited : Fetcher Rat := { usual with options := { usual.options with maxPages := some (.number 1) } }
  ((limited.fetch ⟨"o", "n"⟩ .languages none).run (.quiet fun q _ => pagedLanguages q) .start
    (.start ⟨0, 0, false⟩ ⟨0, [], 0⟩)).1.bind fun e => found? e.1

/-- Whoever fetches all pages after that is told that nothing has changed, and is handed back what was found before. -/
theorem found_whole_or_unchanged_of_pagedLanguages :
    ∃ ds finding s', (usual.fetch ⟨"o", "n"⟩ .languages firstPage).Does .start ds (.ok (.ok finding)) s' ∧
      firstPage = some finding ∧ ∃ d ∈ ds, d.TellsUnchanged := by
  let run := (usual.fetch ⟨"o", "n"⟩ .languages firstPage).run (.quiet fun q _ => pagedLanguages q) .start
    (.start ⟨0, 0, false⟩ ⟨0, [], 0⟩)
  have htruncated : (run.1.bind fun e => found? e.1).map Finding.truncated = some true := by decide +kernel
  obtain ⟨finding, hfound, hcut⟩ := Option.map_eq_some_iff.mp htruncated
  obtain ⟨⟨x, s'⟩, hrun, hx⟩ := Option.bind_eq_some_iff.mp hfound
  obtain ⟨ds, hdoes⟩ := exists_does_of_run hrun
  obtain rfl := eq_of_found? hx
  rcases found_whole_or_unchanged rfl hdoes with ⟨hwhole, -⟩ | ⟨hearlier, -, -, htold⟩
  · rw [hwhole] at hcut
    cases hcut
  · exact ⟨ds, finding, s', hdoes, hearlier, htold⟩

/-- Although the number of pages is not limited, what is handed back is cut off. -/
theorem truncated_handed_back :
    let run := (usual.fetch ⟨"o", "n"⟩ .languages firstPage).run (.quiet fun q _ => pagedLanguages q) .start
      (.start ⟨0, 0, false⟩ ⟨0, [], 0⟩)
    usual.options.maxPages = none ∧ (run.1.bind fun e => found? e.1).map Finding.truncated = some true := by
  intro run
  exact ⟨rfl, by decide +kernel⟩

end Fetcher

end RepoCensus
