import RepoCensus.Proofs.Work.Blame
import RepoCensus.Proofs.World.Accounts
import RepoCensus.Proofs.World.Company

/-!
# Names of buckets

Every tracker knows the name of the resource of its own bucket, whatever happens. So each refusal names the bucket of
the permit.
-/

namespace RepoCensus

open RepoCensus.Calendar

variable {σ τ Q R α : Type}

namespace Registry

def Named (r : Registry τ) : Prop := ∀ b t, r.get? b = some t → t.resource = b.resource

theorem named_empty (safetyMargin : Int) : (empty safetyMargin : Registry τ).Named := nofun

namespace Named

variable {r : Registry τ} {b : Bucket}

theorem resource (h : r.Named) (b : Bucket) : (r.tracker b).1.resource = b.resource := by
  cases ht : r.get? b with
  | some t =>
      rw [get?_tracker_of_some ht]
      exact h b t ht
  | none =>
      rw [tracker_of_none ht]
      rfl

theorem tracker (h : r.Named) (b : Bucket) : (r.tracker b).2.Named := by
  intro b' t ht
  by_cases hb : b' = b
  · subst hb
    cases (get?_tracker r b').symm.trans ht
    exact h.resource b'
  · rw [r.get?_tracker_of_ne hb] at ht
    exact h b' t ht

theorem set (h : r.Named) {t : Tracker τ} (ht : t.resource = b.resource) : (r.set b t).Named := by
  intro b' t' ht'
  rw [get?_set] at ht'
  split at ht'
  · obtain ⟨_, _, rfl⟩ := Option.map_eq_some_iff.mp ht'
    subst ‹b' = b›
    exact ht
  · exact h b' t' ht'

end Named

end Registry

variable [Seconds τ] {sur : Surroundings σ τ Q R}

theorem Tracker.resource_of_refusal {t : Tracker τ} {now : τ} {margin : Option Int} {refusal : Refusal τ}
    (h : (t.reserve now margin).1 = .error refusal) : refusal.resource = t.resource := by
  unfold reserve at h
  split at h
  · cases h
  · dsimp only at h
    split at h
    · split at h
      · cases h
        rfl
      · split at h <;> cases h
        rfl
    · cases h

/-- The service does not speak of budgets. -/
def Surroundings.Blameless (sur : Surroundings σ τ Q R) : Prop := ∀ q o, RepoCensus.Blameless (sur.serve q o).1

namespace World

variable {w w' : World σ τ Q}

theorem named_perform (h : w.registry.Named) (e : Effect τ Q) : (w.perform sur e).2.registry.Named := by
  cases e with
  | openBucket b => exact h.tracker b
  | reserve b margin =>
      show (w.reserve sur b margin).2.registry.Named
      rw [reserve_registry]
      exact (h.tracker b).set (((w.registry.tracker b).1.use_keeps (.reserve _ _)).1.trans (h.resource b))
  | update b budget =>
      show (w.update b budget).2.registry.Named
      rw [registry_update]
      exact (h.tracker b).set (h.resource b)
  | wait f s =>
      cases hf : w.isRaised sur f <;> simp only [perform, hf]
      · exact h
      · exact h
  | _ => exact h

theorem Meanwhile.named {Others : Effect τ Q → Prop} (hw : w.registry.Named) (h : w.Meanwhile sur Others w') :
    w'.registry.Named := by
  induction h with
  | refl => exact hw
  | step _ _ ih => exact named_perform ih _
  | raise _ f ih => cases f <;> exact ih

theorem fair_perform (hsur : sur.Blameless) (hw : w.registry.Named) (e : Effect τ Q) :
    Deed.Fair ⟨e, (w.perform sur e).1⟩ := by
  cases e with
  | ask q => exact hsur q w.outside
  | reserve b margin =>
      intro refusal hrefusal
      have hrefusal : (w.reserve sur b margin).1 = .error refusal := hrefusal
      rw [reserve_fst] at hrefusal
      exact (Tracker.resource_of_refusal hrefusal).trans (hw.resource b)
  | _ => trivial

end World

/-- Whatever the others do, the deeds of a program are fair. -/
theorem Program.Among.fair {Others : Effect τ Q → Prop} {p p' : Program τ Q R α} {w w' : World σ τ Q}
    {ds : List (Deed τ Q R)} (hsur : sur.Blameless) (h : p.Among sur Others w ds p' w') (hw : w.registry.Named) :
    ∀ d ∈ ds, d.Fair := by
  induction h with
  | refl => exact List.forall_mem_nil _
  | act hmeanwhile _ ih =>
      have hw := hmeanwhile.named hw
      exact List.forall_mem_cons.mpr ⟨World.fair_perform hsur hw _, ih (World.named_perform hw _)⟩

end RepoCensus
