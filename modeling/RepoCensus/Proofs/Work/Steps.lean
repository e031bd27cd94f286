import RepoCensus.Proofs.Work.Within

/-!
# Work step by step

Where the rules for prices are too coarse, work is followed step by step. `Crew.Later` relates the standings
between which only free steps were taken, by the worker itself or by the others.
-/

namespace RepoCensus

open RepoCensus.Calendar

variable {σ τ Q R α : Type} [Seconds τ] {c : Crew σ τ Q R}

/-! ## Later standings -/

/-- A standing that is met after the others, or the worker itself, did something. -/
structure Crew.Later (c : Crew σ τ Q R) (g g' : Standing σ τ Q) : Prop where
  credit : g'.credit = g.credit
  drift : ∃ n, g'.others + n ≤ g.others ∧ World.Drift c.sur g.world n g'.world

namespace Crew.Later

variable {g g' g'' : Standing σ τ Q}

theorem refl (g : Standing σ τ Q) : c.Later g g := ⟨rfl, 0, Nat.le_refl _, .refl⟩

theorem trans (h : c.Later g g') (h' : c.Later g' g'') : c.Later g g'' := by
  obtain ⟨n, hn, hd⟩ := h.drift
  obtain ⟨m, hm, hd'⟩ := h'.drift
  exact ⟨h'.credit.trans h.credit, n + m, by omega, hd.trans hd'⟩

theorem reaches (h : c.Later g g') : g.Reaches 0 g' := by
  obtain ⟨n, hn, _⟩ := h.drift
  exact ⟨Nat.le_of_eq h.credit.symm, by omega⟩

theorem now_le [OrderedSeconds τ] {flag : Option Flag} (hsur : c.sur.Punctual flag) (h : c.Later g g') :
    c.sur.now g.world.outside ≤ c.sur.now g'.world.outside := by
  obtain ⟨n, _, hd⟩ := h.drift
  exact hd.now_le hsur

theorem isRaised {flag : Option Flag} (hsur : c.sur.Punctual flag) (h : c.Later g g') {f : Flag}
    (hf : g.world.isRaised c.sur f = true) : g'.world.isRaised c.sur f = true := by
  obtain ⟨n, _, hd⟩ := h.drift
  exact hd.isRaised hsur.lasting hf

end Crew.Later

def Standing.after (c : Crew σ τ Q R) (g : Standing σ τ Q) (e : Effect τ Q) : Standing σ τ Q :=
  { g with world := (g.world.perform c.sur e).2 }

/-- Steps that cost nothing and pass no budget on. -/
def Effect.isFree : Effect τ Q → Bool
  | .ask _ => false
  | .update _ _ => false
  | _ => true

omit [Seconds τ] in
theorem Effect.price_of_isFree {e : Effect τ Q} (he : e.isFree = true) (p : Prices) : e.price p = 0 := by
  cases e with
  | ask q => cases he
  | update b budget => cases he
  | _ => rfl

omit [Seconds τ] in
theorem Effect.budgets_of_isFree {e : Effect τ Q} (he : e.isFree = true) : e.budgets = 0 := by
  cases e with
  | ask q => cases he
  | update b budget => cases he
  | _ => rfl

theorem Crew.later_after (c : Crew σ τ Q R) {e : Effect τ Q} (he : e.isFree = true)
    (g : Standing σ τ Q) : c.Later g (g.after c e) :=
  ⟨rfl, 0, Nat.le_refl _, Effect.budgets_of_isFree he ▸ World.Drift.single g.world e⟩

/-- A free step. It is enough to look at the standing `g'` before it, and at the one after it. -/
theorem Program.always_act {e : Effect τ Q} {next : e.Answer R → Program τ Q R α}
    {post : α → Standing σ τ Q → Prop} {g : Standing σ τ Q} (he : e.isFree = true)
    (h : ∀ g', c.Later g g' → c.Later g (g'.after c e) →
      (next (g'.world.perform c.sur e).1).Always c.behaviour post (g'.after c e)) :
    (Program.act e next).Always c.behaviour post g := by
  have hprice := Effect.price_of_isFree he c.prices
  intro g' hg'
  have hlater : c.Later g g' := ⟨hg'.1, hg'.2⟩
  refine ⟨by simp [Crew.behaviour, hprice], ?_⟩
  rintro a ⟨credit, others, world⟩ ⟨hw, hc', ho'⟩
  have h' := h g' hlater (hlater.trans (c.later_after he g'))
  have ha : (g'.world.perform c.sur e).1 = a := congrArg Prod.fst hw
  have hg : g'.after c e = ⟨credit, others, world⟩ := by
    simp only [Standing.after, hw, hprice] at hc' ho' ⊢
    simp [← ho', ← hc']
  rwa [ha, hg] at h'

namespace Work

theorem always_act_bind {e : Effect τ Q} {f : e.Answer R → Work τ Q R α} {s : Session τ}
    {post : Except (Fault τ) α × Session τ → Standing σ τ Q → Prop} {g : Standing σ τ Q}
    (he : e.isFree = true) (h : ∀ g', c.Later g g' → c.Later g (g'.after c e) →
      ((f (g'.world.perform c.sur e).1).start s).Always c.behaviour post (g'.after c e)) :
    ((act e >>= f).start s).Always c.behaviour post g := by
  rw [start_bind]
  exact Program.always_act he h

end Work

end RepoCensus
