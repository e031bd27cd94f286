import RepoCensus.Proofs.Work.Within
import RepoCensus.Proofs.World.Journal

/-!
# Runs

What always holds at the end of a program holds at the end of a run, and the run pays for what it does: its
requests stand in the journal, and the budgets that it passes on are counted by the drift of the world.
-/

namespace RepoCensus

open RepoCensus.Calendar

variable {σ τ Q R α : Type}

/-! ## The journal -/

/-- A world whose journal has grown, with so many requests among the new entries. -/
def World.Adds (w : World σ τ Q) (n : Nat) (w' : World σ τ Q) : Prop :=
  ∃ new, w'.journal = new ++ w.journal ∧ (Journal.requests new).length = n

def Effect.asks : Effect τ Q → Nat
  | .ask _ => 1
  | _ => 0

namespace World

variable {w w' w'' : World σ τ Q} {n m : Nat}

theorem Adds.refl (w : World σ τ Q) : w.Adds 0 w := ⟨[], rfl, rfl⟩

theorem Adds.trans (h : w.Adds n w') (h' : w'.Adds m w'') : w.Adds (n + m) w'' := by
  obtain ⟨new, hw, rfl⟩ := h
  obtain ⟨new', hw', rfl⟩ := h'
  refine ⟨new' ++ new, by rw [hw', hw, List.append_assoc], ?_⟩
  simp only [Journal.requests, List.filterMap_append, List.length_append]
  omega

theorem Adds.requests_length (h : w.Adds n w') :
    (Journal.requests (Journal.after w.journal.length w'.journal)).length = n := by
  obtain ⟨new, hw, rfl⟩ := h
  have hnew : Journal.after w.journal.length w'.journal = new.reverse := by
    simp [Journal.after, hw]
  simp [hnew, Journal.requests]

theorem Records.adds {asked : List Q} {granted : List Bucket} (h : w.Records asked granted w') :
    w.Adds asked.length w' := by
  obtain ⟨new, hw, rfl, rfl⟩ := h
  exact ⟨new, hw, by simp [Journal.requests]⟩

theorem adds_perform [Seconds τ] (sur : Surroundings σ τ Q R) (w : World σ τ Q) (e : Effect τ Q) :
    w.Adds e.asks (w.perform sur e).2 := by
  have h := (records_perform sur w e).adds
  cases e <;> exact h

end World

/-! ## Runs of a crew -/

variable [Seconds τ] {c : Crew σ τ Q R}

/-- What a worker does moves the world, and is paid for. -/
structure Crew.Pays (c : Crew σ τ Q R) (g g' : Standing σ τ Q) : Prop where
  others : g'.others = g.others
  paid : ∃ asked told, g.world.Adds asked g'.world ∧ World.Drift c.sur g.world told g'.world ∧
    g'.credit + asked * c.prices.ask + told * c.prices.update = g.credit

namespace Crew.Pays

variable {g g' g'' : Standing σ τ Q}

theorem refl (g : Standing σ τ Q) : c.Pays g g :=
  ⟨rfl, 0, 0, .refl _, .refl, by omega⟩

theorem trans (h : c.Pays g g') (h' : c.Pays g' g'') : c.Pays g g'' := by
  obtain ⟨asked, told, hadds, hdrift, hpaid⟩ := h.paid
  obtain ⟨asked', told', hadds', hdrift', hpaid'⟩ := h'.paid
  refine ⟨h'.others.trans h.others, asked + asked', told + told', hadds.trans hadds', hdrift.trans hdrift', ?_⟩
  rw [Nat.add_mul, Nat.add_mul]
  omega

theorem requests_le (h : c.Pays g g') (hask : c.prices.ask = 1) :
    (Journal.requests (Journal.after g.world.journal.length g'.world.journal)).length ≤
      g.credit - g'.credit := by
  obtain ⟨asked, told, hadds, _, hpaid⟩ := h.paid
  rw [hadds.requests_length]
  rw [hask] at hpaid
  omega

theorem exists_drift (h : c.Pays g g') (hupdate : c.prices.update = 1) :
    ∃ told, World.Drift c.sur g.world told g'.world ∧ g'.credit + told ≤ g.credit := by
  obtain ⟨asked, told, _, hdrift, hpaid⟩ := h.paid
  rw [hupdate] at hpaid
  exact ⟨told, hdrift, by omega⟩

end Crew.Pays

omit [Seconds τ] in
theorem Effect.price_eq (e : Effect τ Q) (p : Prices) :
    e.price p = e.asks * p.ask + e.budgets * p.update := by
  cases e <;> simp [price, asks, budgets]

/-- A step that is allowed is paid for, and what always holds goes on to hold. -/
theorem Program.Always.perform {e : Effect τ Q} {next : e.Answer R → Program τ Q R α}
    {post : α → Standing σ τ Q → Prop} {g : Standing σ τ Q}
    (h : (Program.act e next).Always c.behaviour post g) :
    ∃ g', g'.world = (g.world.perform c.sur e).2 ∧ c.Pays g g' ∧
      (next (g.world.perform c.sur e).1).Always c.behaviour post g' := by
  obtain ⟨hallowed, hanswers⟩ := h g ⟨rfl, 0, Nat.le_refl _, .refl⟩
  have hallowed : e.price c.prices ≤ g.credit := hallowed
  have hcredit : g.credit - e.price c.prices + e.price c.prices = g.credit := by omega
  refine ⟨⟨g.credit - e.price c.prices, g.others, (g.world.perform c.sur e).2⟩, rfl, ?_, ?_⟩
  · refine ⟨rfl, e.asks, e.budgets, World.adds_perform _ _ _, .single _ _, ?_⟩
    rw [Effect.price_eq] at hcredit ⊢
    simp only
    omega
  · exact hanswers _ _ ⟨rfl, hcredit, rfl⟩

/-- What always holds at the end of a program holds at the end of a run; only who may stall stalls. -/
theorem Program.Always.run {p : Program τ Q R α} {post : α → Standing σ τ Q → Prop} {g : Standing σ τ Q}
    (h : p.Always c.behaviour post g) :
    ∃ g', g'.world = (p.run c.sur g.world).2 ∧ c.Pays g g' ∧
      match (p.run c.sur g.world).1 with
      | some a => post a g'
      | none => c.stalls := by
  induction p generalizing g with
  | done a => exact ⟨g, rfl, .refl g, h⟩
  | stalled => exact ⟨g, rfl, .refl g, h⟩
  | act e next ih =>
      obtain ⟨g₁, hworld, hpays, hnext⟩ := h.perform
      obtain ⟨g₂, hrun, hpays', hpost⟩ := ih _ hnext
      rw [hworld] at hrun hpost
      exact ⟨g₂, hrun, hpays.trans hpays', hpost⟩

end RepoCensus
