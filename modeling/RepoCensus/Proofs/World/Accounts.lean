import RepoCensus.Proofs.Budget.Means
import RepoCensus.Proofs.Work.Accounts
import RepoCensus.Proofs.World.Shown

/-!
# Accounts of a run

The journal of a world and the tracker of a bucket agree with the accounts, and no other tracker is touched.
-/

namespace RepoCensus

open RepoCensus.Calendar

variable {σ τ : Type}

theorem Registry.get?_tracker_of_ne (r : Registry τ) {b b' : Bucket} (hb : b' ≠ b) :
    (r.tracker b).2.get? b' = r.get? b' := by
  cases h : r.get? b' with
  | some t => exact get?_tracker_other h
  | none => exact get?_tracker_of_none h hb

theorem Registry.get?_set_of_ne (r : Registry τ) {b b' : Bucket} (t : Tracker τ) (hb : b' ≠ b) :
    ((r.tracker b).2.set b t).get? b' = r.get? b' := by
  rw [get?_set, if_neg hb]
  exact r.get?_tracker_of_ne hb

/-- What has happened since a world `w₀` agrees with the accounts of a bucket. -/
structure World.Booked (b : Bucket) (w₀ : World σ τ Request) (g : Accounts) (w : World σ τ Request) :
    Prop where
  others : ∀ b', b' ≠ b → w.registry.get? b' = w₀.registry.get? b'
  reserved : (w.tracker b).reserved = (w₀.tracker b).reserved + g.permits
  journal : ∃ new, w.journal = new ++ w₀.journal ∧ g = .of new.reverse

namespace World.Booked

variable {sur : Surroundings σ τ Request Reply} {b : Bucket} {w₀ w w' : World σ τ Request} {g : Accounts}

theorem refl (b : Bucket) (w : World σ τ Request) : w.Booked b (.of ([] : List (Event τ Request))) w :=
  ⟨fun _ _ => rfl, rfl, [], rfl, rfl⟩

theorem keep (h : w₀.Booked b g w) (hregistry : w'.registry = w.registry) (hjournal : w'.journal = w.journal) :
    w₀.Booked b g w' := by
  refine ⟨?_, ?_, ?_⟩
  · rw [hregistry]
    exact h.others
  · unfold tracker
    rw [hregistry]
    exact h.reserved
  · rw [hjournal]
    exact h.journal

theorem enter (h : w₀.Booked b g w) {e : Event τ Request} (hregistry : w'.registry = w.registry)
    (hjournal : w'.journal = e :: w.journal) (hpermits : Journal.permits [e] = []) :
    w₀.Booked b (g.enter e) w' := by
  obtain ⟨new, hnew, rfl⟩ := h.journal
  refine ⟨?_, ?_, e :: new, ?_, ?_⟩
  · rw [hregistry]
    exact h.others
  · unfold tracker
    rw [hregistry]
    simp only [Accounts.enter, hpermits]
    exact h.reserved
  · rw [hjournal, hnew]
    rfl
  · rw [List.reverse_cons, Accounts.of_append]

theorem sleep (h : w₀.Booked b g w) (s : τ) : w₀.Booked b g (w.sleep sur s) := by
  have hslept : w₀.Booked b (g.enter (.slept s)) (w.sleep sur s) := h.enter rfl rfl rfl
  rwa [Accounts.enter_slept] at hslept

end World.Booked

variable [Seconds τ] {sur : Surroundings σ τ Request Reply} {b : Bucket} {w₀ w : World σ τ Request}
  {g : Accounts}

/-! ## Permits -/

theorem Tracker.reserved_reserve (x : Tracker τ) (now : τ) (margin : Option Int) (b : Bucket) :
    (x.reserve now margin).2.reserved = x.reserved + (b.granted (x.reserve now margin).1).length := by
  rcases x.reserve_cases now margin with ⟨_, h⟩ | ⟨_, _, h, _⟩ <;> rw [h] <;> rfl

namespace World

/-- A permit is noted in the journal, after a note that the window is over if it is. -/
theorem reserve_journal (sur : Surroundings σ τ Request Reply) (w : World σ τ Request) (b : Bucket) (margin : Option Int) :
    ∃ noted, (noted = [] ∨ noted = [.noted (.log .debug (w.tracker b).rollOverNote)]) ∧
      (w.reserve sur b margin).2.journal =
        (b.granted (w.reserve sur b margin).1).map .granted ++ (noted ++ w.journal) := by
  unfold reserve
  dsimp only
  generalize hp : (if (w.registry.tracker b).1.budget.isNone then _ else _ : τ × World σ τ Request) = p
  have hread : p.2.journal = w.journal := by
    rw [← hp]
    split <;> rfl
  generalize hw : (if (w.registry.tracker b).1.rollsOver p.1 margin then _ else _ : World σ τ Request) = w'
  have hlogged : ∃ noted, (noted = [] ∨ noted = [.noted (.log .debug (w.tracker b).rollOverNote)]) ∧
      w'.journal = noted ++ w.journal := by
    rw [← hw]
    split
    · exact ⟨_, .inr rfl, congrArg _ hread⟩
    · exact ⟨_, .inl rfl, hread⟩
  obtain ⟨noted, hnoted, hw'⟩ := hlogged
  refine ⟨noted, hnoted, ?_⟩
  split
  · exact congrArg _ hw'
  · exact hw'

theorem update_journal (w : World σ τ Request) (b : Bucket) (budget : Budget τ) :
    (w.update b budget).2.journal = w.journal ∨
      ∃ text, (w.update b budget).2.journal = .noted (.log .warning text) :: w.journal := by
  unfold update
  dsimp only
  split
  · exact .inr ⟨_, rfl⟩
  · exact .inl rfl
  · exact .inl rfl

namespace Booked

theorem reserve (h : w₀.Booked b g w) (margin : Option Int) :
    w₀.Booked b (g.after (.reserve b margin) (w.reserve sur b margin).1) (w.reserve sur b margin).2 := by
  obtain ⟨new, hnew, hg⟩ := h.journal
  have hreserved : ((w.reserve sur b margin).2.tracker b).reserved =
      (w.tracker b).reserved + (b.granted (w.reserve sur b margin).1).length := by
    rw [tracker_reserve, Tracker.reserved_reserve _ _ _ b, reserve_fst]
    rfl
  -- The note of a window that is over is no account of a request.
  have hnoted : ∃ noted, (w.reserve sur b margin).2.journal =
      (b.granted (w.reserve sur b margin).1).map .granted ++ (noted ++ w₀.journal) ∧ g = .of noted.reverse := by
    obtain ⟨noted, hnoted, hjournal⟩ := w.reserve_journal sur b margin
    refine ⟨noted ++ new, by rw [hjournal, hnew, List.append_assoc], ?_⟩
    rcases hnoted with rfl | rfl
    · exact hg
    · rw [List.singleton_append, List.reverse_cons, Accounts.of_append, ← hg]
      exact Accounts.enter_log.symm
  obtain ⟨noted, hjournal, hg⟩ := hnoted
  refine ⟨fun b' hb => ?_, ?_, ?_⟩
  · rw [reserve_registry, Registry.get?_set_of_ne _ _ hb]
    exact h.others b' hb
  · rw [hreserved, h.reserved]
    cases (w.reserve sur b margin).1 <;> rfl
  · rw [hjournal]
    cases (w.reserve sur b margin).1 with
    | error refusal => exact ⟨noted, rfl, hg⟩
    | ok permit =>
        refine ⟨.granted b :: noted, rfl, ?_⟩
        rw [List.reverse_cons, Accounts.of_append, ← hg, Accounts.enter_granted]
        rfl

theorem update (h : w₀.Booked b g w) (budget : Budget τ) : w₀.Booked b g (w.update b budget).2 := by
  obtain ⟨new, hnew, rfl⟩ := h.journal
  refine ⟨fun b' hb => ?_, ?_, ?_⟩
  · rw [registry_update, Registry.get?_set_of_ne _ _ hb]
    exact h.others b' hb
  · unfold tracker
    rw [registry_update, Registry.tracker_set]
    exact h.reserved
  · rcases w.update_journal b budget with hjournal | ⟨text, hjournal⟩
    · exact ⟨new, hjournal.trans hnew, rfl⟩
    · refine ⟨.noted (.log .warning text) :: new, ?_, ?_⟩
      · rw [hjournal, hnew]
        rfl
      · rw [List.reverse_cons, Accounts.of_append]
        exact Accounts.enter_log.symm

theorem openBucket (h : w₀.Booked b g w) : w₀.Booked b g (w.perform sur (.openBucket b)).2 := by
  refine ⟨fun b' hb => ?_, ?_, h.journal⟩
  · exact (Registry.get?_tracker_of_ne _ hb).trans (h.others b' hb)
  · show (((w.registry.tracker b).2.tracker b).1).reserved = _
    rw [Registry.get?_tracker_of_some (Registry.get?_tracker _ _)]
    exact h.reserved

/-- A step moves the accounts as the behaviour says. -/
theorem perform (h : w₀.Booked b g w) {e : Effect τ Request} (hallows : (Accounts.behaviour b).allows g e) :
    w₀.Booked b (g.after e (w.perform sur e).1) (w.perform sur e).2 := by
  cases e with
  | sleep s => exact h.sleep s
  | wait f s =>
      cases hraised : w.isRaised sur f <;> simp only [World.perform, hraised]
      · exact h.sleep s
      · exact h
  | ask q => exact h.enter rfl rfl rfl
  | openBucket b' =>
      cases hallows
      exact h.openBucket
  | reserve b' margin =>
      cases hallows
      exact h.reserve margin
  | update b' budget =>
      cases hallows
      exact h.update budget
  | note n => exact h.enter rfl rfl rfl
  | _ => exact h.keep rfl rfl

end Booked

theorem shown_accounts (sur : Surroundings σ τ Request Reply) (b : Bucket) (w₀ : World σ τ Request) :
    (Accounts.behaviour b).Shown sur fun w g => w₀.Booked b g w :=
  ⟨fun _ => rfl, fun h hallows => ⟨_, rfl, h.perform hallows⟩⟩

end World

end RepoCensus
