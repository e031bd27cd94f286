import RepoCensus.Proofs.Budget.Means
import RepoCensus.Proofs.World.Journal
import RepoCensus.Proofs.World.Shown

/-!
# Services that play a script

A service plays a script if it gives the answers of the script to its requests, one after another. Work that
makes these requests, and that can pay for them, is undisturbed.
-/

namespace RepoCensus

open RepoCensus.Calendar

variable {σ τ Q R : Type}

/-- Requests with their answers are played in this order, whatever idle turns are taken in between, and as long
as this goes on nobody cancels work that looks at the caller's flag. -/
def Surroundings.Plays (sur : Surroundings σ τ Q R) (flag : Option Flag) :
    List (Q × Except (Fault τ) R) → σ → Prop
  | [], o => ∀ o', sur.Idles o o' → flag = some .callers → sur.cancelled o' = false
  | (q, answer) :: rest, o => ∀ o', sur.Idles o o' → (flag = some .callers → sur.cancelled o' = false) ∧
      (sur.serve q o').1 = answer ∧ Plays sur flag rest (sur.serve q o').2

namespace Surroundings.Plays

variable {sur : Surroundings σ τ Q R} {flag : Option Flag} {script : List (Q × Except (Fault τ) R)} {o o' : σ}

theorem idles (h : sur.Plays flag script o) (ho : sur.Idles o o') : sur.Plays flag script o' := by
  cases script with
  | nil => exact fun o'' ho' => h o'' (ho.trans ho')
  | cons entry rest => exact fun o'' ho' => h o'' (ho.trans ho')

theorem unraised (h : sur.Plays flag script o) (hflag : flag = some .callers) : sur.cancelled o = false := by
  cases script with
  | nil => exact h o .refl hflag
  | cons entry rest => exact (h o .refl).1 hflag

end Surroundings.Plays

namespace Surroundings

variable {answer : Q → Nat → Except (Fault Rat) R} {flag : Option Flag} {o o' : Hours}

theorem served_of_idles (h : (quiet answer).Idles o o') : o'.served = o.served ∧ o'.stopped = o.stopped := by
  induction h with
  | refl => exact ⟨rfl, rfl⟩
  | tail _ hidle ih =>
      cases hidle with
      | clock => exact ih
      | jitter => exact ih
      | sleep s => exact ih

/-- A quiet place plays the answers that it gives to its requests one after another. -/
theorem plays_quiet {script : List (Q × Except (Fault Rat) R)} (hstopped : o.stopped = false)
    (h : ∀ i q a, script[i]? = some (q, a) → answer q (o.served + i) = a) : (quiet answer).Plays flag script o := by
  induction script generalizing o with
  | nil =>
      intro o' ho' _
      exact (served_of_idles ho').2.trans hstopped
  | cons entry rest ih =>
      obtain ⟨q, a⟩ := entry
      intro o' ho'
      obtain ⟨hserved, hstill⟩ := served_of_idles ho'
      refine ⟨fun _ => hstill.trans hstopped, ?_, ih (hstill.trans hstopped) fun i q' a' hi => ?_⟩
      · show answer q o'.served = a
        rw [hserved]
        exact h 0 q a rfl
      · show answer q' (o'.served + 1 + i) = a'
        rw [hserved, Nat.add_assoc, Nat.add_comm 1]
        exact h (i + 1) q' a' hi

end Surroundings

/-- What is still to come of a script, and the permits that are still to be had for it. -/
structure Prospect (τ Q R : Type) where
  permits : Nat
  answers : List (Q × Except (Fault τ) R)

/-- What is to come at the beginning of a script, each of whose requests takes a permit. -/
def Prospect.start (script : List (Q × Except (Fault τ) R)) : Prospect τ Q R := ⟨script.length, script⟩

/-- The conduct of a service that plays a script. -/
def Conduct.scripted (τ Q R : Type) (bucket : Bucket) (margin : Option Int) : Conduct τ Q R (Prospect τ Q R) where
  pays g b m g' := b = bucket ∧ m = margin ∧ g = ⟨g'.permits + 1, g'.answers⟩
  asks g q answer g' := g = ⟨g'.permits, (q, answer) :: g'.answers⟩
  tells _ _ _ _ _ := False

variable [Seconds τ]

/-- A world in which a part of a script was played since the world `w₀`, and in which what is left can be played
and paid for. -/
structure World.AtProspect (sur : Surroundings σ τ Q R) (flag : Option Flag) (bucket : Bucket) (margin : Option Int)
    (w₀ : World σ τ Q) (script : List (Q × Except (Fault τ) R)) (w : World σ τ Q) (g : Prospect τ Q R) : Prop where
  plays : sur.Plays flag g.answers w.outside
  affords : w.Affords bucket margin g.permits
  own : flag = some .own → w.ownFlag = false
  played : ∃ done granted, script = done ++ g.answers ∧ w₀.Records (done.map Prod.fst) granted w

theorem Conduct.shown_scripted (sur : Surroundings σ τ Q R) (flag : Option Flag) (bucket : Bucket)
    (margin : Option Int) (w₀ : World σ τ Q) (script : List (Q × Except (Fault τ) R)) :
    (Conduct.scripted τ Q R bucket margin).Shown sur flag (fun _ _ => True)
      (World.AtProspect sur flag bucket margin w₀ script) where
  unraised {w g f} h hf := by
    cases f with
    | callers => exact h.plays.unraised hf
    | own => exact h.own hf
  quiet {w g e} h he := by
    obtain ⟨done, granted, hscript, hrecords⟩ := h.played
    have hasked : e.asked = [] := by cases e <;> first | rfl | cases he
    refine ⟨h.plays.idles (w.idles_perform sur he), h.affords.alike (w.alike_perform sur bucket he), ?_, ?_⟩
    · rw [World.ownFlag_perform]
      exact h.own
    · have hnew := hrecords.trans (w.records_perform sur e)
      rw [hasked, List.append_nil] at hnew
      exact ⟨done, _, hscript, hnew⟩
  reserve {w g b m} h _ hpays := by
    obtain ⟨⟨permits, answers⟩, rfl, rfl, rfl⟩ := hpays
    obtain ⟨done, granted, hscript, hrecords⟩ := h.played
    obtain ⟨⟨permit, hpermit⟩, haffords⟩ := h.affords.reserve sur
    refine ⟨permit, ⟨permits, answers⟩, hpermit, ⟨rfl, rfl, rfl⟩, h.plays.idles (w.idles_reserve sur b m), haffords,
      ?_, ?_⟩
    · have hown : (w.reserve sur b m).2.ownFlag = w.ownFlag := w.ownFlag_perform (.reserve b m)
      exact fun hf => hown.trans (h.own hf)
    · have hnew := hrecords.trans (w.records_reserve sur b m)
      rw [List.append_nil] at hnew
      exact ⟨done, _, hscript, hnew⟩
  ask {w g q} h hasks := by
    obtain ⟨answer, ⟨permits, answers⟩, rfl⟩ := hasks
    obtain ⟨done, granted, hscript, hrecords⟩ := h.played
    obtain ⟨_, hanswer, hplays⟩ := h.plays w.outside .refl
    refine ⟨⟨permits, answers⟩, ?_, hplays, h.affords, h.own, done ++ [(q, answer)], granted ++ [], ?_, ?_⟩
    · subst hanswer
      rfl
    · simpa using hscript
    · rw [List.map_append]
      exact hrecords.trans (w.records_perform sur (.ask q))
  update h htells := by
    obtain ⟨_, _, h⟩ := htells
    exact h.elim

end RepoCensus
