import RepoCensus.Pages.Walk
import RepoCensus.Proofs.Work.Accounts

/-!
# Accounts of walks

A walk counts what the requests for its pages count, and it ends with the first permit that is denied.
-/

namespace RepoCensus

namespace Walk

open Work Accounts

variable {τ α : Type} {b : Bucket} {limits : WalkLimits} {flag : Option Flag}
  {fetch : Option String → Work τ Request Reply (Page α)} {w : Walk α} {n : Numbers} {g : Accounts}

/-- A turn that ended because a permit was denied. -/
def DeniedTurn : Except (Fault τ) (Turn τ α × Walk α) → Prop
  | .ok (.broken fault, _) => fault.isDenial = true
  | _ => False

/-- A walk that ended because a permit was denied. -/
def DeniedWalk : Except (Fault τ) (Except (Fault τ) (List α) × Walk α) → Prop
  | .ok (x, _) => Denied x
  | .error _ => False

variable (hfetch : ∀ cursor n g, g.tries.unpaid = false →
  Attains (Accounts.behaviour b) (fetch cursor) n g fun x => Tallies n g (Denied x))

include hfetch

theorem attains_takeNext_booked (hpaid : g.tries.unpaid = false) :
    Attains (Accounts.behaviour b) (takeNext limits flag fetch w) n g fun x => Tallies n g (DeniedTurn x) := by
  apply Attains.ite
  · intro _
    exact (Abstains.log _ _).attains_bind (fun _ => .refl hpaid) fun _ => .pure (.refl hpaid)
  intro _
  apply Attains.ite
  · intro _
    exact .pure (.refl hpaid)
  intro _
  refine (Abstains.isStopped flag).attains_bind (fun _ => .refl hpaid) fun stopped => ?_
  apply Attains.ite
  · intro _
    exact .pure (.refl hpaid)
  intro _
  refine .result_bind ((hfetch w.cursor n g hpaid).mono fun x n' g' hx => ?_)
  cases x with
  | ok page => exact .pure (hx.mono False.elim)
  | error fault => exact .pure hx

theorem attains_advance_booked (hpaid : g.tries.unpaid = false) :
    Attains (Accounts.behaviour b) (advance limits flag fetch w) n g fun x => Tallies n g (DeniedTurn x) := by
  unfold advance
  split
  · exact attains_takeNext_booked hfetch hpaid
  split
  · exact .pure (.refl hpaid)
  split
  · exact .pure (.refl hpaid)
  apply Attains.ite
  · intro _
    refine (Abstains.log _ _).attains_bind (fun _ => .refl hpaid) fun _ => ?_
    exact attains_takeNext_booked hfetch hpaid
  · intro _
    exact attains_takeNext_booked hfetch hpaid

theorem attains_collectFrom_booked {turns : Nat} {taken : List (List α)} (hpaid : g.tries.unpaid = false) :
    Attains (Accounts.behaviour b) (collectFrom limits flag fetch turns taken w) n g fun x =>
      Tallies n g (DeniedWalk x) := by
  induction turns generalizing taken w n g with
  | zero => exact .pure (.refl hpaid)
  | succ turns ih =>
      refine (attains_advance_booked hfetch hpaid).andThen ?_ ?_
      · intro fault n' g' hx
        exact hx
      · rintro ⟨items | _ | fault, w'⟩ n' g' hx
        case taken =>
          refine (ih (hx.paid id)).mono fun x n'' g'' hx' => ?_
          exact hx.trans id hx'
        case broken => exact .pure hx
        exact .pure (hx.mono False.elim)

/-- A walk counts each of its attempts once, and ends with the first denial. -/
theorem attains_collect_booked (hpaid : g.tries.unpaid = false) :
    Attains (Accounts.behaviour b) (collect limits flag fetch w) n g fun x => Tallies n g (DeniedWalk x) :=
  attains_collectFrom_booked hfetch hpaid

end Walk

end RepoCensus
