import RepoCensus.Calendar.Seconds

/-!
# Seconds in order

What the theory of waits needs of the numbers that count seconds: an order in which a difference tells which of two
comes first. Rational numbers have it, and so have finite doubles, whose differences are rounded but never across zero.
-/

namespace RepoCensus.Calendar

class OrderedSeconds (τ : Type) [Seconds τ] : Prop where
  le_refl (a : τ) : a ≤ a
  le_trans {a b c : τ} : a ≤ b → b ≤ c → a ≤ c
  lt_of_not_le {a b : τ} : ¬ a ≤ b → b < a
  sub_le_zero {a b : τ} : a ≤ b → a - b ≤ Seconds.zero

instance : OrderedSeconds Rat where
  le_refl := fun _ => Rat.le_refl
  le_trans := Rat.le_trans
  lt_of_not_le := Rat.not_le.mp
  sub_le_zero := by
    intro a b h
    have h : (a : Rat) ≤ b := h
    show (a : Rat) - b ≤ 0
    grind

namespace Seconds

variable {τ : Type} [Seconds τ] [OrderedSeconds τ]

theorem timeUntil_le_zero {later now : τ} (h : later ≤ now) : timeUntil later now ≤ zero := by
  unfold timeUntil greater
  split
  · exact OrderedSeconds.le_refl _
  · exact OrderedSeconds.sub_le_zero h

theorem timeUntil_eq_sub {later now : τ} (h : ¬ timeUntil later now ≤ zero) :
    timeUntil later now = later - now := by
  unfold timeUntil greater at h ⊢
  split
  · rename_i hz
    rw [if_pos hz] at h
    exact absurd (OrderedSeconds.le_refl _) h
  · rfl

end Seconds

end RepoCensus.Calendar
