import Mathlib.Algebra.Order.Group.MinMax
import Mathlib.Tactic

/-!
# Clamping to an interval

`clamp lo hi x` is the element of `lo … hi` nearest to `x`. It keeps the order, leaves what is
within the interval alone, and turns around with it (`clamp_neg`); so a sum of clamped terms of odd
functions is odd.
-/

namespace Clamp

section Order

variable {α : Type*} [LinearOrder α] {lo hi x y : α}

/-- `max(lo, min(hi, x))`. -/
def clamp (lo hi x : α) : α :=
  max lo (min hi x)

theorem le_clamp : lo ≤ clamp lo hi x :=
  le_max_left _ _

theorem clamp_le (h : lo ≤ hi) : clamp lo hi x ≤ hi :=
  max_le h (min_le_left _ _)

/-- Clamping keeps the order. -/
theorem clamp_mono (h : x ≤ y) : clamp lo hi x ≤ clamp lo hi y :=
  max_le_max_left lo (min_le_min_left hi h)

/-- What is within the interval stays where it is. -/
theorem clamp_eq_self (hlo : lo ≤ x) (hhi : x ≤ hi) : clamp lo hi x = x := by
  rw [clamp, min_eq_right hhi, max_eq_right hlo]

end Order

variable {α : Type*} [AddCommGroup α] [LinearOrder α] [IsOrderedAddMonoid α] {lo hi : α}

/-- **A clamp turned around** is the clamp to the interval turned around. -/
theorem clamp_neg (h : lo ≤ hi) (x : α) : clamp (-hi) (-lo) (-x) = -clamp lo hi x := by
  calc max (-hi) (min (-lo) (-x))
      = max (-hi) (-max lo x) := by rw [min_neg_neg]
    _ = -min hi (max lo x) := max_neg_neg _ _
    _ = -max lo (min hi x) := by rw [max_min_distrib_left, max_eq_right h]

/-- A symmetric clamp is odd. -/
theorem clamp_neg_self (h : 0 ≤ hi) (x : α) : clamp (-hi) hi (-x) = -clamp (-hi) hi x := by
  have hturned := clamp_neg ((neg_nonpos.2 h).trans h) x
  rwa [neg_neg] at hturned

/-- And its values are no farther from zero than its bound. -/
theorem abs_clamp_le (h : 0 ≤ hi) (x : α) : |clamp (-hi) hi x| ≤ hi :=
  abs_le.2 ⟨le_clamp, clamp_le ((neg_nonpos.2 h).trans h)⟩

/-- **Clamping brings values no farther apart.** -/
theorem abs_clamp_sub_clamp_le (lo hi x y : α) : |clamp lo hi x - clamp lo hi y| ≤ |x - y| := by
  calc |max lo (min hi x) - max lo (min hi y)|
      ≤ |min hi x - min hi y| := by
        rw [max_comm lo, max_comm lo]
        exact abs_max_sub_max_le_abs _ _ _
    _ ≤ max |hi - hi| |x - y| := abs_min_sub_min_le_max _ _ _ _
    _ = |x - y| := by rw [sub_self, abs_zero, max_eq_right (abs_nonneg _)]

end Clamp
