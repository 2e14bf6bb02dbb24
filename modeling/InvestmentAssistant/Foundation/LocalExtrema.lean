import Mathlib.Order.RelClasses
import Mathlib.Tactic

/-!
# Local extrema of a series

A value of a finite series is a local extremum for a relation `r` when it is in that relation to all
values near it: `r` is `· ≥ ·` for a local maximum, `· ≤ ·` for a local minimum, and any total
preorder will do.

A nonempty series has a local extremum. The last one is a bound for everything after it
(`IsLast.rel_of_le`): the extreme value of the rest would be a local extremum itself, unless a value
near it beats it; that value lies before the last extremum, hence is near it as well, and does not
beat it.

So the last minimum of a series and the last maximum of one above it are in their order, wherever
they lie: both are bounds from the later of the two on (`IsLast.le_of_forall_le`).
-/

namespace LocalExtrema

variable {α : Type*} (r : α → α → Prop) (f : ℕ → α) (n order : ℕ)

/-- The value at `i` is in relation to every value up to `order` places away. -/
def IsExtremum (i : ℕ) : Prop :=
  i < n ∧ ∀ j < n, j ≤ i + order → i ≤ j + order → r (f i) (f j)

/-- No extremum comes after `i`. -/
structure IsLast (i : ℕ) : Prop where
  isExtremum : IsExtremum r f n order i
  le : ∀ j, IsExtremum r f n order j → j ≤ i

variable {r f n order} {i j m : ℕ}

section Total

variable [Std.Total r] [IsTrans α r]

/-- The values from one place on have an extreme one. -/
theorem exists_extreme_from (h : m < n) :
    ∃ i, (m ≤ i ∧ i < n) ∧ ∀ j, m ≤ j → j < n → r (f i) (f j) := by
  induction n, h using Nat.le_induction with
  | base =>
    refine ⟨m, ⟨le_rfl, Nat.lt_succ_self m⟩, fun j hmj hj ↦ ?_⟩
    rw [le_antisymm (Nat.lt_succ_iff.1 hj) hmj]
    exact refl_of r (f m)
  | succ n hmn ih =>
    obtain ⟨i, ⟨hmi, hin⟩, hi⟩ := ih
    -- the new value is extreme, or the old extreme value is
    rcases total_of r (f i) (f n) with hold | hnew
    · refine ⟨i, ⟨hmi, by omega⟩, fun j hmj hj ↦ ?_⟩
      rcases (Nat.lt_succ_iff.1 hj).eq_or_lt with rfl | hjn
      · exact hold
      · exact hi j hmj hjn
    · refine ⟨n, ⟨by omega, by omega⟩, fun j hmj hj ↦ ?_⟩
      rcases (Nat.lt_succ_iff.1 hj).eq_or_lt with rfl | hjn
      · exact refl_of r (f j)
      · exact trans_of r hnew (hi j hmj hjn)

/-- **A nonempty series has an extremum.** -/
theorem exists_isExtremum (h : 0 < n) : ∃ i, IsExtremum r f n order i := by
  obtain ⟨i, ⟨-, hin⟩, hi⟩ := @exists_extreme_from α r f n 0 _ _ h
  exact ⟨i, hin, fun j hj _ _ ↦ hi j (Nat.zero_le j) hj⟩

/-- **The last extremum is a bound for what follows it.** -/
theorem IsLast.rel_of_le (h : IsLast r f n order i) (hij : i ≤ j) (hj : j < n) : r (f i) (f j) := by
  obtain ⟨m, ⟨him, hmn⟩, hm⟩ := @exists_extreme_from α r f n i _ _ h.isExtremum.1
  suffices hrel : r (f i) (f m) from trans_of r hrel (hm j hij hj)
  rcases (total_of r (f i) (f m)) with hrel | hback
  · exact hrel
  · by_cases hnear : IsExtremum r f n order m
    · rw [le_antisymm him (h.le m hnear)]
      exact refl_of r (f m)
    · -- a value near `m` beats it, so it lies before `i`
      obtain ⟨k, hk, hkm, hmk, hbeats⟩ : ∃ k < n, k ≤ m + order ∧ m ≤ k + order ∧
          ¬r (f m) (f k) := by
        by_contra! hall
        exact hnear ⟨hmn, hall⟩
      have hki : k < i := by
        by_contra! hik
        exact hbeats (hm k hik hk)
      exact absurd (trans_of r hback (h.isExtremum.2 k hk (by omega) (by omega))) hbeats

end Total

/-- **Two series in order have their last extrema in order.** -/
theorem IsLast.le_of_forall_le {β : Type*} [LinearOrder β] {low high : ℕ → β}
    (hlow : IsLast (· ≤ ·) low n order i) (hhigh : IsLast (· ≥ ·) high n order j)
    (h : ∀ k < n, low k ≤ high k) : low i ≤ high j := by
  have hmax : max i j < n := max_lt hlow.isExtremum.1 hhigh.isExtremum.1
  calc low i ≤ low (max i j) := hlow.rel_of_le (le_max_left i j) hmax
    _ ≤ high (max i j) := h _ hmax
    _ ≤ high j := hhigh.rel_of_le (le_max_right i j) hmax

end LocalExtrema
