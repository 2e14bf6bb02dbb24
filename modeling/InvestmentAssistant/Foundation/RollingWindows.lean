import Mathlib.Tactic

/-!
# Rolling windows over a list

The windows of `size` consecutive items that start at the multiples of `step`: where they start
(`starts`), and what is in a part of one (`slice`). A window of an initial part of the list is a
window of the list, and the first `k + 1` windows are those of the part that ends with the last of
them (`starts_of_end`). No further window fits (`lt_length_mul_add`), and two windows start at
least a step apart (`pairwise_starts`).
-/

namespace RollingWindows

variable {α : Type} {total size step i n len : ℕ} {xs : List α}

/-- The starts of the full windows: `range(0, total - size + 1, step)`. -/
def starts (total size step : ℕ) : List ℕ :=
  List.range' 0 ((total + 1 - size + (step - 1)) / step) step

/-- `xs[i : i + len]`. -/
def slice (xs : List α) (i len : ℕ) : List α :=
  (xs.drop i).take len

/-- **The windows are the full ones**: every multiple of `step` starts one, as long as it fits. -/
theorem mem_starts (hstep : 0 < step) :
    i ∈ starts total size step ↔ ∃ k, i = k * step ∧ i + size ≤ total := by
  rw [starts, List.mem_range']
  have hlt (k : ℕ) : k < (total + 1 - size + (step - 1)) / step ↔ k * step + size ≤ total := by
    rw [Nat.lt_iff_add_one_le, Nat.le_div_iff_mul_le hstep, add_one_mul]
    omega
  constructor
  · rintro ⟨k, hk, rfl⟩
    refine ⟨k, by rw [zero_add, mul_comm], ?_⟩
    rw [zero_add, mul_comm]
    exact (hlt k).1 hk
  · rintro ⟨k, rfl, hk⟩
    exact ⟨k, (hlt k).2 hk, by rw [zero_add, mul_comm]⟩

/-- The starts in the part that ends with window `k`. -/
theorem starts_of_end (hstep : 0 < step) {k : ℕ} (hk : k < (starts total size step).length) :
    starts (k * step + size) size step = (starts total size step).take (k + 1) := by
  rw [starts, List.length_range'] at hk
  rw [starts, starts, List.take_range'_of_length_ge hk]
  congr 1
  rw [show k * step + size + 1 - size + (step - 1) = (k + 1) * step by
    rw [add_one_mul]
    omega]
  exact Nat.mul_div_cancel _ hstep

/-- The start of a window is its number times the step. -/
theorem getElem_starts {k : ℕ} (hk : k < (starts total size step).length) :
    (starts total size step)[k] = k * step := by
  simp only [starts, List.getElem_range', zero_add, mul_comm]

/-- The end of a window fits. -/
theorem end_le_of_lt (hstep : 0 < step) {k : ℕ} (hk : k < (starts total size step).length) :
    k * step + size ≤ total := by
  have hmem : (starts total size step)[k] ∈ starts total size step := List.getElem_mem hk
  rw [getElem_starts hk, mem_starts hstep] at hmem
  obtain ⟨-, -, hle⟩ := hmem
  exact hle

/-- **One more window would not fit.** -/
theorem lt_length_mul_add (hstep : 0 < step) :
    total < (starts total size step).length * step + size := by
  by_contra! hfits
  obtain ⟨k, hk, hget⟩ := List.getElem_of_mem ((mem_starts hstep).2 ⟨_, rfl, hfits⟩)
  rw [getElem_starts hk] at hget
  exact hk.ne (Nat.eq_of_mul_eq_mul_right hstep hget)

/-- Later windows start at least a step later. -/
theorem pairwise_starts : (starts total size step).Pairwise fun i j ↦ i + step ≤ j := by
  refine List.pairwise_iff_getElem.2 fun k l hk hl hkl ↦ ?_
  rw [getElem_starts hk, getElem_starts hl, ← Nat.succ_mul]
  exact Nat.mul_le_mul_right step hkl

/-- A slice that fits has its length. -/
theorem length_slice (h : i + len ≤ xs.length) : (slice xs i len).length = len := by
  rw [slice, List.length_take, List.length_drop, min_eq_left (by omega)]

/-- The items of a slice, one by one. -/
theorem getElem?_slice {k : ℕ} (hk : k < len) : (slice xs i len)[k]? = xs[i + k]? := by
  rw [slice, List.getElem?_take_of_lt hk, List.getElem?_drop]

/-- A slice of an initial part is one of the list. -/
theorem slice_take (h : i + len ≤ n) : slice (xs.take n) i len = slice xs i len := by
  rw [slice, slice, List.drop_take, List.take_take, min_eq_left (by omega)]

end RollingWindows
