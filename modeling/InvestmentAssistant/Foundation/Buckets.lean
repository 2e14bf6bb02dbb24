import Mathlib.Tactic

/-!
# Full buckets of a list

Collecting a list into buckets of `n` elements, in order, and dropping what is left over at the end.
The loop keeps the buckets that are full and the one being filled.

The `j`-th bucket is the slice of length `n` at position `j * n` (`mem_fullBuckets_iff`). Positions
count from the start of the list, so a list without its first `k` elements has its buckets at the
positions `k + j * n` of the whole.
-/

namespace Buckets

variable {α : Type*} (n : ℕ)

/-- One element goes into the bucket being filled; a full bucket is put away. -/
def step (s : List (List α) × List α) (a : α) : List (List α) × List α :=
  if (s.2 ++ [a]).length = n then (s.1 ++ [s.2 ++ [a]], []) else (s.1, s.2 ++ [a])

/-- The full buckets of a list. -/
def fullBuckets (l : List α) : List (List α) :=
  (l.foldl (step n) ([], [])).1

variable {n} {l : List α}

theorem step_mk (full : List (List α)) (bucket : List α) (a : α) :
    step n (full, bucket) a =
      if (bucket ++ [a]).length = n then (full ++ [bucket ++ [a]], []) else (full, bucket ++ [a]) :=
  rfl

/-- The loop puts its buckets behind those it started with. -/
theorem foldl_step_fst (full : List (List α)) (bucket : List α) :
    (l.foldl (step n) (full, bucket)).1 = full ++ (l.foldl (step n) ([], bucket)).1 := by
  induction l generalizing full bucket with
  | nil => exact (List.append_nil full).symm
  | cons a l ih =>
    rw [List.foldl_cons, List.foldl_cons, step_mk, step_mk]
    split
    · rw [ih, List.nil_append, ih [bucket ++ [a]], List.append_assoc]
    · exact ih _ _

/-- From a bucket with room the loop fills it, or runs out of elements. -/
theorem foldl_step_of_lt {bucket : List α} (hlt : bucket.length < n) :
    (l.foldl (step n) ([], bucket)).1 =
      if (bucket ++ l).length < n then []
      else (bucket ++ l).take n :: fullBuckets n ((bucket ++ l).drop n) := by
  induction l generalizing bucket with
  | nil => rw [List.append_nil, if_pos hlt, List.foldl_nil]
  | cons a l ih =>
    have hassoc : bucket ++ a :: l = bucket ++ [a] ++ l := by rw [List.append_assoc]; rfl
    rw [List.foldl_cons, step_mk, hassoc]
    split
    · next hfull =>
      -- the bucket is full
      have hlen : ¬ (bucket ++ [a] ++ l).length < n := by
        rw [List.length_append]
        omega
      rw [if_neg hlen, List.take_left' hfull, List.drop_left' hfull, foldl_step_fst]
      rfl
    · next hfull =>
      refine ih ?_
      rw [List.length_append, List.length_singleton] at hfull ⊢
      omega

theorem fullBuckets_of_lt (h : l.length < n) : fullBuckets n l = [] := by
  rw [fullBuckets, foldl_step_of_lt (Nat.zero_lt_of_lt h), List.nil_append, if_pos h]

/-- **The first bucket, and those of the rest.** -/
theorem fullBuckets_of_le (hn : 0 < n) (h : n ≤ l.length) :
    fullBuckets n l = l.take n :: fullBuckets n (l.drop n) := by
  rw [fullBuckets, foldl_step_of_lt hn, List.nil_append, if_neg (Nat.not_lt.2 h)]

/-- **The full buckets are the slices of length `n` at the multiples of `n`.** -/
theorem mem_fullBuckets_iff (hn : 0 < n) {bucket : List α} :
    bucket ∈ fullBuckets n l ↔ ∃ j, j * n + n ≤ l.length ∧ bucket = (l.drop (j * n)).take n := by
  induction hlen : l.length using Nat.strong_induction_on generalizing l with
  | _ len ih =>
    subst hlen
    by_cases h : l.length < n
    · rw [fullBuckets_of_lt h]
      refine iff_of_false List.not_mem_nil ?_
      rintro ⟨j, hj, -⟩
      omega
    · have hle : n ≤ l.length := Nat.not_lt.1 h
      have hlen : (l.drop n).length = l.length - n := List.length_drop
      rw [fullBuckets_of_le hn hle, List.mem_cons, ih _ (by omega) rfl, hlen]
      constructor
      · rintro (rfl | ⟨j, hj, rfl⟩)
        · exact ⟨0, by omega, by rw [Nat.zero_mul, List.drop_zero]⟩
        · refine ⟨j + 1, by rw [Nat.succ_mul]; omega, ?_⟩
          rw [List.drop_drop, Nat.succ_mul, Nat.add_comm]
      · rintro ⟨j, hj, rfl⟩
        cases j with
        | zero => exact .inl (by rw [Nat.zero_mul, List.drop_zero])
        | succ j =>
          rw [Nat.succ_mul] at hj ⊢
          exact .inr ⟨j, by omega, by rw [List.drop_drop, Nat.add_comm]⟩

/-- The full buckets hold the beginning of the list. -/
theorem flatten_fullBuckets_prefix (hn : 0 < n) : (fullBuckets n l).flatten <+: l := by
  induction hlen : l.length using Nat.strong_induction_on generalizing l with
  | _ len ih =>
    subst hlen
    by_cases h : l.length < n
    · rw [fullBuckets_of_lt h]
      exact List.nil_prefix
    · have hle : n ≤ l.length := Nat.not_lt.1 h
      have hrest : (fullBuckets n (l.drop n)).flatten <+: l.drop n :=
        ih _ (by rw [List.length_drop]; omega) rfl
      rw [fullBuckets_of_le hn hle, List.flatten_cons]
      conv_rhs => rw [← List.take_append_drop n l]
      exact (List.prefix_append_right_inj _).2 hrest

/-- The first elements of buckets are in the order of their elements. -/
theorem heads_sublist_flatten (buckets : List (List α)) :
    (buckets.filterMap List.head?).Sublist buckets.flatten := by
  induction buckets with
  | nil => exact List.Sublist.slnil
  | cons bucket buckets ih =>
    rw [List.flatten_cons]
    cases bucket with
    | nil => exact ih
    | cons a bucket => exact (ih.trans (List.sublist_append_right bucket _)).cons_cons a

end Buckets
