import InvestmentAssistant.PatternRecognition.LevelClusters

/-!
# How far a level is from the price of its cluster

The tolerance is a bound on the way into a cluster: a level is compared with the mean of the cluster
as it stands. The mean that is reported is that of the whole cluster, and it has moved up since. So
from above the tolerance still holds, and from below it holds as far as the mean has not drifted
away from the first levels. Each level of `k` may add the `k`-th part of the tolerance, so the drift
is bounded by the product of `1 + t / k` (`meanPrice_le_mul_drift`): within the tolerance for up to
three levels, and beyond it from four on (`cluster_of_four_beyond_tolerance`).
-/

namespace InvestmentAssistant

open Decimal

/-- How far the mean of `k` levels can be above the first one, as a factor, at a tolerance of
`t`. -/
def drift (t : ℚ) (k : ℕ) : ℚ :=
  ∏ j ∈ Finset.Ioc 1 k, (1 + t / j)

theorem drift_one (t : ℚ) : drift t 1 = 1 := by
  rw [drift, Finset.Ioc_self, Finset.prod_empty]

theorem drift_succ (t : ℚ) {k : ℕ} (h : 1 ≤ k) :
    drift t (k + 1) = drift t k * (1 + t / (k + 1 : ℕ)) :=
  Finset.prod_Ioc_succ_top h _

theorem drift_pos {t : ℚ} (h : 0 ≤ t) (k : ℕ) : 0 < drift t k := by
  refine Finset.prod_pos fun j _ ↦ ?_
  have hpart : 0 ≤ t / j := by positivity
  linarith

/-- Up to three levels the drift stays within the tolerance. -/
theorem one_sub_mul_drift_le_one {t : ℚ} (h : 0 ≤ t) {k : ℕ} (hpos : 1 ≤ k) (hk : k ≤ 3) :
    (1 - t) * drift t k ≤ 1 := by
  have h2 : drift t 2 = 1 + t / 2 := by
    rw [drift_succ t le_rfl, drift_one]
    push_cast
    ring
  have h3 : drift t 3 = (1 + t / 2) * (1 + t / 3) := by
    rw [drift_succ t (by omega), h2]
    push_cast
    ring
  have hsq := mul_nonneg h h
  have hcube := mul_nonneg h hsq
  interval_cases k
  · rw [drift_one]
    linarith
  · rw [h2]
    linarith
  · rw [h3]
    linarith

/-- The mean after one more value. -/
theorem mean_concat (xs : List ℚ) (x : ℚ) :
    mean (xs ++ [x]) * (xs.length + 1 : ℕ) = xs.sum + x := by
  have h := mean_mul_length (List.append_ne_nil_of_right_ne_nil xs (List.cons_ne_nil x []))
  rwa [List.length_append, List.length_singleton, List.sum_append, List.sum_singleton] at h

namespace IsCluster

variable {tolerancePct : ℚ} {cluster : List RawLevel}

/-- One more level moves the mean by at most its part of the tolerance. -/
theorem meanPrice_concat_le {level : RawLevel} (h : IsCluster tolerancePct (cluster ++ [level]))
    (hne : cluster ≠ []) : meanPrice (cluster ++ [level]) ≤
      meanPrice cluster * (1 + tolerancePct / 100 / (cluster.length + 1 : ℕ)) := by
  have hfront := h.append_left hne
  have hjoined : level.1 ≤ meanPrice cluster * (1 + tolerancePct / 100) := h.le_of_append_cons hne
  have hcount : (0 : ℚ) < (cluster.length + 1 : ℕ) := by exact_mod_cast Nat.succ_pos _
  have hmean := mean_concat (cluster.map Prod.fst) level.1
  have hsum := mean_mul_length hfront.map_fst_ne_nil
  rw [List.length_map] at hmean hsum
  rw [meanPrice, List.map_append, List.map_singleton, ← mul_le_mul_iff_left₀ hcount, hmean, ← hsum,
    mul_assoc, add_mul, one_mul, div_mul_cancel₀ _ hcount.ne']
  push_cast
  rw [meanPrice] at hjoined ⊢
  linarith

/-- **The mean drifts away from the least level by no more than the factor.** -/
theorem meanPrice_le_mul_drift {low : RawLevel} {rest : List RawLevel}
    (h : IsCluster tolerancePct (low :: rest)) (htol : 0 ≤ tolerancePct) :
    meanPrice (low :: rest) ≤ low.1 * drift (tolerancePct / 100) (low :: rest).length := by
  induction rest using List.reverseRecOn with
  | nil =>
    rw [List.length_singleton, drift_one, mul_one]
    exact (mean_singleton low.1).le
  | append_singleton rest level ih =>
    rw [← List.cons_append] at h ⊢
    have hne : low :: rest ≠ [] := List.cons_ne_nil _ _
    have hstep := h.meanPrice_concat_le hne
    have hpart : 0 ≤ 1 + tolerancePct / 100 / ((low :: rest).length + 1 : ℕ) := by positivity
    rw [List.length_append, List.length_singleton, drift_succ _ (List.length_pos_of_ne_nil hne),
      ← mul_assoc]
    exact hstep.trans (mul_le_mul_of_nonneg_right (ih (h.append_left hne)) hpart)

/-- The least level decides whether all are within the tolerance. -/
theorem forall_abs_le_iff (h : IsCluster tolerancePct cluster) (htol : 0 ≤ tolerancePct)
    {low : RawLevel} (hlow : low ∈ cluster) (hleast : ∀ level ∈ cluster, low.1 ≤ level.1) :
    (∀ level ∈ cluster,
      |level.1 - meanPrice cluster| ≤ tolerancePct / 100 * meanPrice cluster) ↔
      meanPrice cluster - low.1 ≤ tolerancePct / 100 * meanPrice cluster := by
  constructor
  · intro hall
    rw [← neg_sub]
    exact (neg_le_abs _).trans (hall low hlow)
  · intro hbelow level hlevel
    have habove := h.le_meanPrice_mul htol hlevel
    have hleast := hleast level hlevel
    rw [abs_le]
    constructor <;> linarith

/-- Up to three levels, the least one is within the tolerance. -/
theorem meanPrice_sub_le_of_length_le {low : RawLevel} {rest : List RawLevel}
    (h : IsCluster tolerancePct (low :: rest)) (htol : 0 ≤ tolerancePct)
    (hlength : (low :: rest).length ≤ 3) : meanPrice (low :: rest) - low.1 ≤
      tolerancePct / 100 * meanPrice (low :: rest) := by
  have hfactor : 0 ≤ tolerancePct / 100 := by positivity
  have hlow : 0 < low.1 := h.pos low (List.mem_cons_self ..)
  have hdrift := one_sub_mul_drift_le_one hfactor
    (List.length_pos_of_ne_nil (List.cons_ne_nil low rest)) hlength
  have hmean := h.meanPrice_le_mul_drift htol
  rcases le_or_gt (tolerancePct / 100) 1 with hsmall | hlarge
  · have hscaled := mul_le_mul_of_nonneg_left hmean (sub_nonneg.2 hsmall)
    have hbound := mul_le_mul_of_nonneg_left hdrift hlow.le
    linarith
  · -- a tolerance beyond the price itself
    have hscaled := mul_lt_mul_of_pos_right hlarge h.meanPrice_pos
    linarith

end IsCluster

/-- **How far the levels of a cluster are from its price.** Each exceeds the mean by at most the
tolerance. Below the mean, a level is within the tolerance in a cluster of up to three, and within
the drift of the mean in any; all are within the tolerance exactly when the least one is. The price
that is reported is the mean to four decimals. -/
theorem cluster_tolerance {levels : List RawLevel} {tolerancePct : ℚ}
    (hpos : ∀ level ∈ levels, 0 < level.1) (htol : 0 ≤ tolerancePct) :
    clusterLevels levels tolerancePct = (levelClusters levels tolerancePct).map clusterLevel ∧
    ∀ c ∈ levelClusters levels tolerancePct,
      (∀ level ∈ c, level.1 - meanPrice c ≤ tolerancePct / 100 * meanPrice c) ∧
      (c.length ≤ 3 → ∀ level ∈ c,
        |level.1 - meanPrice c| ≤ tolerancePct / 100 * meanPrice c) ∧
      (∀ level ∈ c, meanPrice c ≤ level.1 * drift (tolerancePct / 100) c.length) ∧
      (∃ low ∈ c, (∀ level ∈ c, low.1 ≤ level.1) ∧
        ((∀ level ∈ c, |level.1 - meanPrice c| ≤ tolerancePct / 100 * meanPrice c) ↔
          meanPrice c - low.1 ≤ tolerancePct / 100 * meanPrice c)) ∧
      |(clusterLevel c).price - meanPrice c| ≤ 1 / 20000 := by
  refine ⟨clusterLevels_eq levels tolerancePct, fun c hc ↦ ?_⟩
  have h := isCluster_of_mem hpos hc
  obtain ⟨low, rest, rfl⟩ := List.exists_cons_of_ne_nil h.grown.1
  have hleast : ∀ level ∈ low :: rest, low.1 ≤ level.1 := fun level hlevel ↦ h.le_of_mem_cons hlevel
  have hiff := h.forall_abs_le_iff htol (List.mem_cons_self ..) hleast
  refine ⟨fun level hlevel ↦ ?_, fun hlength ↦ ?_, fun level hlevel ↦ ?_,
    ⟨low, List.mem_cons_self .., hleast, hiff⟩, ?_⟩
  · have habove := h.le_meanPrice_mul htol hlevel
    linarith
  · exact hiff.2 (h.meanPrice_sub_le_of_length_le htol hlength)
  · refine (h.meanPrice_le_mul_drift htol).trans ?_
    exact mul_le_mul_of_nonneg_right (hleast level hlevel) (drift_pos (by positivity) _).le
  · have hround := abs_roundTo_sub_le 4 (meanPrice (low :: rest))
    show |roundTo 4 (meanPrice (low :: rest)) - meanPrice (low :: rest)| ≤ 1 / 20000
    linarith

/-- **Four levels whose price is beyond the tolerance of the first**: half a per cent of 100.5375 is
less than 0.51, and the first level is 0.5375 away. -/
theorem cluster_of_four_beyond_tolerance :
    let levels : List RawLevel := [(100, false), (100.5, false), (100.75, false), (100.9, false)]
    clusterLevels levels (1 / 2) = [⟨100.5375, false, 4⟩] ∧
      levelClusters levels (1 / 2) = [levels] ∧
      1 / 2 / 100 * (100.5375 : ℚ) + 1 / 10000 < |100 - 100.5375| := by
  intro levels
  refine ⟨by decide +kernel, by decide +kernel, by norm_num⟩

/-- The tolerance is kept by the first three of them. -/
theorem cluster_tolerance_three :
    let levels : List RawLevel := [(100, false), (100.5, false), (100.75, false)]
    clusterLevels levels (1 / 2) = (levelClusters levels (1 / 2)).map clusterLevel ∧
    ∀ c ∈ levelClusters levels (1 / 2),
      (∀ level ∈ c, level.1 - meanPrice c ≤ 1 / 2 / 100 * meanPrice c) ∧
      (c.length ≤ 3 → ∀ level ∈ c, |level.1 - meanPrice c| ≤ 1 / 2 / 100 * meanPrice c) ∧
      (∀ level ∈ c, meanPrice c ≤ level.1 * drift (1 / 2 / 100) c.length) ∧
      (∃ low ∈ c, (∀ level ∈ c, low.1 ≤ level.1) ∧
        ((∀ level ∈ c, |level.1 - meanPrice c| ≤ 1 / 2 / 100 * meanPrice c) ↔
          meanPrice c - low.1 ≤ 1 / 2 / 100 * meanPrice c)) ∧
      |(clusterLevel c).price - meanPrice c| ≤ 1 / 20000 := by
  intro levels
  exact @cluster_tolerance levels (1 / 2) (by decide +kernel) (by decide +kernel)

end InvestmentAssistant
