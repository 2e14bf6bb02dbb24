import InvestmentAssistant.Foundation.GreedyRuns
import InvestmentAssistant.PatternRecognition.SupportResistance

/-!
# The clusters of the levels

The levels are sorted by price and cut into runs; a level joins a cluster when it is within the
tolerance of the mean of what the cluster holds so far. In a sorted list the running mean only
grows, which is what the results rest on: a level that joined is within the tolerance of the final
mean from above (`le_meanPrice_mul`), so a level of the same price joins too, and the flags of equal
prices do not matter; and a level that did not join is beyond the mean it was compared with, which
is the final one.
-/

namespace InvestmentAssistant

open Decimal

/-! ### Means -/

section Mean

variable {xs ys : List ℚ} {a : ℚ}

theorem mean_mul_length (h : xs ≠ []) : mean xs * xs.length = xs.sum :=
  div_mul_cancel₀ _ (by exact_mod_cast (List.length_pos_of_ne_nil h).ne')

theorem length_pos_cast (h : xs ≠ []) : (0 : ℚ) < xs.length := by
  exact_mod_cast List.length_pos_of_ne_nil h

/-- A mean is at least any lower bound. -/
theorem le_mean (hne : xs ≠ []) (h : ∀ x ∈ xs, a ≤ x) : a ≤ mean xs := by
  rw [mean, le_div_iff₀ (length_pos_cast hne), mul_comm, ← nsmul_eq_mul]
  exact List.card_nsmul_le_sum xs a h

/-- And at most any upper bound. -/
theorem mean_le (hne : xs ≠ []) (h : ∀ x ∈ xs, x ≤ a) : mean xs ≤ a := by
  rw [mean, div_le_iff₀ (length_pos_cast hne), mul_comm, ← nsmul_eq_mul]
  exact List.sum_le_card_nsmul xs a h

theorem mean_singleton (a : ℚ) : mean [a] = a := by
  rw [mean, List.sum_singleton, List.length_singleton, Nat.cast_one, div_one]

/-- **The running mean of a sorted list grows.** -/
theorem mean_le_mean_append (hne : xs ≠ []) (h : ∀ x ∈ xs, ∀ y ∈ ys, x ≤ y) :
    mean xs ≤ mean (xs ++ ys) := by
  have happend : xs ++ ys ≠ [] := by simp [hne]
  have hys : mean xs * ys.length ≤ ys.sum := by
    rw [mul_comm, ← nsmul_eq_mul]
    exact List.card_nsmul_le_sum ys _ fun y hy ↦ mean_le hne fun x hx ↦ h x hx y hy
  have hxs := mean_mul_length hne
  rw [mean.eq_1 (xs ++ ys), le_div_iff₀ (length_pos_cast happend), List.sum_append,
    List.length_append, Nat.cast_add, mul_add]
  linarith

end Mean

/-! ### Joining a cluster -/

/-- The mean price of a cluster. -/
def meanPrice (cluster : List RawLevel) : ℚ :=
  mean (cluster.map Prod.fst)

/-- A level joins a cluster. -/
abbrev joins (tolerancePct : ℚ) (cluster : List RawLevel) (level : RawLevel) : Bool :=
  joinsCluster tolerancePct cluster level.1

/-- The clusters `_cluster_levels` forms. -/
def levelClusters (levels : List RawLevel) (tolerancePct : ℚ) : List (List RawLevel) :=
  GreedyRuns.runs (joins tolerancePct) (levels.insertionSort fun a b ↦ a.1 ≤ b.1)

theorem growClusters_eq (tolerancePct : ℚ) (cluster levels : List RawLevel) :
    growClusters tolerancePct cluster levels =
      GreedyRuns.grow (joins tolerancePct) cluster levels := by
  induction levels generalizing cluster with
  | nil => rfl
  | cons level levels ih => rw [growClusters, GreedyRuns.grow, ih, ih]

/-- **The levels are those of the clusters.** -/
theorem clusterLevels_eq (levels : List RawLevel) (tolerancePct : ℚ) :
    clusterLevels levels tolerancePct = (levelClusters levels tolerancePct).map clusterLevel := by
  rw [clusterLevels, levelClusters]
  split
  next h =>
    rw [h]
    rfl
  next level levels h =>
    rw [h, growClusters_eq]
    rfl

/-- For a price above a positive mean, the tolerance is an upper bound. -/
theorem joinsCluster_iff {tolerancePct price : ℚ} {cluster : List RawLevel}
    (hpos : 0 < meanPrice cluster) (hle : meanPrice cluster ≤ price) :
    joinsCluster tolerancePct cluster price = true ↔
      price ≤ meanPrice cluster * (1 + tolerancePct / 100) := by
  show decide (meanPrice cluster ≠ 0 ∧
    |price - meanPrice cluster| / meanPrice cluster * 100 ≤ tolerancePct) = true ↔ _
  rw [decide_eq_true_iff, and_iff_right hpos.ne', abs_of_nonneg (sub_nonneg.2 hle),
    div_mul_eq_mul_div, div_le_iff₀ hpos]
  constructor
  · intro h
    linarith
  · intro h
    linarith

/-! ### One cluster -/

/-- Positive prices in increasing order, each of which joined those before it. -/
structure IsCluster (tolerancePct : ℚ) (cluster : List RawLevel) : Prop where
  grown : GreedyRuns.Grown (joins tolerancePct) cluster
  pos : ∀ level ∈ cluster, 0 < level.1
  sorted : cluster.Pairwise fun a b ↦ a.1 ≤ b.1

namespace IsCluster

variable {tolerancePct : ℚ} {cluster : List RawLevel}

theorem map_fst_ne_nil (h : IsCluster tolerancePct cluster) : cluster.map Prod.fst ≠ [] := by
  simpa using h.grown.1

/-- The first level is the least. -/
theorem le_of_mem_cons {level : RawLevel} {rest : List RawLevel}
    (h : IsCluster tolerancePct (level :: rest)) {other : RawLevel}
    (hother : other ∈ level :: rest) : level.1 ≤ other.1 := by
  rcases List.mem_cons.1 hother with rfl | hother
  · exact le_rfl
  · exact (List.pairwise_cons.1 h.sorted).1 other hother

theorem exists_least (h : IsCluster tolerancePct cluster) :
    ∃ low ∈ cluster, ∀ level ∈ cluster, low.1 ≤ level.1 := by
  obtain ⟨low, rest, rfl⟩ := List.exists_cons_of_ne_nil h.grown.1
  exact ⟨low, List.mem_cons_self .., fun level hlevel ↦ h.le_of_mem_cons hlevel⟩

theorem exists_greatest (h : IsCluster tolerancePct cluster) :
    ∃ high ∈ cluster, ∀ level ∈ cluster, level.1 ≤ high.1 := by
  rcases List.eq_nil_or_concat' cluster with rfl | ⟨rest, high, rfl⟩
  · exact absurd rfl h.grown.1
  · refine ⟨high, by simp, fun level hlevel ↦ ?_⟩
    rcases List.mem_append.1 hlevel with hlevel | hlevel
    · exact (List.pairwise_append.1 h.sorted).2.2 level hlevel high (List.mem_singleton_self high)
    · rw [List.mem_singleton.1 hlevel]

theorem meanPrice_pos (h : IsCluster tolerancePct cluster) : 0 < meanPrice cluster := by
  obtain ⟨low, hlow, hleast⟩ := h.exists_least
  exact (h.pos low hlow).trans_le (le_mean h.map_fst_ne_nil (List.forall_mem_map.2 hleast))

/-- A part of a cluster from its front on. -/
theorem append_left {front back : List RawLevel} (h : IsCluster tolerancePct (front ++ back))
    (hne : front ≠ []) : IsCluster tolerancePct front := by
  refine ⟨⟨hne, fun before x after hsplit ↦ ?_⟩, ?_, (List.pairwise_append.1 h.sorted).1⟩
  · exact h.grown.2 before x (after ++ back) (by rw [hsplit, List.append_assoc, List.cons_append])
  · exact fun level hlevel ↦ h.pos level (List.mem_append_left back hlevel)

/-- The mean so far is at most the mean in the end. -/
theorem meanPrice_append_le {front back : List RawLevel}
    (h : IsCluster tolerancePct (front ++ back)) (hne : front ≠ []) :
    meanPrice front ≤ meanPrice (front ++ back) := by
  rw [meanPrice, meanPrice, List.map_append]
  refine mean_le_mean_append (by simpa using hne) ?_
  refine List.forall_mem_map.2 fun a ha ↦ List.forall_mem_map.2 fun b hb ↦ ?_
  exact (List.pairwise_append.1 h.sorted).2.2 a ha b hb

/-- A level that comes behind the others is not below their mean. -/
theorem meanPrice_le_of_forall_le (h : IsCluster tolerancePct cluster) {price : ℚ}
    (hle : ∀ level ∈ cluster, level.1 ≤ price) : meanPrice cluster ≤ price :=
  mean_le h.map_fst_ne_nil (List.forall_mem_map.2 hle)

/-- A level was within the tolerance of the mean of those before it. -/
theorem le_of_append_cons {before after : List RawLevel} {level : RawLevel}
    (h : IsCluster tolerancePct (before ++ level :: after)) (hne : before ≠ []) :
    level.1 ≤ meanPrice before * (1 + tolerancePct / 100) := by
  have hfront := h.append_left hne
  have hle : meanPrice before ≤ level.1 := hfront.meanPrice_le_of_forall_le fun other hother ↦
    (List.pairwise_append.1 h.sorted).2.2 other hother level (List.mem_cons_self ..)
  have hjoined := (h.grown.2 before level after rfl).resolve_left hne
  exact (joinsCluster_iff hfront.meanPrice_pos hle).1 hjoined

/-- **From above, every level is within the tolerance of the final mean.** -/
theorem le_meanPrice_mul (h : IsCluster tolerancePct cluster) (htol : 0 ≤ tolerancePct)
    {level : RawLevel} (hlevel : level ∈ cluster) :
    level.1 ≤ meanPrice cluster * (1 + tolerancePct / 100) := by
  have hfactor : 0 ≤ tolerancePct / 100 := by positivity
  obtain ⟨before, after, rfl⟩ := List.append_of_mem hlevel
  rcases List.eq_nil_or_concat' before with rfl | hbefore
  · -- the first level is the least
    have hleast : level.1 ≤ meanPrice (level :: after) :=
      le_mean h.map_fst_ne_nil (List.forall_mem_map.2 fun other hother ↦ h.le_of_mem_cons hother)
    have hslack := mul_nonneg h.meanPrice_pos.le hfactor
    rw [List.nil_append] at hslack ⊢
    linarith
  · have hne : before ≠ [] := by
      obtain ⟨earlier, last, rfl⟩ := hbefore
      simp
    calc level.1 ≤ meanPrice before * (1 + tolerancePct / 100) := h.le_of_append_cons hne
      _ ≤ meanPrice (before ++ level :: after) * (1 + tolerancePct / 100) :=
          mul_le_mul_of_nonneg_right (h.meanPrice_append_le hne) (by linarith)

/-- So a level that does not join is above all levels of the cluster. -/
theorem lt_of_not_joins (h : IsCluster tolerancePct cluster) (htol : 0 ≤ tolerancePct)
    {level : RawLevel} (hle : ∀ other ∈ cluster, other.1 ≤ level.1)
    (hnot : joins tolerancePct cluster level = false) :
    meanPrice cluster * (1 + tolerancePct / 100) < level.1 ∧
      ∀ other ∈ cluster, other.1 < level.1 := by
  have hiff := @joinsCluster_iff tolerancePct level.1 cluster h.meanPrice_pos
    (h.meanPrice_le_of_forall_le hle)
  have hlt : meanPrice cluster * (1 + tolerancePct / 100) < level.1 := by
    by_contra! hjoins
    exact Bool.false_ne_true (hnot.symm.trans (hiff.2 hjoins))
  exact ⟨hlt, fun other hother ↦ (h.le_meanPrice_mul htol hother).trans_lt hlt⟩

end IsCluster

/-! ### The clusters of a list -/

section Clusters

variable {levels : List RawLevel} {tolerancePct : ℚ}

/-- The clusters are blocks of the sorted levels. -/
theorem flatten_levelClusters (levels : List RawLevel) (tolerancePct : ℚ) :
    (levelClusters levels tolerancePct).flatten =
      levels.insertionSort (fun a b ↦ a.1 ≤ b.1) :=
  GreedyRuns.flatten_runs _

theorem sorted_flatten_levelClusters (levels : List RawLevel) (tolerancePct : ℚ) :
    (levelClusters levels tolerancePct).flatten.Pairwise fun a b ↦ a.1 ≤ b.1 := by
  rw [flatten_levelClusters]
  exact List.pairwise_insertionSort _ _

theorem isCluster_of_mem (hpos : ∀ level ∈ levels, 0 < level.1) {cluster : List RawLevel}
    (h : cluster ∈ levelClusters levels tolerancePct) : IsCluster tolerancePct cluster := by
  have hsub := List.sublist_flatten_of_mem h
  refine ⟨GreedyRuns.grown_of_mem_runs h, fun level hlevel ↦ ?_,
    (sorted_flatten_levelClusters levels tolerancePct).sublist hsub⟩
  have hmem := hsub.mem hlevel
  rw [flatten_levelClusters] at hmem
  exact hpos level ((List.perm_insertionSort _ _).mem_iff.1 hmem)

/-- **Neighbouring clusters are apart**, by their means and level by level. -/
theorem isChain_levelClusters (hpos : ∀ level ∈ levels, 0 < level.1) (htol : 0 ≤ tolerancePct) :
    (levelClusters levels tolerancePct).IsChain fun c d ↦
      meanPrice c * (1 + tolerancePct / 100) < meanPrice d ∧ ∀ a ∈ c, ∀ b ∈ d, a.1 < b.1 := by
  have hsorted := List.pairwise_flatten.1 (sorted_flatten_levelClusters levels tolerancePct)
  refine GreedyRuns.isChain_of_forall_mem (fun c hc ↦ isCluster_of_mem hpos hc) hsorted.2
    (GreedyRuns.isChain_runs _) ?_
  rintro c d hc hd hcd ⟨level, rest, rfl, hnot⟩
  have hleast : ∀ other ∈ level :: rest, level.1 ≤ other.1 := fun _ ↦ hd.le_of_mem_cons
  obtain ⟨hmean, hlt⟩ := hc.lt_of_not_joins htol
    (fun other hother ↦ hcd other hother level (List.mem_cons_self ..)) hnot
  refine ⟨hmean.trans_le (le_mean hd.map_fst_ne_nil (List.forall_mem_map.2 hleast)), ?_⟩
  exact fun a ha b hb ↦ (hlt a ha).trans_le (hleast b hb)

/-! ### The order of the levels -/

/-- The level of a cluster does not depend on the order of its members. -/
theorem clusterLevel_perm {c d : List RawLevel} (h : c.Perm d) :
    clusterLevel c = clusterLevel d := by
  have hmean : mean (c.map Prod.fst) = mean (d.map Prod.fst) := by
    rw [mean, mean, (h.map _).sum_eq, List.length_map, List.length_map, h.length_eq]
  rw [clusterLevel, clusterLevel, hmean, h.countP_eq, h.length_eq]

/-- A cluster is what the sorted list holds of its prices. -/
theorem map_clusterLevel_eq (hpos : ∀ level ∈ levels, 0 < level.1) (htol : 0 ≤ tolerancePct) :
    clusterLevels levels tolerancePct =
      ((levelClusters levels tolerancePct).map (List.map Prod.fst)).map fun prices ↦
        clusterLevel ((levels.insertionSort fun a b ↦ a.1 ≤ b.1).filter fun level ↦
          level.1 ∈ prices) := by
  have hpairwise := GreedyRuns.pairwise_lt_of_isChain
    (fun c hc ↦ (isCluster_of_mem hpos hc).grown.1)
    ((isChain_levelClusters hpos htol).imp fun c d h ↦ h.2)
  rw [clusterLevels_eq, List.map_map]
  refine List.map_congr_left fun c hc ↦ ?_
  rw [Function.comp_apply, ← flatten_levelClusters levels tolerancePct,
    GreedyRuns.eq_filter_of_pairwise_lt hpairwise hc]

/-- The prices of the clusters are decided by the sorted prices. -/
theorem map_fst_levelClusters (levels : List RawLevel) (tolerancePct : ℚ) :
    (levelClusters levels tolerancePct).map (List.map Prod.fst) =
      GreedyRuns.runs (fun prices price ↦
        decide (mean prices ≠ 0 ∧ |price - mean prices| / mean prices * 100 ≤ tolerancePct))
        ((levels.insertionSort fun a b ↦ a.1 ≤ b.1).map Prod.fst) :=
  (@GreedyRuns.runs_map RawLevel (joins tolerancePct) ℚ _ Prod.fst (fun _ _ ↦ rfl) _).symm

/-- **The clustered levels do not depend on the order of the levels.** -/
theorem clusterLevels_perm (hpos : ∀ level ∈ levels, 0 < level.1) (htol : 0 ≤ tolerancePct)
    {levels' : List RawLevel} (h : levels.Perm levels') :
    clusterLevels levels' tolerancePct = clusterLevels levels tolerancePct := by
  have hpos' : ∀ level ∈ levels', 0 < level.1 := fun level hlevel ↦ hpos level (h.mem_iff.2 hlevel)
  have hsort : (levels'.insertionSort fun a b ↦ a.1 ≤ b.1).Perm
      (levels.insertionSort fun a b ↦ a.1 ≤ b.1) :=
    (List.perm_insertionSort _ _).trans (h.symm.trans (List.perm_insertionSort _ _).symm)
  have hprices : (levels'.insertionSort fun a b ↦ a.1 ≤ b.1).map Prod.fst =
      (levels.insertionSort fun a b ↦ a.1 ≤ b.1).map Prod.fst := by
    refine (hsort.map Prod.fst).eq_of_pairwise (fun a b _ _ hab hba ↦ le_antisymm hab hba) ?_ ?_
    · exact (List.pairwise_insertionSort _ _).map _ fun a b hab ↦ hab
    · exact (List.pairwise_insertionSort _ _).map _ fun a b hab ↦ hab
  rw [map_clusterLevel_eq hpos' htol, map_clusterLevel_eq hpos htol, map_fst_levelClusters,
    map_fst_levelClusters, hprices]
  exact List.map_congr_left fun prices _ ↦ clusterLevel_perm (hsort.filter _)

/-- **What clustering returns.** The touches are those of all levels; the clusters are blocks of the
sorted levels; a mean lies between the least and the greatest level of its cluster, and neighbouring
means are more than the tolerance apart; and the order of the levels does not matter. -/
theorem cluster_levels (hpos : ∀ level ∈ levels, 0 < level.1) (htol : 0 ≤ tolerancePct) :
    clusterLevels levels tolerancePct =
      (levelClusters levels tolerancePct).map clusterLevel ∧
    ((clusterLevels levels tolerancePct).map ClusteredLevel.touchCount).sum = levels.length ∧
    let clusters := levelClusters levels tolerancePct
    (clusters.flatten = levels.insertionSort (fun a b ↦ a.1 ≤ b.1) ∧ ∀ c ∈ clusters, c ≠ []) ∧
    (∀ c ∈ clusters, ∃ low ∈ c, ∃ high ∈ c,
      (∀ level ∈ c, low.1 ≤ level.1 ∧ level.1 ≤ high.1) ∧
        low.1 ≤ meanPrice c ∧ meanPrice c ≤ high.1) ∧
    (clusters.map meanPrice).IsChain (fun lower upper ↦
      tolerancePct / 100 * lower < upper - lower) ∧
    ∀ levels', levels.Perm levels' →
      clusterLevels levels' tolerancePct = clusterLevels levels tolerancePct := by
  refine ⟨clusterLevels_eq levels tolerancePct, ?_,
    ⟨flatten_levelClusters levels tolerancePct, fun c hc ↦ (isCluster_of_mem hpos hc).grown.1⟩,
    fun c hc ↦ ?_, ?_, fun levels' h ↦ clusterLevels_perm hpos htol h⟩
  · have hlength := congrArg List.length (flatten_levelClusters levels tolerancePct)
    rw [List.length_flatten, List.length_insertionSort] at hlength
    rw [clusterLevels_eq, List.map_map]
    exact hlength
  · have hcluster := isCluster_of_mem hpos hc
    obtain ⟨low, hlow, hleast⟩ := hcluster.exists_least
    obtain ⟨high, hhigh, hgreatest⟩ := hcluster.exists_greatest
    exact ⟨low, hlow, high, hhigh, fun level hlevel ↦ ⟨hleast level hlevel, hgreatest level hlevel⟩,
      le_mean hcluster.map_fst_ne_nil (List.forall_mem_map.2 hleast),
      hcluster.meanPrice_le_of_forall_le hgreatest⟩
  · refine List.isChain_map_of_isChain _ (fun c d h ↦ ?_) (isChain_levelClusters hpos htol)
    have hmean := h.1
    linarith

/-- Three levels, two of them of one price. -/
theorem cluster_levels_three :
    let levels : List RawLevel := [(101, true), (100, false), (100, true)]
    clusterLevels levels (1 / 2) = (levelClusters levels (1 / 2)).map clusterLevel ∧
    ((clusterLevels levels (1 / 2)).map ClusteredLevel.touchCount).sum = levels.length ∧
    let clusters := levelClusters levels (1 / 2)
    (clusters.flatten = levels.insertionSort (fun a b ↦ a.1 ≤ b.1) ∧ ∀ c ∈ clusters, c ≠ []) ∧
    (∀ c ∈ clusters, ∃ low ∈ c, ∃ high ∈ c,
      (∀ level ∈ c, low.1 ≤ level.1 ∧ level.1 ≤ high.1) ∧
        low.1 ≤ meanPrice c ∧ meanPrice c ≤ high.1) ∧
    (clusters.map meanPrice).IsChain (fun lower upper ↦
      1 / 2 / 100 * lower < upper - lower) ∧
    ∀ levels', levels.Perm levels' →
      clusterLevels levels' (1 / 2) = clusterLevels levels (1 / 2) := by
  intro levels
  exact @cluster_levels levels (1 / 2) (by decide +kernel) (by decide +kernel)

end Clusters

end InvestmentAssistant
