import Mathlib.Data.Prod.Lex
import InvestmentAssistant.Foundation.StableSort
import InvestmentAssistant.SignalAggregation.ThresholdCalibration

/-!
# The rates of a candidate, and the recommended one

The rates are ratios of the counters of an evaluation. What the counters count adds up
(`metricsOf_balanced`), so the rates complement each other; the order of the samples is lost in
them, and a higher bullish threshold judges fewer samples long.

`recommendCandidate` sorts the candidates that resolved a signal by their rates and takes the first.
The sort is stable, so that is the earliest of the best (`recommendCandidate_eq_some_iff`).
-/

namespace InvestmentAssistant

namespace CandidateMetrics

variable (m : CandidateMetrics)

/-- `resolved`: the signals whose outcome is known. -/
def resolved : ℕ :=
  m.longTpBeforeSl + m.longSlBeforeTp + m.shortTpBeforeSl + m.shortSlBeforeTp

/-- `false_signal_rate`. -/
def falseSignalRate : ℚ :=
  if m.resolved = 0 then 0
  else ((m.longSlBeforeTp + m.shortSlBeforeTp : ℕ) : ℚ) / (m.resolved : ℚ)

/-- `precision`. -/
def precision : ℚ :=
  if m.resolved = 0 then 0
  else ((m.longTpBeforeSl + m.shortTpBeforeSl : ℕ) : ℚ) / (m.resolved : ℚ)

/-- `coverage`. -/
def coverage : ℚ :=
  if m.totalSignals = 0 then 0 else (m.resolved : ℚ) / (m.totalSignals : ℚ)

/-- `neutral_rate`. -/
def neutralRate : ℚ :=
  if m.totalSignals = 0 then 0
  else ((m.neutralSignals + m.unknownSignals : ℕ) : ℚ) / (m.totalSignals : ℚ)

/-- The key the candidates are sorted by; tuples are compared lexicographically. -/
def rankingKey : ℚ ×ₗ ℚ :=
  toLex (m.falseSignalRate, -m.coverage)

/-- A lower rate of false signals, or the same rate at a greater coverage. -/
def RanksBefore (n : CandidateMetrics) : Prop :=
  m.falseSignalRate < n.falseSignalRate ∨
    m.falseSignalRate = n.falseSignalRate ∧ n.coverage < m.coverage

end CandidateMetrics

/-- `recommend_candidate`. -/
def recommendCandidate (metricsList : List CandidateMetrics) : Option CandidateMetrics :=
  let viable := metricsList.filter fun m ↦ 0 < m.coverage
  (viable.insertionSort fun m n ↦ m.rankingKey ≤ n.rankingKey).head?

/-! ### The counters add up -/

/-- The conservation laws of the counters. -/
structure CandidateMetrics.Balanced (m : CandidateMetrics) (total : ℕ) : Prop where
  directions : m.longSignals + m.shortSignals + m.neutralSignals = m.totalSignals
  total : m.totalSignals = total
  outcomes : m.resolved + m.unknownSignals + m.neutralSignals = m.totalSignals

/-- Every judgement has a direction or none. -/
theorem length_eq_count_directions (js : List Judgement) :
    (js.map Prod.fst).count (some .long) + (js.map Prod.fst).count (some .short) +
      (js.map Prod.fst).count none = js.length := by
  induction js with
  | nil => rfl
  | cons j js ih =>
    obtain ⟨- | - | -, outcome⟩ := j <;> simp only [List.map_cons, List.count_cons,
      List.length_cons] <;> simp <;> omega

/-- **The counters of an evaluation add up**, by direction and by outcome. -/
theorem metricsOf_balanced (bullish bearish : ℚ) (js : List Judgement) :
    (metricsOf bullish bearish js).Balanced js.length := by
  have hdirections := length_eq_count_directions js
  have hlong := count_map_fst js .long
  have hshort := count_map_fst js .short
  rw [metricsOf_eq]
  refine ⟨hdirections, rfl, ?_⟩
  simp only [CandidateMetrics.resolved]
  omega

namespace CandidateMetrics

variable {m : CandidateMetrics} {total : ℕ}

theorem Balanced.coverage_add_neutralRate (h : m.Balanced total) (htotal : 0 < m.totalSignals) :
    m.coverage + m.neutralRate = 1 := by
  have hne : (m.totalSignals : ℚ) ≠ 0 := by exact_mod_cast htotal.ne'
  have hsum : m.resolved + (m.neutralSignals + m.unknownSignals) = m.totalSignals := by
    have houtcomes := h.outcomes
    omega
  rw [coverage, neutralRate, if_neg htotal.ne', if_neg htotal.ne', ← add_div, ← Nat.cast_add, hsum,
    div_self hne]

theorem falseSignalRate_add_precision (hresolved : 0 < m.resolved) :
    m.falseSignalRate + m.precision = 1 := by
  have hne : (m.resolved : ℚ) ≠ 0 := by exact_mod_cast hresolved.ne'
  have hsum : m.longSlBeforeTp + m.shortSlBeforeTp + (m.longTpBeforeSl + m.shortTpBeforeSl) =
      m.resolved := by
    rw [resolved]
    omega
  rw [falseSignalRate, precision, if_neg hresolved.ne', if_neg hresolved.ne', ← add_div,
    ← Nat.cast_add, hsum, div_self hne]

end CandidateMetrics

/-! ### Samples in another order, and another threshold -/

/-- **The order of the judgements does not matter.** -/
theorem metricsOf_perm (bullish bearish : ℚ) {js js' : List Judgement} (h : js.Perm js') :
    metricsOf bullish bearish js = metricsOf bullish bearish js' := by
  have hfst := h.map Prod.fst
  rw [metricsOf_eq, metricsOf_eq]
  simp only [h.length_eq, hfst.count_eq, h.count_eq]

/-- A sample is judged long from the bullish threshold on. -/
theorem classifyDirection_eq_long_iff {score bullish bearish : ℚ} :
    classifyDirection score bullish bearish = some .long ↔ bullish ≤ score := by
  rw [classifyDirection]
  split
  · next h => exact iff_of_true rfl h
  · next h =>
    refine iff_of_false ?_ h
    split <;> exact fun h ↦ nomatch h

/-- **A higher bullish threshold judges fewer samples long**, whatever the bearish ones are. -/
theorem longSignals_anti (samples : List CalibrationSample) {candidate raised : ℚ × ℚ}
    (h : candidate.1 ≤ raised.1) :
    (metricsOf raised.1 raised.2
        (samples.map (CalibrationSample.judgement raised.1 raised.2))).longSignals ≤
      (metricsOf candidate.1 candidate.2
        (samples.map (CalibrationSample.judgement candidate.1 candidate.2))).longSignals := by
  have hlong (c : ℚ × ℚ) :
      (metricsOf c.1 c.2 (samples.map (CalibrationSample.judgement c.1 c.2))).longSignals =
        samples.countP fun sample ↦ c.1 ≤ sample.score := by
    rw [metricsOf_eq, List.map_map]
    show List.count _ _ = _
    rw [List.count, List.countP_map]
    refine List.countP_congr fun sample _ ↦ ?_
    rw [Function.comp_apply, beq_iff_eq, decide_eq_true_iff]
    exact classifyDirection_eq_long_iff
  rw [hlong, hlong]
  refine List.countP_mono_left fun sample _ hsample ↦ ?_
  exact decide_eq_true (h.trans (of_decide_eq_true hsample))

/-! ### The recommended candidate -/

section Recommendation

variable {metricsList : List CandidateMetrics} {m n : CandidateMetrics}

theorem rankingKey_lt_iff : m.rankingKey < n.rankingKey ↔ m.RanksBefore n := by
  rw [CandidateMetrics.rankingKey, CandidateMetrics.rankingKey, Prod.Lex.toLex_lt_toLex,
    neg_lt_neg_iff]
  rfl

theorem rankingKey_le_iff : m.rankingKey ≤ n.rankingKey ↔ ¬n.RanksBefore m := by
  rw [← rankingKey_lt_iff, not_lt]

/-- The candidate has resolved a signal, every such candidate before it ranks behind it, and none
after it ranks before it. -/
def IsRecommended (metricsList : List CandidateMetrics) (m : CandidateMetrics) : Prop :=
  ∃ before after, metricsList = before ++ m :: after ∧ 0 < m.coverage ∧
    (∀ n ∈ before, 0 < n.coverage → m.RanksBefore n) ∧
    ∀ n ∈ after, 0 < n.coverage → ¬n.RanksBefore m

theorem recommendCandidate_eq_none_iff :
    recommendCandidate metricsList = none ↔ ∀ m ∈ metricsList, ¬0 < m.coverage := by
  rw [recommendCandidate, List.head?_eq_none_iff, ← List.length_eq_zero_iff,
    List.length_insertionSort, List.length_eq_zero_iff, List.filter_eq_nil_iff]
  simp only [decide_eq_true_iff]

/-- **The recommended candidate is the earliest of the best.** -/
theorem recommendCandidate_eq_some_iff :
    recommendCandidate metricsList = some m ↔ IsRecommended metricsList m := by
  rw [recommendCandidate, StableSort.head?_insertionSort_eq_some_iff]
  constructor
  · rintro ⟨before, after, hsplit, hbefore, hafter⟩
    -- the viable candidates split where all of them do
    obtain ⟨front, back, rfl, rfl, hback⟩ := List.filter_eq_append_iff.1 hsplit
    obtain ⟨skipped, after', rfl, hskipped, hm, rfl⟩ := List.filter_eq_cons_iff.1 hback
    refine ⟨front ++ skipped, after', by rw [List.append_assoc], of_decide_eq_true hm, ?_, ?_⟩
    · intro n hn hviable
      rcases List.mem_append.1 hn with hn | hn
      · exact rankingKey_lt_iff.1 (hbefore n (List.mem_filter.2 ⟨hn, decide_eq_true hviable⟩))
      · exact absurd (decide_eq_true hviable) (hskipped n hn)
    · intro n hn hviable
      exact rankingKey_le_iff.1 (hafter n (List.mem_filter.2 ⟨hn, decide_eq_true hviable⟩))
  · rintro ⟨before, after, rfl, hm, hbefore, hafter⟩
    refine ⟨before.filter fun m ↦ 0 < m.coverage, after.filter fun m ↦ 0 < m.coverage, ?_, ?_, ?_⟩
    · have hkept : (m :: after).filter (fun m ↦ 0 < m.coverage) =
          m :: after.filter fun m ↦ 0 < m.coverage :=
        List.filter_cons_of_pos (decide_eq_true hm)
      rw [List.filter_append, hkept]
    · intro n hn
      obtain ⟨hn, hviable⟩ := List.mem_filter.1 hn
      exact rankingKey_lt_iff.2 (hbefore n hn (of_decide_eq_true hviable))
    · intro n hn
      obtain ⟨hn, hviable⟩ := List.mem_filter.1 hn
      exact rankingKey_le_iff.2 (hafter n hn (of_decide_eq_true hviable))

end Recommendation

/-- **The accounting of an evaluation.** Every metric adds up and has complementary rates; the order
of the samples is immaterial; raising bullish thresholds judges fewer samples long; and the
recommendation is the earliest of the best candidates, missing exactly when none resolved a
signal. -/
theorem candidate_accounting (samples : List CalibrationSample) (candidates : List (ℚ × ℚ))
    (metricsList : List CandidateMetrics) :
    (∀ m ∈ evaluateCandidates samples candidates, m.Balanced samples.length ∧
      (0 < m.totalSignals → m.coverage + m.neutralRate = 1) ∧
      (0 < m.resolved → m.falseSignalRate + m.precision = 1)) ∧
    (∀ samples', samples.Perm samples' →
      evaluateCandidates samples' candidates = evaluateCandidates samples candidates) ∧
    (∀ raised, List.Forall₂ (fun c c' ↦ c.1 ≤ c'.1) candidates raised →
      List.Forall₂ (fun m m' ↦ m'.longSignals ≤ m.longSignals)
        (evaluateCandidates samples candidates) (evaluateCandidates samples raised)) ∧
    (recommendCandidate metricsList = none ↔ ∀ m ∈ metricsList, ¬0 < m.coverage) ∧
    ∀ m, recommendCandidate metricsList = some m ↔ IsRecommended metricsList m := by
  simp only [evaluateCandidates_eq]
  refine ⟨fun m hm ↦ ?_, fun samples' hperm ↦ ?_, fun raised hraised ↦ ?_,
    recommendCandidate_eq_none_iff, fun m ↦ recommendCandidate_eq_some_iff⟩
  · obtain ⟨c, -, rfl⟩ := List.mem_map.1 hm
    have hbalanced := metricsOf_balanced c.1 c.2 (samples.map (CalibrationSample.judgement c.1 c.2))
    rw [List.length_map] at hbalanced
    exact ⟨hbalanced, hbalanced.coverage_add_neutralRate,
      CandidateMetrics.falseSignalRate_add_precision⟩
  · exact List.map_congr_left fun c _ ↦ (metricsOf_perm c.1 c.2 (hperm.map _)).symm
  · rw [List.forall₂_map_left_iff, List.forall₂_map_right_iff]
    exact hraised.imp fun c c' h ↦ longSignals_anti samples h

end InvestmentAssistant
