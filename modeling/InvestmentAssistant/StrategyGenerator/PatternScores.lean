import InvestmentAssistant.SignalAggregation.Aggregator
import InvestmentAssistant.StrategyGenerator.ConfidenceScorer

/-!
# The two pattern scores

The signal aggregator and the confidence scorer weigh the same patterns with the same formula,
written twice. The aggregator keeps the sign of the balance of bullish and bearish patterns, the
scorer the part of it that speaks for a direction. Both divide by the weight the patterns would have
at full strength, so the balance lies within `-1 … 1` before anything is cut off
(`abs_patternBalance_le_one`), and the scores are two readings of one number.
-/

namespace InvestmentAssistant

/-! ### The balance of the patterns -/

/-- The sum of the signed contributions, bullish patterns positive. -/
def signedWeight (patterns : List PatternDetection) : ℚ :=
  (patterns.map SignalAggregator.patternWeight).sum

/-- The weight of the patterns at full strength. -/
def fullWeight (patterns : List PatternDetection) : ℚ :=
  (patterns.map fun p ↦ reliabilityMultiplier p.reliability).sum

/-- The signed contributions as a share of the full weight. -/
def patternBalance (patterns : List PatternDetection) : ℚ :=
  signedWeight patterns / fullWeight patterns

theorem one_le_reliabilityMultiplier (n : ℕ) : 1 ≤ reliabilityMultiplier n := by
  unfold reliabilityMultiplier
  split <;> norm_num

/-- The strength of a pattern is within `[0, 1]`, whichever of its two scores it is. -/
theorem patternStrength_inUnit (p : PatternDetection) : InUnit (patternStrength p) := by
  rw [patternStrength]
  split
  · exact p.relevanceScore_inUnit
  · exact p.confidence_inUnit

/-- No pattern weighs more than it does at full strength. -/
theorem abs_patternWeight_le (p : PatternDetection) :
    |SignalAggregator.patternWeight p| ≤ reliabilityMultiplier p.reliability := by
  obtain ⟨hnonneg, hle⟩ := patternStrength_inUnit p
  have hmul : 0 ≤ reliabilityMultiplier p.reliability :=
    zero_le_one.trans (one_le_reliabilityMultiplier _)
  have hside : |(if p.bullish then 1 else -1 : ℚ)| = 1 := by
    cases p.bullish <;> norm_num
  rw [SignalAggregator.patternWeight, abs_mul, hside, one_mul, abs_mul, abs_of_nonneg hnonneg,
    abs_of_nonneg hmul]
  exact mul_le_of_le_one_left hmul hle

theorem abs_signedWeight_le (patterns : List PatternDetection) :
    |signedWeight patterns| ≤ fullWeight patterns := by
  induction patterns with
  | nil => exact abs_zero.le
  | cons p patterns ih =>
    rw [signedWeight, fullWeight, List.map_cons, List.map_cons, List.sum_cons, List.sum_cons]
    exact (abs_add_le _ _).trans (add_le_add (abs_patternWeight_le p) ih)

theorem fullWeight_nonneg (patterns : List PatternDetection) : 0 ≤ fullWeight patterns :=
  (abs_nonneg _).trans (abs_signedWeight_le patterns)

/-- Where there is a pattern, the full weight is at least that of one star. -/
theorem one_le_fullWeight {patterns : List PatternDetection} (h : patterns ≠ []) :
    1 ≤ fullWeight patterns := by
  rcases patterns with - | ⟨p, patterns⟩
  · exact absurd rfl h
  · rw [fullWeight, List.map_cons, List.sum_cons]
    exact le_add_of_le_of_nonneg (one_le_reliabilityMultiplier _) (fullWeight_nonneg patterns)

/-- **The balance is within `-1 … 1` by itself.** -/
theorem abs_patternBalance_le_one (patterns : List PatternDetection) :
    |patternBalance patterns| ≤ 1 := by
  rw [patternBalance, abs_div, abs_of_nonneg (fullWeight_nonneg patterns)]
  exact div_le_one_of_le₀ (abs_signedWeight_le patterns) (fullWeight_nonneg patterns)

theorem patternBalance_nil : patternBalance [] = 0 :=
  zero_div _

/-! ### Both scores read the balance -/

/-- The aggregator's score is the balance. -/
theorem normalizePatternSignal_eq (a : SignalAggregator) :
    a.normalizePatternSignal = patternBalance a.patterns := by
  rw [SignalAggregator.normalizePatternSignal]
  split
  · next h => rw [h, patternBalance_nil]
  · exact clampScore_eq_self (abs_patternBalance_le_one a.patterns)

namespace ConfidenceScorer

/-- The sign under which a direction counts the balance. -/
def side : Direction → ℚ
  | .long => 1
  | .short => -1

theorem patternStrength_eq (p : PatternDetection) :
    ConfidenceScorer.patternStrength p = InvestmentAssistant.patternStrength p := rfl

/-- A pattern counts for a direction what it counts in the aggregate, under the direction's
sign. -/
theorem patternWeight_eq (direction : Direction) (p : PatternDetection) :
    ConfidenceScorer.patternWeight direction p =
      side direction * SignalAggregator.patternWeight p := by
  rw [ConfidenceScorer.patternWeight, SignalAggregator.patternWeight, patternStrength_eq]
  cases direction <;> cases p.bullish <;> simp [side]

/-- The sum and the quotient the scorer forms before its clamp. -/
theorem sum_patternWeight (direction : Direction) (patterns : List PatternDetection) :
    (patterns.map (ConfidenceScorer.patternWeight direction)).sum =
      side direction * signedWeight patterns := by
  have hmap : patterns.map (ConfidenceScorer.patternWeight direction) =
      patterns.map fun p ↦ side direction * SignalAggregator.patternWeight p :=
    List.map_congr_left fun p _ ↦ patternWeight_eq direction p
  rw [hmap, List.sum_map_mul_left]
  rfl

theorem abs_side_mul_patternBalance_le_one (direction : Direction)
    (patterns : List PatternDetection) : |side direction * patternBalance patterns| ≤ 1 := by
  have hside : |side direction| = 1 := by
    cases direction <;> norm_num [side]
  rw [abs_mul, hside, one_mul]
  exact abs_patternBalance_le_one patterns

/-- The test for a vanishing weight never fires on a pattern. -/
theorem floatZeroEpsilon_lt_fullWeight {patterns : List PatternDetection} (h : patterns ≠ []) :
    floatZeroEpsilon < fullWeight patterns := by
  have heps : floatZeroEpsilon < 1 := by norm_num [floatZeroEpsilon]
  exact heps.trans_le (one_le_fullWeight h)

/-- The scorer's confirmation is the balance under the direction's sign, as far as it is
positive. -/
theorem patternConfirmation_eq (direction : Direction) (patterns : List PatternDetection) :
    patternConfirmation direction patterns = max 0 (side direction * patternBalance patterns) := by
  by_cases h : patterns = []
  · rw [patternConfirmation, if_pos h, h, patternBalance_nil, mul_zero, max_self]
  have hquot : (patterns.map (ConfidenceScorer.patternWeight direction)).sum /
      fullWeight patterns = side direction * patternBalance patterns := by
    rw [sum_patternWeight, mul_div_assoc]
    rfl
  rw [patternConfirmation, if_neg h]
  show (if fullWeight patterns < floatZeroEpsilon then 0
    else max 0 (min 1 ((patterns.map (ConfidenceScorer.patternWeight direction)).sum /
      fullWeight patterns))) = _
  rw [if_neg (floatZeroEpsilon_lt_fullWeight h).not_gt, hquot,
    min_eq_right (abs_le.1 (abs_side_mul_patternBalance_le_one direction patterns)).2]

/-- **The two pattern scores agree**: for each direction the confidence factor is the aggregated
signal under the direction's sign, as far as it is positive. So the two never name different sides,
and neither quotient is ever cut off at `±1`. -/
theorem patternConfirmation_agrees (a : SignalAggregator) :
    (patternConfirmation .long a.patterns = max 0 a.normalizePatternSignal ∧
      patternConfirmation .short a.patterns = max 0 (-a.normalizePatternSignal)) ∧
    ((0 < patternConfirmation .long a.patterns ↔ 0 < a.normalizePatternSignal) ∧
      (0 < patternConfirmation .short a.patterns ↔ a.normalizePatternSignal < 0)) ∧
    (clampScore ((a.patterns.map SignalAggregator.patternWeight).sum /
          (a.patterns.map fun p ↦ reliabilityMultiplier p.reliability).sum) =
        (a.patterns.map SignalAggregator.patternWeight).sum /
          (a.patterns.map fun p ↦ reliabilityMultiplier p.reliability).sum) ∧
    ∀ direction : Direction,
      min 1 ((a.patterns.map (ConfidenceScorer.patternWeight direction)).sum /
          (a.patterns.map fun p ↦ reliabilityMultiplier p.reliability).sum) =
        (a.patterns.map (ConfidenceScorer.patternWeight direction)).sum /
          (a.patterns.map fun p ↦ reliabilityMultiplier p.reliability).sum := by
  have hlong : patternConfirmation .long a.patterns = max 0 a.normalizePatternSignal := by
    rw [patternConfirmation_eq, normalizePatternSignal_eq, side, one_mul]
  have hshort : patternConfirmation .short a.patterns = max 0 (-a.normalizePatternSignal) := by
    rw [patternConfirmation_eq, normalizePatternSignal_eq, side, neg_one_mul]
  refine ⟨⟨hlong, hshort⟩, ⟨?_, ?_⟩, ?_, fun direction ↦ ?_⟩
  · rw [hlong, lt_max_iff, or_iff_right (lt_irrefl 0)]
  · rw [hshort, lt_max_iff, or_iff_right (lt_irrefl 0), neg_pos]
  · exact clampScore_eq_self (abs_patternBalance_le_one a.patterns)
  · have habs := abs_side_mul_patternBalance_le_one direction a.patterns
    rw [sum_patternWeight, mul_div_assoc]
    exact min_eq_right (abs_le.1 habs).2

end ConfidenceScorer

end InvestmentAssistant
