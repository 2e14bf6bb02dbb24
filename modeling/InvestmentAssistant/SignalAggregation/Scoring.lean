import InvestmentAssistant.SignalAggregation.Aggregator

/-!
# Weighted scoring and the trade direction

`calculateWeightedScore` averages the normalised signals by a table of weights and clamps the result
to `-1 … 1`; `determineDirection` compares it with two thresholds. The table is arbitrary: a source
it does not name weighs nothing, an empty table stands for the default one, and weights that cancel
give the score `0`.
-/

namespace InvestmentAssistant

/-- A table of weights by source. -/
abbrev Weights := List (String × ℚ)

/-- `DEFAULT_WEIGHTS`. -/
def defaultWeights : Weights :=
  [("technical_analysis", 0.5), ("patterns", 0.3), ("fundamental", 0.2)]

/-- `BULLISH_THRESHOLD`. -/
def bullishThreshold : ℚ := 0.15

/-- `BEARISH_THRESHOLD`. -/
def bearishThreshold : ℚ := -0.15

/-- `_FLOAT_ZERO_EPSILON`: a total weight below this counts as zero. -/
def floatZeroEpsilon : ℚ := 1 / 10 ^ 9

/-- `weights or DEFAULT_WEIGHTS`: a missing or an empty table gives way to the default. -/
def weightsOrDefault : Option Weights → Weights
  | none => defaultWeights
  | some [] => defaultWeights
  | some w => w

/-- `w.get(source, 0.0)`. -/
def weightOf (w : Weights) (source : String) : ℚ :=
  (w.lookup source).getD 0

/-- The weighted average of `signals`, clamped to `-1 … 1`. -/
def weightedAverage (w : Weights) (signals : List (String × ℚ)) : ℚ :=
  let weightedSum := (signals.map fun s ↦ s.2 * weightOf w s.1).sum
  let totalWeight := (signals.map fun s ↦ weightOf w s.1).sum
  if |totalWeight| < floatZeroEpsilon then 0 else clampScore (weightedSum / totalWeight)

/-- `calculate_weighted_score`. -/
def calculateWeightedScore (aggregator : SignalAggregator) (weights : Option Weights) : ℚ :=
  weightedAverage (weightsOrDefault weights) aggregator.getAllSignals

/-- `determine_direction`; a missing threshold is the default one. -/
def determineDirection (score : ℚ) (bullish bearish : Option ℚ) : Option Direction :=
  if bullish.getD bullishThreshold ≤ score then some .long
  else if score ≤ bearish.getD bearishThreshold then some .short
  else none

/-! ### Mirror symmetry -/

/-- The weighted average is odd in its signals, whatever the weights. -/
theorem weightedAverage_neg (w : Weights) (signals : List (String × ℚ)) :
    weightedAverage w (signals.map fun s ↦ (s.1, -s.2)) = -weightedAverage w signals := by
  have hsum : ((signals.map fun s ↦ (s.1, -s.2)).map fun s ↦ s.2 * weightOf w s.1).sum =
      -(signals.map fun s ↦ s.2 * weightOf w s.1).sum := by
    rw [List.sum_neg, List.map_map, List.map_map]
    exact congrArg List.sum (List.map_congr_left fun s _ ↦ neg_mul s.2 (weightOf w s.1))
  have htotal : (signals.map fun s ↦ (s.1, -s.2)).map (fun s ↦ weightOf w s.1) =
      signals.map fun s ↦ weightOf w s.1 := by
    rw [List.map_map]
    rfl
  simp only [weightedAverage, hsum, htotal, neg_div, clampScore_neg]
  split
  · exact neg_zero.symm
  · rfl

/-- **The weighted score of the mirror image** is the negated score. -/
theorem calculateWeightedScore_mirror (a : SignalAggregator) (weights : Option Weights) :
    calculateWeightedScore a.mirror weights = -calculateWeightedScore a weights := by
  rw [calculateWeightedScore, SignalAggregator.getAllSignals_mirror, weightedAverage_neg]
  rfl

/-- **The direction of the negated score** is the opposite one, for symmetric thresholds. -/
theorem determineDirection_neg {t : ℚ} (ht : 0 < t) (score : ℚ) :
    determineDirection (-score) (some t) (some (-t)) =
      (determineDirection score (some t) (some (-t))).map .opposite := by
  simp only [determineDirection, Option.getD_some]
  -- a score reaches at most one of the two thresholds
  rcases le_or_gt t score with hlong | hlong
  · rw [if_neg (by linarith), if_pos (by linarith), if_pos hlong]
    rfl
  rcases le_or_gt score (-t) with hshort | hshort
  · rw [if_pos (by linarith), if_neg (by linarith), if_pos hshort]
    rfl
  · rw [if_neg (by linarith), if_neg (by linarith), if_neg (by linarith), if_neg (by linarith)]
    rfl

end InvestmentAssistant
