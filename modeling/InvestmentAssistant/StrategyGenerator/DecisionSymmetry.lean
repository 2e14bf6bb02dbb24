import Mathlib.Algebra.Order.Ring.Star
import Mathlib.Data.Rat.Star
import Mathlib.Tactic
import InvestmentAssistant.SignalAggregation.Scoring
import InvestmentAssistant.StrategyGenerator.ConfidenceScorer
import InvestmentAssistant.TechnicalAnalysis.Summary

/-!
# Long/short symmetry of the decision chain

The chain from signals to a trade — summary, weighted score, direction, confidence — treats the two
sides of a market alike. The stages are proved symmetric where they are defined; here they are
composed along the two paths the source takes: with the summary of the same signals, and without
one.
-/

namespace InvestmentAssistant

/-- The aggregator built from one set of inputs, with their summary or without it. -/
def buildAggregator (withSummary : Bool) (indicators : List IndicatorValue)
    (movingAverages : List MovingAverage) (patterns : List PatternDetection)
    (fundamental : Option FundamentalData) : SignalAggregator where
  indicators := indicators
  movingAverages := movingAverages
  signalSummary := if withSummary then some (calculateSummaries indicators movingAverages) else none
  patterns := patterns
  fundamental := fundamental

/-- Building the aggregator commutes with the mirror image: the summary of the mirrored signals is
the mirrored summary. -/
theorem buildAggregator_mirror (withSummary : Bool) (indicators : List IndicatorValue)
    (movingAverages : List MovingAverage) (patterns : List PatternDetection)
    (fundamental : Option FundamentalData) :
    buildAggregator withSummary (indicators.map .mirror) (movingAverages.map .mirror)
        (patterns.map .mirror) (fundamental.map .mirror) =
      (buildAggregator withSummary indicators movingAverages patterns fundamental).mirror := by
  cases withSummary
  · rfl
  · simp only [buildAggregator, SignalAggregator.mirror, calculateSummaries_mirror, if_true,
      Option.map_some]

/-- **The decision chain has no side.** On the mirror image of its inputs the summary is mirrored,
the weighted score negated (with or without the summary, whatever the weights), the direction
opposite for every pair of symmetric thresholds, and the confidence in a short trade is the
confidence in the long trade on the original. -/
theorem decision_chain_mirror (indicators : List IndicatorValue)
    (movingAverages : List MovingAverage) (patterns : List PatternDetection)
    (fundamental : Option FundamentalData) (weights : Option Weights) (withSummary : Bool)
    {t : ℚ} (ht : 0 < t) :
    let a := buildAggregator withSummary indicators movingAverages patterns fundamental
    let a' := buildAggregator withSummary (indicators.map .mirror) (movingAverages.map .mirror)
      (patterns.map .mirror) (fundamental.map .mirror)
    calculateSummaries (indicators.map .mirror) (movingAverages.map .mirror) =
        (calculateSummaries indicators movingAverages).mirror ∧
      calculateWeightedScore a' weights = -calculateWeightedScore a weights ∧
      determineDirection (calculateWeightedScore a' weights) (some t) (some (-t)) =
        (determineDirection (calculateWeightedScore a weights) (some t) (some (-t))).map
          .opposite ∧
      calculateConfidence .long a.indicators a.signalSummary a.patterns a.fundamental =
        calculateConfidence .short a'.indicators a'.signalSummary a'.patterns a'.fundamental := by
  intro a a'
  have ha : a' = a.mirror :=
    buildAggregator_mirror withSummary indicators movingAverages patterns fundamental
  have hscore : calculateWeightedScore a' weights = -calculateWeightedScore a weights := by
    rw [ha]
    exact calculateWeightedScore_mirror a weights
  refine ⟨calculateSummaries_mirror indicators movingAverages, hscore, ?_, ?_⟩
  · rw [hscore]
    exact determineDirection_neg ht _
  · rw [ha]
    exact (calculateConfidence_mirror .long _ _ _ _).symm

/-- Three buys against one sell, one pattern and a fundamental score: the chain at the default
threshold, with the summary. -/
theorem decision_chain_mirror_three_buys :
    determineDirection
        (calculateWeightedScore
          (buildAggregator true
            ([⟨"RSI", none, .buy⟩, ⟨"MACD", none, .strongBuy⟩, ⟨"ADX", some 30, .buy⟩,
              ⟨"CCI", none, .sell⟩].map .mirror) ([].map .mirror) ([].map .mirror)
            ((some ⟨.forex, 40, by norm_num⟩ : Option FundamentalData).map .mirror)) none)
        (some 0.15) (some (-0.15)) = some .short := by
  rw [(decision_chain_mirror
    [⟨"RSI", none, .buy⟩, ⟨"MACD", none, .strongBuy⟩, ⟨"ADX", some 30, .buy⟩, ⟨"CCI", none, .sell⟩]
    [] [] (some ⟨.forex, 40, by norm_num⟩) none true
    (by norm_num : (0 : ℚ) < 0.15)).2.2.1]
  decide +kernel

end InvestmentAssistant
