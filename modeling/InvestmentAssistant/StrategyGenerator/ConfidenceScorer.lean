import InvestmentAssistant.Core.Mirror
import InvestmentAssistant.Foundation.Decimal

/-!
# The confidence scorer

`calculateConfidence` rates a direction from 0 to 100 by four weighted factors: the share of
technical signals that agree, the confirmation by patterns, the fundamental alignment and the trend
strength read off the ADX indicator. Each factor is written once for `LONG` and once for `SHORT` in
the source; `calculateConfidence_mirror` says that the two are one function up to the mirror image.
-/

namespace InvestmentAssistant

open Decimal

namespace ConfidenceScorer

/-- `_BULLISH_SIGNALS` or `_BEARISH_SIGNALS`, by direction. -/
def alignedSignals : Direction → List SignalType
  | .long => [.buy, .strongBuy]
  | .short => [.sell, .strongSell]

/-- `_FLOAT_ZERO_EPSILON`. -/
def floatZeroEpsilon : ℚ := 1 / 10 ^ 9

/-- `_ta_agreement`: the share of technical signals agreeing with the direction. -/
def taAgreement (direction : Direction) (indicators : List IndicatorValue)
    (signalSummary : Option SignalSummary) : ℚ :=
  match signalSummary with
  | some s =>
    let total := s.overallBuyCount + s.overallSellCount + s.overallNeutralCount
    if total = 0 then 0
    else
      match direction with
      | .long => (s.overallBuyCount : ℚ) / total
      | .short => (s.overallSellCount : ℚ) / total
  | none =>
    if indicators = [] then 0
    else
      let agreeing := indicators.countP fun ind ↦ decide (ind.signal ∈ alignedSignals direction)
      (agreeing : ℚ) / indicators.length

/-- `_pattern_strength` of the confidence scorer. -/
def patternStrength (pattern : PatternDetection) : ℚ :=
  if 0 < pattern.relevanceScore then pattern.relevanceScore else pattern.confidence

/-- The signed contribution of one pattern: positive when it confirms the direction. -/
def patternWeight (direction : Direction) (p : PatternDetection) : ℚ :=
  (if p.bullish = decide (direction = .long) then 1 else -1) *
    (patternStrength p * reliabilityMultiplier p.reliability)

/-- `_pattern_confirmation`. -/
def patternConfirmation (direction : Direction) (patterns : List PatternDetection) : ℚ :=
  if patterns = [] then 0
  else
    let signedSum := (patterns.map (patternWeight direction)).sum
    let totalMaxWeight := (patterns.map fun p ↦ reliabilityMultiplier p.reliability).sum
    if totalMaxWeight < floatZeroEpsilon then 0
    else max 0 (min 1 (signedSum / totalMaxWeight))

/-- `_fundamental_alignment`. -/
def fundamentalAlignment (direction : Direction) (fundamental : Option FundamentalData) : ℚ :=
  match fundamental with
  | none => 0.5
  | some f =>
    match direction with
    | .long => max 0 (min 1 ((f.score + 100) / 200))
    | .short => max 0 (min 1 ((-f.score + 100) / 200))

/-- `ind.name.startswith("ADX")`. -/
def isAdx (ind : IndicatorValue) : Bool :=
  "ADX".toList.isPrefixOf ind.name.toList

/-- `_adx_strength`: the first ADX indicator that has a value decides. -/
def adxStrength : List IndicatorValue → ℚ
  | [] => 0.5
  | ind :: indicators =>
    match isAdx ind, ind.value with
    | true, some v => min 1 (v / 50)
    | _, _ => adxStrength indicators

end ConfidenceScorer

open ConfidenceScorer

/-- `calculate_confidence`. -/
def calculateConfidence (direction : Direction) (indicators : List IndicatorValue)
    (signalSummary : Option SignalSummary) (patterns : List PatternDetection)
    (fundamental : Option FundamentalData) : ℚ :=
  let scores : List (ℚ × ℚ) :=
    [(taAgreement direction indicators signalSummary, 0.40),
      (patternConfirmation direction patterns, 0.25),
      (fundamentalAlignment direction fundamental, 0.15),
      (adxStrength indicators, 0.20)]
  let weightedSum := (scores.map fun s ↦ s.1 * s.2).sum
  let totalWeight := (scores.map fun s ↦ s.2).sum
  if |totalWeight| < ConfidenceScorer.floatZeroEpsilon then 0
  else roundTo 1 (min 100 (max 0 (weightedSum / totalWeight * 100)))

/-! ### Mirror symmetry -/

namespace ConfidenceScorer

theorem mem_alignedSignals_mirror (direction : Direction) (s : SignalType) :
    s.mirror ∈ alignedSignals direction.opposite ↔ s ∈ alignedSignals direction := by
  cases direction <;> cases s <;> decide

theorem taAgreement_mirror (direction : Direction) (indicators : List IndicatorValue)
    (signalSummary : Option SignalSummary) :
    taAgreement direction.opposite (indicators.map .mirror) (signalSummary.map .mirror) =
      taAgreement direction indicators signalSummary := by
  rcases signalSummary with - | s
  · simp only [taAgreement, Option.map_none, List.map_eq_nil_iff, List.length_map, List.countP_map]
    have haligned : (fun ind : IndicatorValue ↦
          decide (ind.signal ∈ alignedSignals direction.opposite)) ∘ IndicatorValue.mirror =
        fun ind ↦ decide (ind.signal ∈ alignedSignals direction) :=
      funext fun ind ↦ decide_eq_decide.2 (mem_alignedSignals_mirror direction ind.signal)
    rw [haligned]
  · have htotal : s.mirror.overallBuyCount + s.mirror.overallSellCount +
        s.mirror.overallNeutralCount =
        s.overallBuyCount + s.overallSellCount + s.overallNeutralCount := by
      simp only [SignalSummary.mirror]
      omega
    simp only [taAgreement, Option.map_some, htotal]
    cases direction <;> rfl

theorem patternWeight_mirror (direction : Direction) (p : PatternDetection) :
    patternWeight direction.opposite p.mirror = patternWeight direction p := by
  have hside : (p.mirror.bullish = decide (direction.opposite = .long)) ↔
      (p.bullish = decide (direction = .long)) := by
    rw [PatternDetection.mirror_bullish]
    cases direction <;> cases p.bullish <;> decide
  simp only [patternWeight, hside]
  rfl

theorem patternConfirmation_mirror (direction : Direction) (patterns : List PatternDetection) :
    patternConfirmation direction.opposite (patterns.map .mirror) =
      patternConfirmation direction patterns := by
  have hsum : (patterns.map PatternDetection.mirror).map (patternWeight direction.opposite) =
      patterns.map (patternWeight direction) := by
    rw [List.map_map]
    exact List.map_congr_left fun p _ ↦ patternWeight_mirror direction p
  have hmax : (patterns.map PatternDetection.mirror).map
        (fun p ↦ reliabilityMultiplier p.reliability) =
      patterns.map fun p ↦ reliabilityMultiplier p.reliability := by
    rw [List.map_map]
    rfl
  simp only [patternConfirmation, List.map_eq_nil_iff, hsum, hmax]

theorem fundamentalAlignment_mirror (direction : Direction)
    (fundamental : Option FundamentalData) :
    fundamentalAlignment direction.opposite (fundamental.map .mirror) =
      fundamentalAlignment direction fundamental := by
  rcases fundamental with - | f
  · rfl
  · cases direction
    · show max 0 (min 1 ((- -f.score + 100) / 200)) = _
      rw [neg_neg]
      rfl
    · rfl

/-- ADX carries no side. -/
theorem adxStrength_mirror (indicators : List IndicatorValue) :
    adxStrength (indicators.map .mirror) = adxStrength indicators := by
  induction indicators with
  | nil => rfl
  | cons ind indicators ih =>
    have hadx : isAdx ind.mirror = isAdx ind := rfl
    rw [List.map_cons, adxStrength, adxStrength, hadx, IndicatorValue.mirror_value, ih]

end ConfidenceScorer

/-- **The confidence in a direction** is the confidence in the opposite one on the mirror image. -/
theorem calculateConfidence_mirror (direction : Direction) (indicators : List IndicatorValue)
    (signalSummary : Option SignalSummary) (patterns : List PatternDetection)
    (fundamental : Option FundamentalData) :
    calculateConfidence direction.opposite (indicators.map .mirror) (signalSummary.map .mirror)
        (patterns.map .mirror) (fundamental.map .mirror) =
      calculateConfidence direction indicators signalSummary patterns fundamental := by
  simp only [calculateConfidence, taAgreement_mirror, patternConfirmation_mirror,
    fundamentalAlignment_mirror, adxStrength_mirror]

end InvestmentAssistant
