import InvestmentAssistant.Core.Mirror
import InvestmentAssistant.Foundation.Clamp

/-!
# The signal aggregator

`SignalAggregator` brings the three sources — technical analysis, patterns, fundamentals — onto the
scale `-1 … 1`. A technical signal comes from the overall summary when there is one and from the
average of the individual signals otherwise; patterns are weighed by strength and reliability and
normalised by the greatest possible weight.

Each normalisation is odd: it changes its sign when the market is mirrored
(`getAllSignals_mirror`).
-/

namespace InvestmentAssistant

/-- `SIGNAL_SCORE`. -/
def signalScore : SignalType → ℚ
  | .strongSell => -1
  | .sell => -0.5
  | .neutral => 0
  | .buy => 0.5
  | .strongBuy => 1

/-- `_pattern_strength`: the relevance score once it has been computed, the confidence before. -/
def patternStrength (pattern : PatternDetection) : ℚ :=
  if 0 < pattern.relevanceScore then pattern.relevanceScore else pattern.confidence

/-- Restrict a score to `-1 … 1`: `max(-1.0, min(1.0, x))`. -/
def clampScore (x : ℚ) : ℚ :=
  max (-1) (min 1 x)

theorem clampScore_neg (x : ℚ) : clampScore (-x) = -clampScore x :=
  Clamp.clamp_neg_self zero_le_one x

theorem abs_clampScore_le (x : ℚ) : |clampScore x| ≤ 1 :=
  Clamp.abs_clamp_le zero_le_one x

theorem clampScore_eq_self {x : ℚ} (h : |x| ≤ 1) : clampScore x = x :=
  Clamp.clamp_eq_self (abs_le.1 h).1 (abs_le.1 h).2

/-- The inputs of the aggregation. A source that is absent is an empty list or `none`. -/
structure SignalAggregator where
  indicators : List IndicatorValue := []
  movingAverages : List MovingAverage := []
  signalSummary : Option SignalSummary := none
  patterns : List PatternDetection := []
  fundamental : Option FundamentalData := none

namespace SignalAggregator

/-- The scores of the individual indicator and moving-average signals. -/
def taScores (a : SignalAggregator) : List ℚ :=
  a.indicators.map (fun ind ↦ signalScore ind.signal) ++
    a.movingAverages.flatMap fun ma ↦ [signalScore ma.smaSignal, signalScore ma.emaSignal]

/-- `normalize_ta_signal`. -/
def normalizeTaSignal (a : SignalAggregator) : ℚ :=
  match a.signalSummary with
  | some summary => signalScore summary.overallSummary
  | none => if a.taScores = [] then 0 else a.taScores.sum / a.taScores.length

/-- The signed contribution of one pattern. -/
def patternWeight (p : PatternDetection) : ℚ :=
  (if p.bullish then 1 else -1) * (patternStrength p * reliabilityMultiplier p.reliability)

/-- `normalize_pattern_signal`. -/
def normalizePatternSignal (a : SignalAggregator) : ℚ :=
  if a.patterns = [] then 0
  else
    let weightedSum := (a.patterns.map patternWeight).sum
    let totalMaxWeight := (a.patterns.map fun p ↦ reliabilityMultiplier p.reliability).sum
    clampScore (weightedSum / totalMaxWeight)

/-- `normalize_fundamental_signal`. -/
def normalizeFundamentalSignal (a : SignalAggregator) : ℚ :=
  match a.fundamental with
  | none => 0
  | some f => f.score / 100

/-- `get_all_signals`. -/
def getAllSignals (a : SignalAggregator) : List (String × ℚ) :=
  [("technical_analysis", a.normalizeTaSignal),
    ("patterns", a.normalizePatternSignal),
    ("fundamental", a.normalizeFundamentalSignal)]

/-! ### Mirror symmetry -/

/-- The aggregator of the mirrored market. -/
def mirror (a : SignalAggregator) : SignalAggregator where
  indicators := a.indicators.map .mirror
  movingAverages := a.movingAverages.map .mirror
  signalSummary := a.signalSummary.map .mirror
  patterns := a.patterns.map .mirror
  fundamental := a.fundamental.map .mirror

end SignalAggregator

theorem signalScore_mirror (s : SignalType) : signalScore s.mirror = -signalScore s := by
  cases s <;> norm_num [signalScore, SignalType.mirror]

@[simp]
theorem patternStrength_mirror (p : PatternDetection) :
    patternStrength p.mirror = patternStrength p :=
  rfl

namespace SignalAggregator

variable (a : SignalAggregator)

theorem patternWeight_mirror (p : PatternDetection) :
    patternWeight p.mirror = -patternWeight p := by
  rw [patternWeight, patternWeight, patternStrength_mirror, PatternDetection.mirror_reliability,
    PatternDetection.mirror_bullish]
  cases p.bullish <;> simp

theorem taScores_mirror : a.mirror.taScores = a.taScores.map fun x ↦ -x := by
  simp only [taScores, mirror, List.map_append, List.map_map, List.flatMap_map, List.map_flatMap]
  congr 1
  · exact List.map_congr_left fun ind _ ↦ signalScore_mirror ind.signal
  · refine congrArg₂ List.flatMap (funext fun ma ↦ ?_) rfl
    simp [signalScore_mirror]

theorem normalizeTaSignal_mirror : a.mirror.normalizeTaSignal = -a.normalizeTaSignal := by
  unfold normalizeTaSignal
  rcases hs : a.signalSummary with - | summary
  · have hm : a.mirror.signalSummary = none := by rw [mirror, hs]; rfl
    simp only [hm, taScores_mirror, List.map_eq_nil_iff, List.length_map, ← List.sum_neg]
    split
    · exact neg_zero.symm
    · exact neg_div _ _
  · have hm : a.mirror.signalSummary = some summary.mirror := by rw [mirror, hs]; rfl
    simp only [hm]
    exact signalScore_mirror summary.overallSummary

theorem normalizePatternSignal_mirror :
    a.mirror.normalizePatternSignal = -a.normalizePatternSignal := by
  have hsum : (a.mirror.patterns.map patternWeight).sum = -(a.patterns.map patternWeight).sum := by
    rw [mirror, List.map_map, List.sum_neg, List.map_map]
    exact congrArg List.sum (List.map_congr_left fun p _ ↦ patternWeight_mirror p)
  have hmax : (a.mirror.patterns.map fun p ↦ reliabilityMultiplier p.reliability) =
      a.patterns.map fun p ↦ reliabilityMultiplier p.reliability := by
    rw [mirror, List.map_map]
    rfl
  have hnil : a.mirror.patterns = [] ↔ a.patterns = [] := List.map_eq_nil_iff
  simp only [normalizePatternSignal, hsum, hmax, hnil, neg_div, clampScore_neg]
  split
  · exact neg_zero.symm
  · rfl

theorem normalizeFundamentalSignal_mirror :
    a.mirror.normalizeFundamentalSignal = -a.normalizeFundamentalSignal := by
  unfold normalizeFundamentalSignal
  rcases hf : a.fundamental with - | f
  · have hm : a.mirror.fundamental = none := by rw [mirror, hf]; rfl
    simp only [hm, neg_zero]
  · have hm : a.mirror.fundamental = some f.mirror := by rw [mirror, hf]; rfl
    simp only [hm, FundamentalData.mirror_score, neg_div]

/-- **Every normalised signal changes its sign** in the mirror image. -/
theorem getAllSignals_mirror :
    a.mirror.getAllSignals = a.getAllSignals.map fun s ↦ (s.1, -s.2) := by
  simp only [getAllSignals, normalizeTaSignal_mirror, normalizePatternSignal_mirror,
    normalizeFundamentalSignal_mirror, List.map_cons, List.map_nil]

end SignalAggregator

end InvestmentAssistant
