import InvestmentAssistant.Orchestration.Pipeline
import InvestmentAssistant.Scripts.CalibrateSignalThresholds
import InvestmentAssistant.TechnicalAnalysis.SignalCounts

/-!
# The calibrated score and the production score

The calibration script scores a window without a signal summary, and so by the average of its
signals; the pipeline passes the summary, and so scores by its rating. Everything else is the same,
and the weighted score is strictly increasing in the technical signal, since neither its clamp nor
that of the patterns is reached. So the two scores agree exactly when the rating is the average
(`calibrated_score_eq_iff`); on five rising candles they are not (`rising_scores_apart`).
-/

namespace InvestmentAssistant

/-! ### The score of the pipeline -/

/-- The aggregator of `_run_aggregation_phase`. -/
def PipelineContext.aggregator (ctx : PipelineContext) : SignalAggregator where
  indicators := ctx.indicators
  movingAverages := ctx.movingAverages
  signalSummary := ctx.signalSummary
  patterns := ctx.patterns
  fundamental := ctx.fundamental

/-- The score of `_run_aggregation_phase`. -/
def productionScore (ctx : PipelineContext) : ℚ :=
  calculateWeightedScore ctx.aggregator none

/-- The score the aggregation phase leaves is what it calls `calculate_weighted_score` for. -/
theorem score_of_aggregationBody {Report : Type} {calls : PipelineCalls Report}
    {ctx ctx' : PipelineContext} (h : AnalysisPipeline.aggregationBody calls ctx = .ok ctx') :
    calls.calculateWeightedScore ctx.aggregator = .ok ctx'.score := by
  rw [AnalysisPipeline.aggregationBody] at h
  obtain ⟨score, hscore, h⟩ := bind_eq_ok_iff.1 h
  obtain ⟨direction, -, h⟩ := bind_eq_ok_iff.1 h
  rw [← Except.ok.inj h]
  exact hscore

/-! ### The weighted score -/

theorem abs_signalScore_le (s : SignalType) : |signalScore s| ≤ 1 := by
  cases s <;> norm_num [signalScore]

namespace SignalAggregator

variable {a b : SignalAggregator}

theorem abs_normalizeTaSignal_le (a : SignalAggregator) : |a.normalizeTaSignal| ≤ 1 := by
  cases h : a.signalSummary with
  | none =>
    rw [normalizeTaSignal_of_no_summary h]
    exact abs_averageScore_le _
  | some summary =>
    rw [normalizeTaSignal, h]
    exact abs_signalScore_le _

theorem abs_normalizePatternSignal_le (a : SignalAggregator) : |a.normalizePatternSignal| ≤ 1 := by
  unfold normalizePatternSignal
  split
  · simp
  · exact abs_clampScore_le _

/-- Without fundamental data, the default weights leave the score below its clamp. -/
theorem calculateWeightedScore_eq (h : a.fundamental = none) :
    calculateWeightedScore a none = a.normalizeTaSignal * 0.5 + a.normalizePatternSignal * 0.3 := by
  have hfundamental : a.normalizeFundamentalSignal = 0 := by rw [normalizeFundamentalSignal, h]
  have hweights : calculateWeightedScore a none = clampScore
      (a.normalizeTaSignal * 0.5 + (a.normalizePatternSignal * 0.3 + 0)) := by
    have hta : weightOf defaultWeights "technical_analysis" = 0.5 := by decide +kernel
    have hpatterns : weightOf defaultWeights "patterns" = 0.3 := by decide +kernel
    have hfund : weightOf defaultWeights "fundamental" = 0.2 := by decide +kernel
    simp only [calculateWeightedScore, weightsOrDefault, weightedAverage, getAllSignals,
      List.map_cons,
      List.map_nil, List.sum_cons, List.sum_nil, hta, hpatterns, hfund, hfundamental]
    norm_num [floatZeroEpsilon]
  have hta := abs_le.1 a.abs_normalizeTaSignal_le
  have hpatterns := abs_le.1 a.abs_normalizePatternSignal_le
  rw [hweights, add_zero, clampScore_eq_self]
  exact abs_le.2 ⟨by linarith, by linarith⟩

/-- **Only the technical signal tells two scores apart** that have the same patterns. -/
theorem calculateWeightedScore_eq_iff (ha : a.fundamental = none) (hb : b.fundamental = none)
    (hpatterns : a.patterns = b.patterns) :
    calculateWeightedScore a none = calculateWeightedScore b none ↔
      a.normalizeTaSignal = b.normalizeTaSignal := by
  have hsignal : a.normalizePatternSignal = b.normalizePatternSignal := by
    rw [normalizePatternSignal, normalizePatternSignal, hpatterns]
  rw [calculateWeightedScore_eq ha, calculateWeightedScore_eq hb, hsignal, add_left_inj,
    mul_left_inj' (by norm_num)]

end SignalAggregator

/-! ### When the two scores agree -/

variable {calls : WindowCalls} {training : List OHLCVData} {timeframe : String}
  {indicators : List IndicatorValue} {movingAverages : List MovingAverage}
  {patterns : List PatternDetection}

/-- The score of a window whose parts are computed. -/
theorem scoreWindow_eq (hindicators : calls.calculateIndicators training = .ok indicators)
    (hmovingAverages : calls.calculateMovingAverages training = .ok movingAverages)
    (hpatterns : detectAndScorePatternsForWindow calls.patterns training timeframe = .ok patterns) :
    scoreWindow calls training timeframe = .ok (patterns,
      calculateWeightedScore (calibrationAggregator indicators movingAverages patterns) none) := by
  rw [scoreWindow, hindicators, hmovingAverages, hpatterns]
  rfl

/-- **When the calibrated score is the production score.** For a training window and a context with
the same indicators, moving averages and patterns, no fundamental data and the summary the pipeline
computes, the aggregation phase leaves the production score, and the scores are equal if and only if
the signals are rated as they average. -/
theorem calibrated_score_eq_iff
    (hindicators : calls.calculateIndicators training = .ok indicators)
    (hmovingAverages : calls.calculateMovingAverages training = .ok movingAverages)
    (hpatterns : detectAndScorePatternsForWindow calls.patterns training timeframe = .ok patterns)
    (ctx : PipelineContext) :
    let production : PipelineContext :=
      { ctx with
        indicators, movingAverages, patterns, fundamental := none
        signalSummary := some (calculateSummaries indicators movingAverages) }
    (∀ (Report : Type) (pipeline : PipelineCalls Report) (ctx' : PipelineContext),
      (∀ a, pipeline.calculateWeightedScore a = .ok (calculateWeightedScore a none)) →
      AnalysisPipeline.aggregationBody pipeline production = .ok ctx' →
      ctx'.score = productionScore production) ∧
    (scoreWindow calls training timeframe = .ok (patterns, productionScore production) ↔
      RatedAsAveraged (taSignals indicators movingAverages)) := by
  intro production
  refine ⟨fun Report pipeline ctx' hcall hphase ↦ ?_, ?_⟩
  · exact Except.ok.inj ((score_of_aggregationBody hphase).symm.trans (hcall _))
  set script := calibrationAggregator indicators movingAverages patterns
  have hscript : script.normalizeTaSignal =
      averageScore (taSignals indicators movingAverages) := normalizeTaSignal_of_no_summary rfl
  have hproduction : production.aggregator.normalizeTaSignal =
      signalScore (calculateSummaries indicators movingAverages).overallSummary := rfl
  rw [scoreWindow_eq hindicators hmovingAverages hpatterns, Except.ok.injEq, Prod.mk.injEq,
    eq_self_iff_true, true_and, productionScore,
    SignalAggregator.calculateWeightedScore_eq_iff (a := script) (b := production.aggregator)
      rfl rfl rfl, hscript, hproduction, overallSummary_calculateSummaries, rating_eq_average_iff]

/-- The pipeline on the five rising candles. -/
def risingContext : PipelineContext where
  symbol := "EUR/USD"
  timeframe := .h1
  instrumentType := some .forex
  ohlcv := risingWindow
  indicators := risingIndicators
  movingAverages := risingMovingAverages
  signalSummary := some (calculateSummaries risingIndicators risingMovingAverages)

/-- Two buys among twenty-five signals average to `0.04`, and are rated neutral. -/
theorem rising_scores_apart :
    scoreWindow risingCalls risingWindow "H1" = .ok ([], 0.02) ∧
      productionScore risingContext = 0 := by
  refine ⟨(scoreWindow_eq rfl rfl rfl).trans (congrArg (fun x ↦ Except.ok ([], x)) ?_), ?_⟩
  · decide +kernel
  · decide +kernel

theorem calibrated_score_eq_iff_rising :
    scoreWindow risingCalls risingWindow "H1" = .ok ([], productionScore risingContext) ↔
      RatedAsAveraged (taSignals risingIndicators risingMovingAverages) :=
  (calibrated_score_eq_iff rfl rfl rfl risingContext).2

end InvestmentAssistant
