import InvestmentAssistant.PatternRecognition.LevelDetection
import InvestmentAssistant.TechnicalAnalysis.PivotPoints

/-!
# The technical analysis of one series of candles

`stepTechnicalAnalysis` computes indicators, moving averages, pivot points and their summary, and
`buildLongTermTrend` reads a trend off the weekly candles. What a part raises gives way to an empty
or a missing result, so both are total.

The parts are parameters (`TechnicalCalls`); which parameters the indicators take is decided by the
preset of the analysis, and both presets are known (`exists_getPresetParams`).
-/

namespace InvestmentAssistant

/-! ### Presets -/

/-- `IndicatorPreset`. -/
inductive IndicatorPreset
  | investing
  | tradingview
  deriving DecidableEq, Repr

/-- The values of the presets. -/
def IndicatorPreset.value : IndicatorPreset → String
  | .investing => "investing"
  | .tradingview => "tradingview"

/-- `IndicatorParams`. -/
structure IndicatorParams where
  rsiLength : ℕ := 14
  stochK : ℕ := 14
  stochD : ℕ := 3
  stochSmoothK : ℕ := 3
  cciLength : ℕ := 20
  adxLength : ℕ := 14
  aoFast : ℕ := 5
  aoSlow : ℕ := 34
  momentumLength : ℕ := 10
  macdFast : ℕ := 12
  macdSlow : ℕ := 26
  macdSignal : ℕ := 9
  willrLength : ℕ := 14
  uoFast : ℕ := 7
  uoMedium : ℕ := 14
  uoSlow : ℕ := 28
  atrLength : ℕ := 14
  bbpLength : ℕ := 13
  stochrsiLength : ℕ := 14
  stochrsiRsiLength : ℕ := 14
  stochrsiK : ℕ := 3
  stochrsiD : ℕ := 3
  rocLength : ℕ := 15
  deriving DecidableEq, Repr

/-- `PRESETS`. -/
def presets : List (IndicatorPreset × IndicatorParams) :=
  [(.investing,
      { stochK := 9
        stochD := 6
        stochSmoothK := 1
        cciLength := 14
        bbpLength := 13
        stochrsiLength := 14
        stochrsiRsiLength := 14
        stochrsiK := 14
        stochrsiD := 14
        rocLength := 15 }),
    (.tradingview, {})]

/-- `get_preset_params`. -/
def getPresetParams (preset : IndicatorPreset) : Except PyException IndicatorParams :=
  match presets.lookup preset with
  | none => .error (.valueError s!"Unknown preset: {preset.value}")
  | some params => .ok params

/-- Every preset has its parameters. -/
theorem exists_getPresetParams (preset : IndicatorPreset) :
    ∃ params, getPresetParams preset = .ok params := by
  cases preset <;> exact ⟨_, rfl⟩

/-! ### The parts -/

/-- The functions the technical analysis calls. -/
structure TechnicalCalls where
  calculateIndicators : List OHLCVData → IndicatorParams → Except PyException (List IndicatorValue)
  calculateMovingAverages : List OHLCVData → Except PyException (List MovingAverage)
  /-- `calculate_pivot_points`, of high, low, close and open. -/
  calculatePivotPoints : ℚ → ℚ → ℚ → ℚ → Except PyException (List PivotPoints)
  calculateSummaries : List IndicatorValue → List MovingAverage → Except PyException SignalSummary

/-- What a part returns, or the default its exception gives way to. -/
def resultOr {α : Type} (default : α) : Except PyException α → α
  | .ok a => a
  | .error _ => default

namespace TechnicalCalls

variable (calls : TechnicalCalls)

/-- The `try` block around the pivot points, which falls back on the last candle. -/
def pivotPoints (ohlcv : List OHLCVData) (pivotCandle : Option OHLCVData) :
    Except PyException (List PivotPoints) := do
  let candle ← match pivotCandle with
    | some candle => .ok candle
    | none => lastItem ohlcv
  calls.calculatePivotPoints candle.high candle.low candle.close candle.open_

/-- `_step_technical_analysis`. -/
def stepTechnicalAnalysis (preset : IndicatorPreset) (ohlcv : List OHLCVData)
    (pivotCandle : Option OHLCVData) : Except PyException
      (List IndicatorValue × List MovingAverage × List PivotPoints × Option SignalSummary) := do
  let params ← getPresetParams preset
  let indicators := resultOr [] (calls.calculateIndicators ohlcv params)
  let movingAverages := resultOr [] (calls.calculateMovingAverages ohlcv)
  let pivotPoints := resultOr [] (calls.pivotPoints ohlcv pivotCandle)
  let signalSummary := (calls.calculateSummaries indicators movingAverages).toOption
  return (indicators, movingAverages, pivotPoints, signalSummary)

/-- `_TREND_SUMMARY_LABELS`. -/
def trendSummaryLabel : SignalType → String
  | .strongBuy => "Silny trend wzrostowy"
  | .buy => "Trend wzrostowy"
  | .neutral => "Trend boczny"
  | .sell => "Trend spadkowy"
  | .strongSell => "Silny trend spadkowy"

/-- `build_long_term_trend`. -/
def buildLongTermTrend (ohlcv : List OHLCVData) (preset : IndicatorPreset) :
    Except PyException (Option LongTermTrend) := do
  if ohlcv = [] then
    return none
  else
    let params ← getPresetParams preset
    let indicators := resultOr [] (calls.calculateIndicators ohlcv params)
    let movingAverages := resultOr [] (calls.calculateMovingAverages ohlcv)
    if indicators = [] ∧ movingAverages = [] then
      return none
    else
      return (calls.calculateSummaries indicators movingAverages).toOption.map fun summary ↦
        { signal := summary.overallSummary
          summary := trendSummaryLabel summary.overallSummary }

/-- **Whatever fails, the technical analysis returns.** -/
theorem exists_stepTechnicalAnalysis (preset : IndicatorPreset) (ohlcv : List OHLCVData)
    (pivotCandle : Option OHLCVData) :
    ∃ results, calls.stepTechnicalAnalysis preset ohlcv pivotCandle = .ok results := by
  obtain ⟨params, hparams⟩ := exists_getPresetParams preset
  rw [stepTechnicalAnalysis, hparams]
  exact ⟨_, rfl⟩

/-- **Whatever fails, the long-term trend returns**, with or without weekly candles. -/
theorem exists_buildLongTermTrend (ohlcv : List OHLCVData) (preset : IndicatorPreset) :
    ∃ trend, calls.buildLongTermTrend ohlcv preset = .ok trend := by
  obtain ⟨params, hparams⟩ := exists_getPresetParams preset
  unfold buildLongTermTrend
  split
  · exact ⟨none, rfl⟩
  rw [hparams]
  dsimp only [bind, Except.bind]
  split
  · exact ⟨none, rfl⟩
  · exact ⟨_, rfl⟩

end TechnicalCalls

end InvestmentAssistant
