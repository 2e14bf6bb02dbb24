import InvestmentAssistant.Foundation.RollingWindows
import InvestmentAssistant.PatternRecognition.Recognition
import InvestmentAssistant.SignalAggregation.Scoring
import InvestmentAssistant.SignalAggregation.ThresholdCalibration
import InvestmentAssistant.StrategyGenerator.EntryCalculator
import InvestmentAssistant.StrategyGenerator.SlTpCalculator

/-!
# The calibration script

`buildSamplesFromOhlcv` rolls a training window over a history of candles. Each window is scored by
its technical signals and its patterns, the score is classified by the default thresholds, and the
signal is labelled against the candles that follow the window.

The indicators, the moving averages and the parts of the pattern recognition are parameters
(`WindowCalls`); an exception of the first two ends the run. A size is a number of candles. The
label of a window depends on the direction it is asked for, so `analyseWindow` keeps both the score
and the label of every direction; a sample is that with the default direction put in
(`buildSamplesFromOhlcv_eq`).
-/

namespace InvestmentAssistant

/-! ### The script -/

/-- The functions a window is analysed with. -/
structure WindowCalls where
  /-- `calculate_indicators`, with the default parameters. -/
  calculateIndicators : List OHLCVData → Except PyException (List IndicatorValue)
  calculateMovingAverages : List OHLCVData → Except PyException (List MovingAverage)
  patterns : PatternCalls

/-- The public time frame with this value. The script writes the value itself into its patterns. -/
def timeframeOfValue : String → Option Timeframe
  | "M15" => some .m15
  | "H1" => some .h1
  | "H4" => some .h4
  | "D1" => some .d1
  | _ => none

/-- `_iter_window_starts`. -/
def iterWindowStarts (total trainingSize forwardSize stepSize : ℕ) : Except PyException (List ℕ) :=
  if stepSize = 0 then .error (.valueError "range() arg 3 must not be zero")
  else .ok (RollingWindows.starts total (trainingSize + forwardSize) stepSize)

/-- `_detect_and_score_patterns_for_window`. -/
def detectAndScorePatternsForWindow (calls : PatternCalls) (ohlcv : List OHLCVData)
    (timeframe : String) : Except PyException (List PatternDetection) :=
  let found := calls.detect ohlcv
  if found = [] then .ok [] else rankPatterns calls ohlcv (timeframeOfValue timeframe) found

/-- The aggregator of the script: without a summary, and without fundamental data. -/
def calibrationAggregator (indicators : List IndicatorValue) (movingAverages : List MovingAverage)
    (patterns : List PatternDetection) : SignalAggregator :=
  { indicators, movingAverages, patterns, fundamental := none }

/-- The patterns and the score of a training window. -/
def scoreWindow (calls : WindowCalls) (training : List OHLCVData) (timeframe : String) :
    Except PyException (List PatternDetection × ℚ) := do
  let indicators ← calls.calculateIndicators training
  let movingAverages ← calls.calculateMovingAverages training
  let patterns ← detectAndScorePatternsForWindow calls.patterns training timeframe
  return (patterns,
    calculateWeightedScore (calibrationAggregator indicators movingAverages patterns) none)

/-- The label of a signal of this direction, raised at the close of the training window. -/
def signalOutcome (training future : List OHLCVData) (patterns : List PatternDetection)
    (close : ℚ) : Option Direction → TransactionOutcome
  | none => labelSignalOutcome none (some close) none none (some future)
  | some direction =>
    let srPatterns := patterns.filter fun p ↦ p.category = .supportResistance
    let entries := calculateEntryPoints training direction srPatterns [] []
    let entry := (entries.head?.map EntryPoint.price).getD close
    let slTp := calculateSlTp training direction entry srPatterns
    labelSignalOutcome (some direction) (some entry) (some slTp.stopLoss) (some slTp.tp1)
      (some future)

/-- **What a signal of a window is labelled by**: a trade that is entered at the last close, and the
first of its two levels that the future candles reach. -/
theorem signalOutcome_some {training : List OHLCVData} {last : OHLCVData}
    (hlast : training.getLast? = some last) (future : List OHLCVData)
    (patterns : List PatternDetection) (direction : Direction) :
    let slTp := calculateSlTp training direction last.close
      (patterns.filter fun p ↦ p.category = .supportResistance)
    signalOutcome training future patterns last.close (some direction) =
      firstHit direction slTp.stopLoss slTp.tp1 future := by
  intro slTp
  rw [signalOutcome, head?_calculateEntryPoints hlast]
  rfl

/-- `_build_sample_from_window`. -/
def buildSampleFromWindow (calls : WindowCalls) (training future : List OHLCVData)
    (symbol timeframe : String) (sampleIndex : ℕ) : Except PyException CalibrationSample := do
  let (patterns, score) ← scoreWindow calls training timeframe
  let direction := determineDirection score none none
  let last ← lastItem training
  let outcome := signalOutcome training future patterns last.close direction
  return { score, direction, outcome, symbol, timeframe, sampleIndex }

/-- The sizes of the windows and the step between them. -/
structure WindowSizes where
  trainingSize : ℕ
  forwardSize : ℕ
  stepSize : ℕ
  deriving DecidableEq, Repr

/-- `_build_samples_from_ohlcv`. -/
def buildSamplesFromOhlcv (calls : WindowCalls) (ohlcv : List OHLCVData)
    (symbol timeframe : String) (sizes : WindowSizes) :
    Except PyException (List CalibrationSample) := do
  let starts ←
    iterWindowStarts ohlcv.length sizes.trainingSize sizes.forwardSize sizes.stepSize
  starts.zipIdx.mapM fun (i, sampleIndex) ↦
    let training := RollingWindows.slice ohlcv i sizes.trainingSize
    let future := RollingWindows.slice ohlcv (i + sizes.trainingSize) sizes.forwardSize
    buildSampleFromWindow calls training future symbol timeframe sampleIndex

/-! ### What a window shows -/

/-- The score of a window, and the label of a signal of each direction. -/
structure WindowAnalysis where
  score : ℚ
  outcome : Option Direction → TransactionOutcome

/-- A window before it is classified. -/
def analyseWindow (calls : WindowCalls) (training future : List OHLCVData) (timeframe : String) :
    Except PyException WindowAnalysis := do
  let (patterns, score) ← scoreWindow calls training timeframe
  let last ← lastItem training
  return ⟨score, signalOutcome training future patterns last.close⟩

/-- The window that starts at candle `i`. -/
def analyseFrom (calls : WindowCalls) (ohlcv : List OHLCVData) (timeframe : String)
    (sizes : WindowSizes) (i : ℕ) : Except PyException WindowAnalysis :=
  analyseWindow calls (RollingWindows.slice ohlcv i sizes.trainingSize)
    (RollingWindows.slice ohlcv (i + sizes.trainingSize) sizes.forwardSize) timeframe

/-- The windows of a history. -/
def analyseHistory (calls : WindowCalls) (ohlcv : List OHLCVData) (timeframe : String)
    (sizes : WindowSizes) : Except PyException (List WindowAnalysis) := do
  let starts ←
    iterWindowStarts ohlcv.length sizes.trainingSize sizes.forwardSize sizes.stepSize
  starts.mapM (analyseFrom calls ohlcv timeframe sizes)

/-- The sample of a window: classified and labelled by the default thresholds. -/
def WindowAnalysis.sample (a : WindowAnalysis) (symbol timeframe : String) (sampleIndex : ℕ) :
    CalibrationSample where
  score := a.score
  direction := determineDirection a.score none none
  outcome := a.outcome (determineDirection a.score none none)
  symbol := symbol
  timeframe := timeframe
  sampleIndex := sampleIndex

theorem buildSampleFromWindow_eq (calls : WindowCalls) (training future : List OHLCVData)
    (symbol timeframe : String) (sampleIndex : ℕ) :
    buildSampleFromWindow calls training future symbol timeframe sampleIndex =
      (analyseWindow calls training future timeframe).map
        (·.sample symbol timeframe sampleIndex) := by
  unfold buildSampleFromWindow analyseWindow
  rcases scoreWindow calls training timeframe with e | ⟨patterns, score⟩
  · rfl
  rcases lastItem training with e | last
  · rfl
  · rfl

/-- A pass that numbers its results. -/
theorem zipIdx_mapM_map {α β γ : Type} (f : α → Except PyException β) (g : β → ℕ → γ) (xs : List α)
    (n : ℕ) : ((xs.zipIdx n).mapM fun x ↦ (f x.1).map (g · x.2)) =
      (xs.mapM f).map fun ys ↦ (ys.zipIdx n).map fun y ↦ g y.1 y.2 := by
  induction xs generalizing n with
  | nil => rfl
  | cons x xs ih =>
    rw [List.zipIdx_cons, List.mapM_cons, List.mapM_cons, ih]
    dsimp only
    rcases f x with e | y
    · rfl
    rcases xs.mapM f with e | ys
    · rfl
    · rfl

/-- **The samples are the windows**, classified by the default thresholds and numbered. -/
theorem buildSamplesFromOhlcv_eq (calls : WindowCalls) (ohlcv : List OHLCVData)
    (symbol timeframe : String) (sizes : WindowSizes) :
    buildSamplesFromOhlcv calls ohlcv symbol timeframe sizes =
      (analyseHistory calls ohlcv timeframe sizes).map fun windows ↦
        windows.zipIdx.map fun a ↦ a.1.sample symbol timeframe a.2 := by
  unfold buildSamplesFromOhlcv analyseHistory
  rcases iterWindowStarts ohlcv.length sizes.trainingSize sizes.forwardSize sizes.stepSize with
    e | starts
  · rfl
  simp only [buildSampleFromWindow_eq]
  exact zipIdx_mapM_map (analyseFrom calls ohlcv timeframe sizes)
    (fun a k ↦ a.sample symbol timeframe k) starts 0

/-! ### Five rising candles -/

/-- Five candles that close above their open, each opening where the one before it closed. -/
def risingWindow : List OHLCVData :=
  [⟨⟨0, some 0⟩, 100, 101, 100, 101, 0⟩, ⟨⟨3600000000, some 0⟩, 101, 102, 101, 102, 0⟩,
    ⟨⟨7200000000, some 0⟩, 102, 103, 102, 103, 0⟩, ⟨⟨10800000000, some 0⟩, 103, 104, 103, 104, 0⟩,
    ⟨⟨14400000000, some 0⟩, 104, 105, 104, 105, 0⟩]

/-- Every indicator needs more than five candles, so none has a value. -/
def risingIndicators : List IndicatorValue :=
  ["RSI(14)", "STOCH.K(14)", "CCI(20)", "ADX(14)", "AO", "Momentum(10)", "MACD(12,26,9)",
    "Williams %R(14)", "UO(7,14,28)", "ATR(14)", "BBP(13)", "STOCHRSI.K(14)", "ROC(15)"].map
      fun name ↦ { name }

/-- The averages over five candles are below the last close; the others have no value. -/
def risingMovingAverages : List MovingAverage :=
  { period := 5
    smaValue := some 103
    smaSignal := .buy
    emaValue := some 103
    emaSignal := .buy } ::
    [10, 20, 50, 100, 200].map fun period ↦ { period }

/-- What `risingWindow` is analysed with: no detector finds a pattern in it. -/
def risingCalls : WindowCalls where
  calculateIndicators _ := .ok risingIndicators
  calculateMovingAverages _ := .ok risingMovingAverages
  patterns :=
    { detectCandlestickPatterns := fun _ ↦ .ok []
      detectSupportResistance := fun _ ↦ .ok []
      calculateFibonacciLevels := fun _ ↦ .ok []
      detectChartPatterns := fun _ ↦ .ok []
      detectIkiPattern := fun _ ↦ .ok []
      calculateTargetPrices := fun patterns _ ↦ ⟨patterns, .ok ()⟩
      scorePatterns := fun patterns _ _ ↦ ⟨patterns, .ok ()⟩ }

end InvestmentAssistant
