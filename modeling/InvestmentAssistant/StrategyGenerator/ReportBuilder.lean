import InvestmentAssistant.DataAcquisition.MultiTimeframe
import InvestmentAssistant.StrategyGenerator.ConfidenceScorer
import InvestmentAssistant.StrategyGenerator.EntryCalculator
import InvestmentAssistant.StrategyGenerator.SlTpCalculator

/-!
# The report builder

`buildReport` turns the results of an analysis into a report: for a trade direction it builds a
strategy for each entry point and drops those with an unfavourable risk/reward ratio; without a
direction, or without a strategy left, it says why.

A strategy declares its confidence to lie within `[0, 100]`, and that is the only check of the
report that could fail. The confidence is clamped before it is rounded, so it never does
(`exists_buildReport`).
-/

namespace InvestmentAssistant

open Decimal

/-! ### The report -/

/-- The fields of a strategy. -/
structure StrategyFields where
  direction : Direction
  entryCondition : String := ""
  entryPrice : Option ℚ := none
  stopLoss : Option ℚ := none
  tp1 : Option ℚ := none
  tp2 : Option ℚ := none
  confidencePct : ℚ := 0
  riskRewardRatio : Option ℚ := none
  riskRewardRatioTp2 : Option ℚ := none
  deriving DecidableEq, Repr

/-- One strategy of a report. -/
structure StrategyEntry extends StrategyFields where
  /-- `confidence_pct` is declared `ge=0, le=100`. -/
  confidencePct_mem : 0 ≤ confidencePct ∧ confidencePct ≤ 100
  deriving DecidableEq

/-- `StrategyEntry(...)`. -/
def StrategyFields.validate (f : StrategyFields) : Except PyException StrategyEntry :=
  if h : 0 ≤ f.confidencePct ∧ f.confidencePct ≤ 100 then .ok ⟨f, h⟩ else .error .validationError

/-- The report of an analysis. -/
structure AnalysisReport where
  symbol : String
  timeframe : Timeframe
  timestamp : DateTime
  instrumentType : Option InstrumentType := none
  timeframeContext : AnalysisTimeframeContext := {}
  ohlcvData : List OHLCVData := []
  technicalIndicators : List IndicatorValue := []
  movingAverages : List MovingAverage := []
  pivotPoints : List PivotPoints := []
  patterns : List PatternDetection := []
  patternScannerResults : List PatternScannerResult := []
  longTermTrend : Option LongTermTrend := none
  fundamental : Option FundamentalData := none
  signalSummary : Option SignalSummary := none
  strategies : List StrategyEntry := []
  strategySkipReason : Option String := none
  deriving DecidableEq

/-! ### Strategies -/

/-- `_FLOAT_ZERO_EPSILON` of the report builder. -/
def rewardEpsilon : ℚ := 1 / 10 ^ 9

/-- `_calculate_risk_reward`, in exact arithmetic; without a reward there is no ratio. -/
def calculateRiskReward (entryPrice stopLoss tp1 : Option ℚ) : Option ℚ :=
  match entryPrice, stopLoss, tp1 with
  | some entryPrice, some stopLoss, some tp1 =>
    let risk := |entryPrice - stopLoss|
    let reward := |tp1 - entryPrice|
    if reward < rewardEpsilon then none else some (roundTo 2 (risk / reward))
  | _, _, _ => none

/-- The patterns whose type starts with `start`. -/
def patternsOfType (start : String) (patterns : List PatternDetection) : List PatternDetection :=
  patterns.filter fun p ↦ start.toList.isPrefixOf p.patternType.toList

/-- The candlestick patterns of two stars or more on the side of the trade. -/
def confirmingPatterns (direction : Direction) (patterns : List PatternDetection) :
    List PatternDetection :=
  patterns.filter fun p ↦
    p.category = .candlestick ∧ 2 ≤ p.reliability ∧ p.bullish = decide (direction = .long)

/-- What `_build_strategies` is given. -/
structure StrategyInputs where
  ohlcv : List OHLCVData
  indicators : List IndicatorValue
  signalSummary : Option SignalSummary
  patterns : List PatternDetection
  fundamental : Option FundamentalData

namespace StrategyInputs

variable (inputs : StrategyInputs)

/-- `sr_patterns`. -/
def srPatterns : List PatternDetection :=
  patternsOfType "S/R" inputs.patterns

/-- `fib_patterns`. -/
def fibPatterns : List PatternDetection :=
  patternsOfType "Fibonacci" inputs.patterns

/-- The strategy of one entry point. -/
def strategy (direction : Direction) (entry : EntryPoint) : StrategyFields :=
  let slTp := calculateSlTp inputs.ohlcv direction entry.price inputs.srPatterns
  { direction
    entryCondition := entry.condition
    entryPrice := some entry.price
    stopLoss := some slTp.stopLoss
    tp1 := some slTp.tp1
    tp2 := some slTp.tp2
    confidencePct := calculateConfidence direction inputs.indicators inputs.signalSummary
      inputs.patterns inputs.fundamental
    riskRewardRatio := calculateRiskReward (some entry.price) (some slTp.stopLoss) (some slTp.tp1)
    riskRewardRatioTp2 :=
      calculateRiskReward (some entry.price) (some slTp.stopLoss) (some slTp.tp2) }

/-- `_build_strategies`. -/
def buildStrategies (direction : Direction) : Except PyException (List StrategyEntry) :=
  let entries := calculateEntryPoints inputs.ohlcv direction inputs.srPatterns inputs.fibPatterns
    (confirmingPatterns direction inputs.patterns)
  entries.mapM fun entry ↦ (inputs.strategy direction entry).validate

end StrategyInputs

/-- The filter on the risk/reward ratio. -/
def favourableStrategies (strategies : List StrategyEntry) : List StrategyEntry :=
  strategies.filter fun s ↦ s.riskRewardRatio.all fun ratio ↦ decide (ratio ≤ 1)

/-- The reason of a report whose strategies were all dropped. -/
def unfavourableReason : String :=
  "Wszystkie strategie wejścia odrzucone" ++
    " — stosunek ryzyka do zysku (R/R) niekorzystny dla każdego scenariusza"

/-- The reason of a report without a direction. -/
def neutralReason : String :=
  "Sygnały neutralne — zagregowany wynik zbyt bliski zeru, aby określić kierunek wejścia"

/-- The strategies of a report, and why there are none. -/
def strategiesAndReason (inputs : StrategyInputs) :
    Option Direction → Except PyException (List StrategyEntry × Option String)
  | none => .ok ([], some neutralReason)
  | some direction => do
    let strategies := favourableStrategies (← inputs.buildStrategies direction)
    return (strategies, if strategies = [] then some unfavourableReason else none)

/-- `build_report`, at the time `now`. -/
def buildReport (now : DateTime) (symbol : String) (timeframe : Timeframe)
    (inputs : StrategyInputs) (movingAverages : List MovingAverage) (pivotPoints : List PivotPoints)
    (timeframeContext : Option AnalysisTimeframeContext)
    (patternScannerResults : List PatternScannerResult) (longTermTrend : Option LongTermTrend)
    (direction : Option Direction) (instrumentType : Option InstrumentType) :
    Except PyException AnalysisReport := do
  let (strategies, strategySkipReason) ← strategiesAndReason inputs direction
  return {
    symbol
    timeframe
    timestamp := now
    instrumentType
    timeframeContext := timeframeContext.getD {}
    ohlcvData := inputs.ohlcv
    technicalIndicators := inputs.indicators
    movingAverages
    pivotPoints
    patterns := inputs.patterns
    patternScannerResults
    longTermTrend
    fundamental := inputs.fundamental
    signalSummary := inputs.signalSummary
    strategies
    strategySkipReason }

/-! ### A report is built -/

/-- **A confidence is a percentage**: it is clamped, and rounding stays within whole bounds. -/
theorem calculateConfidence_mem (direction : Direction) (indicators : List IndicatorValue)
    (signalSummary : Option SignalSummary) (patterns : List PatternDetection)
    (fundamental : Option FundamentalData) :
    0 ≤ calculateConfidence direction indicators signalSummary patterns fundamental ∧
      calculateConfidence direction indicators signalSummary patterns fundamental ≤ 100 := by
  unfold calculateConfidence
  dsimp only
  split
  · norm_num
  · have hhundred : HasDecimals 1 100 := by decide +kernel
    exact ⟨(hasDecimals_zero 1).le_roundTo (le_min (by norm_num) (le_max_left _ _)),
      hhundred.roundTo_le (min_le_left _ _)⟩

/-- The strategy of an entry point passes its check. -/
theorem StrategyInputs.exists_validate_strategy (inputs : StrategyInputs) (direction : Direction)
    (entry : EntryPoint) : ∃ s, (inputs.strategy direction entry).validate = .ok s := by
  unfold StrategyFields.validate
  split
  · exact ⟨_, rfl⟩
  · next h => exact absurd (calculateConfidence_mem _ _ _ _ _) h

/-- **A report is built from any results**, whichever of them are empty or missing. -/
theorem exists_buildReport (now : DateTime) (symbol : String) (timeframe : Timeframe)
    (inputs : StrategyInputs) (movingAverages : List MovingAverage) (pivotPoints : List PivotPoints)
    (timeframeContext : Option AnalysisTimeframeContext)
    (patternScannerResults : List PatternScannerResult) (longTermTrend : Option LongTermTrend)
    (direction : Option Direction) (instrumentType : Option InstrumentType) :
    ∃ report, buildReport now symbol timeframe inputs movingAverages pivotPoints timeframeContext
      patternScannerResults longTermTrend direction instrumentType = .ok report := by
  cases direction with
  | none => exact ⟨_, rfl⟩
  | some direction =>
    obtain ⟨strategies, hstrategies⟩ : ∃ s, inputs.buildStrategies direction = .ok s :=
      exists_mapM_eq_ok fun entry _ ↦ inputs.exists_validate_strategy direction entry
    rw [buildReport, strategiesAndReason, hstrategies]
    exact ⟨_, rfl⟩

end InvestmentAssistant
