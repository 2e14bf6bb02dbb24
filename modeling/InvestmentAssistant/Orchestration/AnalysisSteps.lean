import InvestmentAssistant.Orchestration.Pipeline
import InvestmentAssistant.PatternRecognition.Consolidator
import InvestmentAssistant.PatternRecognition.Recognition
import InvestmentAssistant.StrategyGenerator.ReportBuilder
import InvestmentAssistant.TechnicalAnalysis.TechnicalStep

/-!
# What the steps of an analysis call

The pipeline takes its calls as parameters. Here they are the steps of the repository — technical
analysis, pattern recognition, consolidation, aggregation and report — and what remains open are the
components these steps call (`AnalysisComponents`): each returns or raises, on every time frame for
itself.
-/

namespace InvestmentAssistant

/-- The components of an analysis, and what becomes of them. -/
structure AnalysisComponents where
  /-- `str` of an exception. -/
  text : PyException → String
  /-- `classify_instrument`, a lookup in fixed tables. -/
  classifyInstrument : String → Option InstrumentType
  /-- The session factory and `MultiTimeframeFetcher.fetch`. -/
  fetch : String → AnalysisTimeframePlan → Call MultiTimeframeFetchBundle
  preset : IndicatorPreset
  /-- The parts of the technical analysis, on the candles of the analysis. -/
  technical : TechnicalCalls
  /-- The parts of the long-term trend, on the weekly candles. -/
  weekly : TechnicalCalls
  /-- The parts of the pattern recognition, by time frame. -/
  patterns : Timeframe → PatternCalls
  /-- `analyze_forex`, `analyze_commodity` or `analyze_index`. -/
  analyzeFundamentals : InstrumentType → String → Except PyException FundamentalData
  /-- The time of the report. -/
  now : DateTime
  /-- Whether the row of the report was committed. -/
  rowCommitted : AnalysisReport → Bool
  /-- How the session of `_persist_result` ended. -/
  persist : AnalysisReport → Except PyException Unit
  cacheReport : AnalysisReport → WriteOutcome Availability

namespace AnalysisComponents

variable (c : AnalysisComponents)

/-- An exception of a component, as the pipeline sees it. -/
def raising {α : Type} (o : Except PyException α) : Call α :=
  o.mapError fun e ↦ .raised (c.text e)

/-- The call of `build_report` in `_run_report_phase`. -/
def buildReport (ctx : PipelineContext) : Except PyException AnalysisReport :=
  InvestmentAssistant.buildReport c.now ctx.symbol ctx.timeframe
    { ohlcv := ctx.ohlcv
      indicators := ctx.indicators
      signalSummary := ctx.signalSummary
      patterns := ctx.patterns
      fundamental := ctx.fundamental }
    ctx.movingAverages ctx.pivotPoints ctx.timeframeContext ctx.patternScannerResults
    ctx.longTermTrend ctx.direction ctx.instrumentType

/-- The calls of an analysis with these components. -/
def calls : PipelineCalls AnalysisReport where
  classifyInstrument symbol := .ok (c.classifyInstrument symbol)
  fetch := c.fetch
  getPivotCandle dailyOhlcv := .ok (getPivotCandle dailyOhlcv)
  technicalAnalysis ohlcv pivotCandle :=
    c.raising (c.technical.stepTechnicalAnalysis c.preset ohlcv pivotCandle)
  buildLongTermTrend weeklyOhlcv := c.raising (c.weekly.buildLongTermTrend weeklyOhlcv c.preset)
  patternRecognition ohlcv timeframe :=
    c.raising (stepPatternRecognition (c.patterns timeframe) ohlcv (some timeframe))
  consolidatePatterns patterns := .ok (consolidatePatterns patterns)
  analyzeFundamentals instrumentType symbol :=
    c.raising (c.analyzeFundamentals instrumentType symbol)
  calculateWeightedScore aggregator := .ok (calculateWeightedScore aggregator none)
  determineDirection score := .ok (determineDirection score none none)
  buildReport ctx := c.raising (c.buildReport ctx)
  persist report :=
    { effect := if c.rowCommitted report then some () else none
      result := c.raising (c.persist report) }
  cacheReport := c.cacheReport

end AnalysisComponents

end InvestmentAssistant
