import InvestmentAssistant.DataAcquisition.MultiTimeframe
import InvestmentAssistant.DataAcquisition.RedisCache
import InvestmentAssistant.Foundation.Realizes
import InvestmentAssistant.SignalAggregation.Scoring

/-!
# The analysis pipeline

`AnalysisPipeline.run` takes an analysis through its six steps and `_run_pipeline` wraps it for the
API: it caches the report and publishes how the analysis ended. Both write the status that clients
poll, and so does the failure helper in between.

The status is one object that `analysis_tasks` refers to, so every change of it is visible at once;
the `log` of a run holds the values it takes, along with the rows and cache entries the run stores.
The functions the pipeline calls are parameters (`PipelineCalls`): each returns, raises or is
cancelled, and a cancellation passes `except Exception`. `analyse` is what the calls amount to
without any status.
-/

namespace InvestmentAssistant

/-! ### The status -/

/-- `AnalysisStatusType`. -/
inductive AnalysisStatusType
  | pending
  | running
  | completed
  | failed
  deriving DecidableEq, Repr

/-- The status of an analysis, as clients see it. -/
structure AnalysisStatus where
  id : String
  status : AnalysisStatusType := .pending
  progressPct : ℚ := 0
  currentStep : String := ""
  stepsCompleted : List String := []
  errorMessage : Option String := none
  deriving DecidableEq, Repr

/-- `PIPELINE_STEPS`. -/
def pipelineSteps : List String :=
  ["Pobieranie danych", "Analiza techniczna", "Rozpoznawanie formacji", "Analiza fundamentalna",
    "Agregacja sygnalow", "Generowanie strategii"]

/-! ### Calls -/

/-- How a call stops short: with an exception, of which only the text is used, or cancelled. -/
inductive Stop
  | raised (message : String)
  | cancelled
  deriving DecidableEq, Repr

/-- A call that returns or stops short. -/
abbrev Call (α : Type) := Except Stop α

/-- A write to a store: whether it took place, and how the call ended. -/
structure WriteOutcome (ω : Type) where
  effect : Option ω
  result : Call Unit

/-- The results of the steps so far. -/
structure PipelineContext where
  symbol : String
  timeframe : Timeframe
  instrumentType : Option InstrumentType
  fetchBundle : Option MultiTimeframeFetchBundle := none
  ohlcv : List OHLCVData := []
  pivotCandle : Option OHLCVData := none
  indicators : List IndicatorValue := []
  movingAverages : List MovingAverage := []
  pivotPoints : List PivotPoints := []
  signalSummary : Option SignalSummary := none
  longTermTrend : Option LongTermTrend := none
  patterns : List PatternDetection := []
  patternScannerResults : List PatternScannerResult := []
  timeframeContext : Option AnalysisTimeframeContext := none
  fundamental : Option FundamentalData := none
  score : ℚ := 0
  direction : Option Direction := none

/-- The functions a run calls, and what becomes of them. -/
structure PipelineCalls (Report : Type) where
  classifyInstrument : String → Call (Option InstrumentType)
  /-- The session factory and `MultiTimeframeFetcher.fetch`. -/
  fetch : String → AnalysisTimeframePlan → Call MultiTimeframeFetchBundle
  getPivotCandle : List OHLCVData → Call (Option OHLCVData)
  /-- `_step_technical_analysis`. -/
  technicalAnalysis : List OHLCVData → Option OHLCVData →
    Call (List IndicatorValue × List MovingAverage × List PivotPoints × Option SignalSummary)
  buildLongTermTrend : List OHLCVData → Call (Option LongTermTrend)
  /-- `_step_pattern_recognition`. -/
  patternRecognition : List OHLCVData → Timeframe → Call (List PatternDetection)
  consolidatePatterns : List PatternDetection → Call (List PatternScannerResult)
  /-- `analyze_forex`, `analyze_commodity` or `analyze_index`. -/
  analyzeFundamentals : InstrumentType → String → Call FundamentalData
  calculateWeightedScore : SignalAggregator → Call ℚ
  determineDirection : ℚ → Call (Option Direction)
  buildReport : PipelineContext → Call Report
  /-- The session of `_persist_result`. -/
  persist : Report → WriteOutcome Unit
  /-- `model_dump` and the `set` on `_analysis_results`. -/
  cacheReport : Report → WriteOutcome Availability

/-! ### The run of an analysis -/

/-- What a run does that others can see. -/
inductive PipelineEffect (Report : Type)
  | published (status : AnalysisStatus)
  | rowStored (report : Report)
  | reportCached (report : Report) (availability : Availability)

/-- The status, and what was done so far. -/
structure PipelineState (Report : Type) where
  status : AnalysisStatus
  log : List (PipelineEffect Report)

/-- A part of a run. -/
abbrev PipelineM (Report : Type) := Stateful (PipelineState Report) Stop

/-- An analysis. -/
structure AnalysisPipeline where
  analysisId : String
  symbol : String
  timeframe : Timeframe

/-- `timeframe_plan`. -/
def AnalysisPipeline.timeframePlan (p : AnalysisPipeline) : AnalysisTimeframePlan :=
  resolveAnalysisTimeframes p.timeframe

section Status

variable {Report : Type}

/-- Change the status others see. -/
def publish (f : AnalysisStatus → AnalysisStatus) (s : PipelineState Report) :
    PipelineState Report where
  status := f s.status
  log := s.log ++ [.published (f s.status)]

/-- A store keeps what a write puts into it. -/
def store {ω : Type} (outcome : WriteOutcome ω) (effect : ω → PipelineEffect Report)
    (s : PipelineState Report) : PipelineState Report :=
  { s with log := s.log ++ (outcome.effect.map effect).toList }

/-- The state `__init__` leaves. -/
def AnalysisPipeline.initial (p : AnalysisPipeline) : PipelineState Report where
  status := { id := p.analysisId }
  log := [.published { id := p.analysisId }]

/-- `_update_status`. -/
def updateStatus (stepIndex : ℕ) (stepName : String) : PipelineM Report Unit :=
  let progress : ℚ := (stepIndex : ℚ) / pipelineSteps.length * 100
  .update <| publish fun status ↦
    { status with status := .running, progressPct := min progress 99, currentStep := stepName }

/-- `_complete_step`. -/
def completeStep (stepName : String) : PipelineM Report Unit :=
  .update <| publish fun status ↦
    { status with stepsCompleted := status.stepsCompleted ++ [stepName] }

/-- `fail`. -/
def fail (error : String) : PipelineM Report Unit :=
  .update <| publish fun status ↦ { status with status := .failed, errorMessage := some error }

/-- `complete`. -/
def complete : PipelineM Report Unit :=
  .update <| publish fun status ↦
    { status with status := .completed, progressPct := 100, currentStep := "" }

end Status

/-- The handler `except Exception as exc`, given what it does with `str(exc)`. -/
def exceptException {α : Type} (handler : String → α) : Stop → Option α
  | .raised message => some (handler message)
  | .cancelled => none

/-- A call whose exceptions give way to a default. -/
def Call.recover {α : Type} (call : Call α) (default : String → α) : Call α :=
  match call with
  | .error (.raised message) => .ok (default message)
  | call => call

/-- The message of an analysis without candles. -/
def noMarketData : String := "Brak danych rynkowych dla podanego symbolu"

/-- The message of `_run_pipeline` for a run without a report. -/
def noReport : String := "Pipeline returned no report"

namespace AnalysisPipeline

variable {Report : Type} (p : AnalysisPipeline) (calls : PipelineCalls Report)

/-! #### The bodies of the steps -/

/-- `_step_fetch_data`: a failed fetch is an empty bundle. -/
def stepFetchData : Call MultiTimeframeFetchBundle :=
  (calls.fetch p.symbol p.timeframePlan).recover fun message ↦
    { mainTimeframe := p.timeframePlan.mainTimeframe
      candlesByTimeframe := Table.put ∅ p.timeframePlan.mainTimeframe (some [])
      errors := Table.put ∅ p.timeframePlan.mainTimeframe (some message) }

/-- The pivot candle comes from the daily candles, when there are any. -/
def pivotSource (bundle : MultiTimeframeFetchBundle) (ohlcv : List OHLCVData) : List OHLCVData :=
  if bundle.get .d1 ≠ [] then bundle.get .d1 else ohlcv

/-- The technical analysis and the long-term trend of step 2. -/
def technicalBody (bundle : MultiTimeframeFetchBundle) (ctx : PipelineContext) :
    Call PipelineContext := do
  let (indicators, movingAverages, pivotPoints, signalSummary) ←
    calls.technicalAnalysis ctx.ohlcv ctx.pivotCandle
  let longTermTrend ← calls.buildLongTermTrend (bundle.get .w1)
  return { ctx with indicators, movingAverages, pivotPoints, signalSummary, longTermTrend }

/-- `_step_multi_timeframe_pattern_recognition`. -/
def stepMultiTimeframePatternRecognition (bundle : MultiTimeframeFetchBundle)
    (mainPatterns : List PatternDetection) : List DataTimeframe → Call (List PatternDetection)
  | [] => .ok []
  | dataTimeframe :: rest => do
    let found ← match dataTimeframe.toPublic with
      | none => .ok []
      | some publicTimeframe =>
        if bundle.get dataTimeframe = [] then .ok []
        else if publicTimeframe = p.timeframe then .ok mainPatterns
        else calls.patternRecognition (bundle.get dataTimeframe) publicTimeframe
    return found ++ (← stepMultiTimeframePatternRecognition bundle mainPatterns rest)

/-- `_build_timeframe_context`. -/
def buildTimeframeContext : AnalysisTimeframeContext where
  pivotPointsTimeframe := .d1
  patternScannerTimeframes := p.timeframePlan.patternScannerTimeframes.filterMap (·.toPublic)

/-- The pattern recognition of step 3. -/
def patternBody (bundle : MultiTimeframeFetchBundle) (ctx : PipelineContext) :
    Call PipelineContext := do
  let patterns ← calls.patternRecognition ctx.ohlcv p.timeframe
  let scannerPatterns ← p.stepMultiTimeframePatternRecognition calls bundle patterns
    p.timeframePlan.patternScannerTimeframes
  let patternScannerResults ← calls.consolidatePatterns scannerPatterns
  return { ctx with
    patterns, patternScannerResults, timeframeContext := some p.buildTimeframeContext }

/-- `_step_fundamental_analysis`: a failed analysis is a missing one. -/
def stepFundamentalAnalysis (instrumentType : Option InstrumentType) :
    Call (Option FundamentalData) :=
  match instrumentType with
  | none => .ok none
  | some instrumentType =>
    Call.recover (some <$> calls.analyzeFundamentals instrumentType p.symbol) fun _ ↦ none

/-- The fundamental analysis of step 4. -/
def fundamentalBody (ctx : PipelineContext) : Call PipelineContext := do
  return { ctx with fundamental := ← p.stepFundamentalAnalysis calls ctx.instrumentType }

/-- The signal aggregation of step 5. -/
def aggregationBody (ctx : PipelineContext) : Call PipelineContext := do
  let aggregator : SignalAggregator :=
    { indicators := ctx.indicators
      movingAverages := ctx.movingAverages
      signalSummary := ctx.signalSummary
      patterns := ctx.patterns
      fundamental := ctx.fundamental }
  let score ← calls.calculateWeightedScore aggregator
  let direction ← calls.determineDirection score
  return { ctx with score, direction }

/-- `_persist_result`: a failed write is passed over. -/
def persistResult (report : Report) : PipelineM Report Unit := do
  .update (store (calls.persist report) fun _ ↦ .rowStored report)
  .call ((calls.persist report).result.recover fun _ ↦ ())

/-! #### The phases -/

/-- `_run_fetch_phase`; `none` when there are no candles. -/
def runFetchPhase (ctx : PipelineContext) : PipelineM Report (Option PipelineContext) := do
  updateStatus 0 pipelineSteps[0]
  let fetchBundle ← .call (p.stepFetchData calls)
  let ohlcv := fetchBundle.mainOhlcv
  completeStep pipelineSteps[0]
  if ohlcv = [] then
    fail noMarketData
    return none
  else
    let pivotCandle ← .call (calls.getPivotCandle (pivotSource fetchBundle ohlcv))
    return some { ctx with fetchBundle := some fetchBundle, ohlcv, pivotCandle }

/-- `_run_analysis_phase`. -/
def runAnalysisPhase (ctx : PipelineContext) : PipelineM Report PipelineContext := do
  updateStatus 1 pipelineSteps[1]
  match ctx.fetchBundle with
  | none =>
    fail noMarketData
    return ctx
  | some fetchBundle =>
    let ctx ← .call (technicalBody calls fetchBundle ctx)
    completeStep pipelineSteps[1]
    updateStatus 2 pipelineSteps[2]
    let ctx ← .call (p.patternBody calls fetchBundle ctx)
    completeStep pipelineSteps[2]
    updateStatus 3 pipelineSteps[3]
    let ctx ← .call (p.fundamentalBody calls ctx)
    completeStep pipelineSteps[3]
    return ctx

/-- `_run_aggregation_phase`. -/
def runAggregationPhase (ctx : PipelineContext) : PipelineM Report PipelineContext := do
  updateStatus 4 pipelineSteps[4]
  let ctx ← .call (aggregationBody calls ctx)
  completeStep pipelineSteps[4]
  return ctx

/-- `_run_report_phase`. -/
def runReportPhase (ctx : PipelineContext) : PipelineM Report Report := do
  updateStatus 5 pipelineSteps[5]
  let report ← .call (calls.buildReport ctx)
  completeStep pipelineSteps[5]
  persistResult calls report
  return report

/-- The phases after the fetch. -/
def runPhases (ctx : PipelineContext) : PipelineM Report Report := do
  let ctx ← p.runAnalysisPhase calls ctx
  let ctx ← runAggregationPhase calls ctx
  runReportPhase calls ctx

/-- The `try` block of `run`. -/
def runBody : PipelineM Report (Option Report) := do
  let instrumentType ← .call (calls.classifyInstrument p.symbol)
  match ← p.runFetchPhase calls
    { symbol := p.symbol, timeframe := p.timeframe, instrumentType } with
  | none => return none
  | some ctx => return some (← p.runPhases calls ctx)

/-- `run`; `none` on failure. -/
def run : PipelineM Report (Option Report) :=
  Stateful.handle (p.runBody calls) <| exceptException fun message ↦ do
    fail message
    return none

/-- The `try` block of `_run_pipeline`. -/
def runPipelineBody : PipelineM Report Unit := do
  match ← p.run calls with
  | some report =>
    .update (store (calls.cacheReport report) (.reportCached report))
    .call ((calls.cacheReport report).result.recover fun _ ↦ ())
    complete
  | none => fail noReport

/-- `_run_pipeline`. -/
def runPipeline : PipelineM Report Unit :=
  Stateful.handle (p.runPipelineBody calls) (exceptException fail)

/-- What an analysis does that others can see, from its creation on. -/
def effects : List (PipelineEffect Report) :=
  ((p.runPipeline calls).exec p.initial).2.log

/-! ### What the calls amount to -/

/-- The fetch phase without the status. -/
def fetchOutcome (ctx : PipelineContext) : Call (Option PipelineContext) := do
  let fetchBundle ← p.stepFetchData calls
  let ohlcv := fetchBundle.mainOhlcv
  if ohlcv = [] then
    return none
  else
    let pivotCandle ← calls.getPivotCandle (pivotSource fetchBundle ohlcv)
    return some { ctx with fetchBundle := some fetchBundle, ohlcv, pivotCandle }

/-- The analysis phase without the status. -/
def analysisOutcome (ctx : PipelineContext) : Call PipelineContext :=
  match ctx.fetchBundle with
  | none => .ok ctx
  | some fetchBundle => do
    let ctx ← technicalBody calls fetchBundle ctx
    let ctx ← p.patternBody calls fetchBundle ctx
    p.fundamentalBody calls ctx

/-- The phases after the fetch, up to the report. -/
def reportOutcome (ctx : PipelineContext) : Call Report := do
  let ctx ← p.analysisOutcome calls ctx
  let ctx ← aggregationBody calls ctx
  calls.buildReport ctx

/-- What becomes of a report when it is persisted. -/
def persistOutcome (report : Report) : Call Report := do
  (calls.persist report).result.recover fun _ ↦ ()
  return report

/-- The report the calls lead to; `none` when there are no candles. -/
def analyse : Call (Option Report) := do
  let instrumentType ← calls.classifyInstrument p.symbol
  match ← p.fetchOutcome calls { symbol := p.symbol, timeframe := p.timeframe, instrumentType } with
  | none => return none
  | some ctx => return some (← p.reportOutcome calls ctx)

end AnalysisPipeline

/-- Why an analysis fails: it has no candles, or a call raises. -/
def failureMessage {Report : Type} : Call (Option Report) → Option String
  | .ok none => some noMarketData
  | .error (.raised message) => some message
  | _ => none

end InvestmentAssistant
