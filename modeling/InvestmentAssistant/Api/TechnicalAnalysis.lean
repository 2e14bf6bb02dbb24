import InvestmentAssistant.Api.CandleRequests
import InvestmentAssistant.Core.InstrumentClassifier
import InvestmentAssistant.TechnicalAnalysis.Indicators

/-!
# The technical analysis endpoint

`runTechnicalAnalysis` answers a request for the indicators of a symbol. The pipeline has the same
calculations in its second step, where whatever raises gives way to an empty result; the endpoint
lets the exception of an indicator or of an average through. It looks for the daily candle of the
pivot points on its own, and a failure of that fetch gives way to the last candle.

When the endpoint answers, it answers with what the step of the pipeline computes, and it fails only
where the library below the indicators or the averages raises, since no rating does
(`runTechnicalAnalysis_agrees`).
-/

namespace InvestmentAssistant

/-- `TechnicalAnalysisRequest`. -/
structure TechnicalAnalysisRequest where
  symbol : String
  timeframe : Timeframe := .h1
  period : String := "90d"
  preset : IndicatorPreset := .investing

/-- `TechnicalAnalysisResponse`. -/
structure TechnicalAnalysisResponse where
  symbol : String
  timeframe : Timeframe
  indicators : List IndicatorValue
  movingAverages : List MovingAverage
  pivotPoints : List PivotPoints
  summary : SignalSummary

namespace TechnicalAnalysisRequest

variable (body : TechnicalAnalysisRequest) (chain : List DataProvider)

/-- What is asked of the provider chain. -/
def candles : CandleRequest :=
  ⟨body.symbol, body.timeframe, body.period⟩

/-- The candle of the pivot points; an exception of the fetch is logged. -/
def pivotCandle (ohlcv : List OHLCVData) : Option OHLCVData :=
  if body.timeframe = .d1 then getPivotCandle ohlcv
  else
    match (CandleRequest.fetch ⟨body.symbol, .d1, "5d"⟩ chain).result with
    | .ok daily => getPivotCandle daily
    | .error _ => none

end TechnicalAnalysisRequest

/-- The candle the pivot points are computed of: without one of its own, the last candle. -/
def pivotOrLast (pivotCandle : Option OHLCVData) (ohlcv : List OHLCVData) :
    Except PyException OHLCVData :=
  match pivotCandle with
  | some candle => .ok candle
  | none => lastItem ohlcv

variable (ta : PandasTa)

/-- `run_technical_analysis`, from the indicators on. -/
def technicalAnalysisOver (body : TechnicalAnalysisRequest) (chain : List DataProvider)
    (ohlcv : List OHLCVData) : Except PyException TechnicalAnalysisResponse := do
  let params ← getPresetParams body.preset
  let indicators ← calculateIndicators ta ohlcv params
  let movingAvgs ← calculateMovingAverages ta ohlcv
  let candle ← pivotOrLast (body.pivotCandle chain ohlcv) ohlcv
  let pivots := calculatePivotPoints candle.high candle.low candle.close candle.open_
  return {
    symbol := upper body.symbol
    timeframe := body.timeframe
    indicators := indicators
    movingAverages := movingAvgs
    pivotPoints := pivots
    summary := calculateSummaries indicators movingAvgs }

/-- `run_technical_analysis`. -/
def runTechnicalAnalysis (chain : List DataProvider) (body : TechnicalAnalysisRequest) :
    Except PyException TechnicalAnalysisResponse :=
  withCandles body.candles chain (technicalAnalysisOver ta body chain)

/-! ### The two copies -/

/-- The exception that the indicators or the averages raise over a series. -/
def Raises (preset : IndicatorPreset) (ohlcv : List OHLCVData) (e : PyException) : Prop :=
  ∃ params, getPresetParams preset = .ok params ∧
    (calculateIndicators ta ohlcv params = .error e ∨
      (∃ indicators, calculateIndicators ta ohlcv params = .ok indicators) ∧
        calculateMovingAverages ta ohlcv = .error e)

/-- The response is what the step of the pipeline computes over the same candles. -/
structure AnswersAsPipeline (chain : List DataProvider) (body : TechnicalAnalysisRequest)
    (ohlcv : List OHLCVData) (response : TechnicalAnalysisResponse) : Prop where
  symbol_eq : response.symbol = upper body.symbol
  timeframe_eq : response.timeframe = body.timeframe
  computed : (technicalCalls ta).stepTechnicalAnalysis body.preset ohlcv
      (body.pivotCandle chain ohlcv) =
    .ok (response.indicators, response.movingAverages, response.pivotPoints, some response.summary)

section Agreement

variable {ta} {chain : List DataProvider} {body : TechnicalAnalysisRequest}
  {ohlcv : List OHLCVData} {last : OHLCVData}

variable (ta) in
/-- Over candles there are pivot points, and they are those of the pipeline. -/
theorem exists_pivotOrLast (hlast : ohlcv.getLast? = some last) (pivotCandle : Option OHLCVData) :
    ∃ candle, pivotOrLast pivotCandle ohlcv = .ok candle ∧
      (technicalCalls ta).pivotPoints ohlcv pivotCandle =
        .ok (calculatePivotPoints candle.high candle.low candle.close candle.open_) := by
  cases pivotCandle with
  | some candle => exact ⟨candle, rfl, rfl⟩
  | none =>
    have hitem : lastItem ohlcv = .ok last := lastItem_eq_ok_iff.2 hlast
    refine ⟨last, hitem, ?_⟩
    rw [TechnicalCalls.pivotPoints, hitem]
    rfl

/-- **Over candles the endpoint computes what the pipeline computes**, or raises. -/
theorem technicalAnalysisOver_cases (hlast : ohlcv.getLast? = some last) :
    (∃ e, technicalAnalysisOver ta body chain ohlcv = .error e ∧
      ∀ e', Raises ta body.preset ohlcv e' ↔ e' = e) ∨
    ∃ response, technicalAnalysisOver ta body chain ohlcv = .ok response ∧
      (∀ e, ¬ Raises ta body.preset ohlcv e) ∧ AnswersAsPipeline ta chain body ohlcv response := by
  obtain ⟨params, hparams⟩ := exists_getPresetParams body.preset
  obtain ⟨candle, hcandle, hpivots⟩ := exists_pivotOrLast ta hlast
    (body.pivotCandle chain ohlcv)
  rcases hindicators : calculateIndicators ta ohlcv params with e | indicators
  · refine .inl ⟨e, ?_, fun e' ↦ ?_⟩
    · rw [technicalAnalysisOver, hparams]
      show calculateIndicators ta ohlcv params >>= _ = _
      rw [hindicators]
      rfl
    · simp [Raises, hparams, hindicators, eq_comm]
  rcases haverages : calculateMovingAverages ta ohlcv with e | averages
  · refine .inl ⟨e, ?_, fun e' ↦ ?_⟩
    · rw [technicalAnalysisOver, hparams]
      show calculateIndicators ta ohlcv params >>= _ = _
      rw [hindicators, haverages]
      rfl
    · simp [Raises, hparams, hindicators, haverages, eq_comm]
  · refine .inr ⟨⟨upper body.symbol, body.timeframe, indicators, averages,
      calculatePivotPoints candle.high candle.low candle.close candle.open_,
      calculateSummaries indicators averages⟩, ?_, fun e ↦ ?_, rfl, rfl, ?_⟩
    · rw [technicalAnalysisOver, hparams]
      show calculateIndicators ta ohlcv params >>= _ = _
      rw [hindicators, haverages, hcandle]
      rfl
    · simp [Raises, hparams, hindicators, haverages]
    · have hindicators' : (technicalCalls ta).calculateIndicators ohlcv params = .ok indicators :=
        hindicators
      have haverages' : (technicalCalls ta).calculateMovingAverages ohlcv = .ok averages :=
          haverages
      rw [TechnicalCalls.stepTechnicalAnalysis, hparams]
      show Except.ok (_, _, _, _) = _
      rw [hindicators', haverages', hpivots]
      rfl

/-- **The endpoint and the pipeline.** A request fails when it is refused, or when the indicators or
the averages raise over its candles; otherwise the endpoint answers with what the technical analysis
of the pipeline computes over them. No rating raises: over any series, the indicators raise what a
read from the library raises, and nothing else. -/
theorem runTechnicalAnalysis_agrees (ta : PandasTa) (chain : List DataProvider)
    (body : TechnicalAnalysisRequest) :
    (∀ e, runTechnicalAnalysis ta chain body = .error e ↔
      RefusesCandles body.candles chain e ∨
        ∃ ohlcv, GetsCandles body.candles chain ohlcv ∧ Raises ta body.preset ohlcv e) ∧
    (∀ response, runTechnicalAnalysis ta chain body = .ok response →
      ∃ ohlcv, GetsCandles body.candles chain ohlcv ∧
        AnswersAsPipeline ta chain body ohlcv response) ∧
    ∀ ohlcv params,
      (2 ≤ ohlcv.length →
        calculateIndicators ta ohlcv params = (readTa ta ohlcv params).map (rateReadings params)) ∧
      ∀ e, calculateIndicators ta ohlcv params = .error e ↔
        2 ≤ ohlcv.length ∧ readTa ta ohlcv params = .error e := by
  have hover {ohlcv : List OHLCVData} (h : GetsCandles body.candles chain ohlcv) :
      (∃ e, technicalAnalysisOver ta body chain ohlcv = .error e ∧
        ∀ e', Raises ta body.preset ohlcv e' ↔ e' = e) ∨
      ∃ response, technicalAnalysisOver ta body chain ohlcv = .ok response ∧
        (∀ e, ¬ Raises ta body.preset ohlcv e) ∧
        AnswersAsPipeline ta chain body ohlcv response :=
    technicalAnalysisOver_cases (List.getLast?_eq_some_getLast h.ne_nil)
  refine ⟨?_, ?_, fun ohlcv params ↦ ⟨calculateIndicators_eq ta params, fun e ↦ ?_⟩⟩
  · intro e
    rw [runTechnicalAnalysis, withCandles_eq_error_iff]
    refine or_congr_right (exists_congr fun ohlcv ↦ and_congr_right fun hgets ↦ ?_)
    rcases hover hgets with ⟨e', herror, hraises⟩ | ⟨response, hresponse, hnone, -⟩
    · rw [herror, hraises, Except.error.injEq, eq_comm]
    · rw [hresponse]
      exact iff_of_false (by simp) (hnone e)
  · intro response h
    obtain ⟨ohlcv, hgets, h⟩ := withCandles_eq_ok_iff.1 h
    rcases hover hgets with ⟨e', herror, -⟩ | ⟨response', hresponse, -, hanswers⟩
    · rw [herror] at h
      cases h
    · obtain rfl := Except.ok.inj (hresponse.symm.trans h)
      exact ⟨ohlcv, hgets, hanswers⟩
  · exact calculateIndicators_eq_error_iff

end Agreement

end InvestmentAssistant
