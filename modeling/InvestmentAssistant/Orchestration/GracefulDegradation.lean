import InvestmentAssistant.Orchestration.AnalysisSteps
import InvestmentAssistant.Orchestration.StatusTrace

/-!
# Graceful degradation

Each step of an analysis returns whatever its components do: a component that raises leaves an empty
or a missing result, the later steps take any such result, and only the steps on candles need some
candles. So an analysis whose main time frame has candles delivers a report, with all steps
completed (`run_delivers_report`).
-/

namespace InvestmentAssistant

namespace AnalysisComponents

variable (c : AnalysisComponents) (p : AnalysisPipeline) {bundle : MultiTimeframeFetchBundle}
  {ctx : PipelineContext}

/-! ### The steps -/

/-- A step that returns is a call that returns. -/
theorem delivers_raising {α : Type} {o : Except PyException α} (h : ∃ a, o = .ok a) :
    Delivers (c.raising o) fun _ ↦ True := by
  obtain ⟨a, rfl⟩ := h
  exact .ok trivial

/-- A call whose exceptions give way to a default returns. -/
theorem delivers_recover_raising {α : Type} (o : Except PyException α) (default : String → α) :
    Delivers ((c.raising o).recover default) fun _ ↦ True := by
  cases o <;> exact .ok trivial

/-- The technical analysis leaves the candles as they are. -/
theorem delivers_technicalBody (bundle : MultiTimeframeFetchBundle) (ctx : PipelineContext) :
    Delivers (AnalysisPipeline.technicalBody c.calls bundle ctx)
      fun ctx' ↦ ctx'.ohlcv = ctx.ohlcv := by
  refine (c.delivers_raising (c.technical.exists_stepTechnicalAnalysis ..)).bind_any
    fun results ↦ ?_
  refine (c.delivers_raising (c.weekly.exists_buildLongTermTrend ..)).bind_any fun trend ↦ ?_
  exact .ok rfl

/-- Pattern recognition on a series with candles. -/
theorem delivers_patternRecognition {ohlcv : List OHLCVData} (h : ohlcv ≠ [])
    (timeframe : Timeframe) : Delivers (c.calls.patternRecognition ohlcv timeframe) fun _ ↦ True :=
  c.delivers_raising (exists_stepPatternRecognition _ h _)

/-- The scanner passes over the time frames without candles. -/
theorem delivers_scanner (bundle : MultiTimeframeFetchBundle) (mainPatterns : List PatternDetection)
    (timeframes : List DataTimeframe) :
    Delivers (p.stepMultiTimeframePatternRecognition c.calls bundle mainPatterns timeframes)
      fun _ ↦ True := by
  induction timeframes with
  | nil => exact .ok trivial
  | cons dataTimeframe rest ih =>
    rw [AnalysisPipeline.stepMultiTimeframePatternRecognition]
    have hrest (found : List PatternDetection) :
        Delivers (do return found ++ (← p.stepMultiTimeframePatternRecognition c.calls bundle
          mainPatterns rest) : Call (List PatternDetection)) fun _ ↦ True :=
      ih.bind_any fun others ↦ .ok trivial
    split
    · exact hrest []
    split
    · exact hrest []
    split
    · exact hrest mainPatterns
    · next hcandles _ => exact (c.delivers_patternRecognition hcandles _).bind_any hrest

/-- The pattern recognition of a context with candles. -/
theorem delivers_patternBody (hctx : ctx.ohlcv ≠ []) :
    Delivers (p.patternBody c.calls bundle ctx) fun _ ↦ True := by
  refine (c.delivers_patternRecognition hctx p.timeframe).bind_any fun patterns ↦ ?_
  refine (c.delivers_scanner p bundle patterns _).bind_any fun scannerPatterns ↦ ?_
  exact .ok trivial

/-- The fundamental analysis, of any instrument or none. -/
theorem delivers_fundamentalBody (ctx : PipelineContext) :
    Delivers (p.fundamentalBody c.calls ctx) fun _ ↦ True := by
  refine Delivers.bind_any ?_ fun fundamental ↦ ?_
  · cases ctx.instrumentType with
    | none => exact .ok trivial
    | some instrumentType =>
      show Delivers (Call.recover
        (some <$> c.raising (c.analyzeFundamentals instrumentType p.symbol))
        _) _
      cases c.analyzeFundamentals instrumentType p.symbol <;> exact .ok trivial
  · exact .ok trivial

/-- The report of any context. -/
theorem delivers_buildReport (ctx : PipelineContext) :
    Delivers (c.calls.buildReport ctx) fun _ ↦ True :=
  c.delivers_raising (exists_buildReport ..)

/-! ### The analysis -/

/-- The phases after the fetch, of a context with candles. -/
theorem delivers_reportOutcome (hbundle : ctx.fetchBundle = some bundle) (hctx : ctx.ohlcv ≠ []) :
    Delivers (p.reportOutcome c.calls ctx) fun _ ↦ True := by
  rw [AnalysisPipeline.reportOutcome, AnalysisPipeline.analysisOutcome, hbundle]
  refine Delivers.bind_any ?_ fun ctx ↦ ?_
  · refine (c.delivers_technicalBody bundle ctx).bind fun ctx' hohlcv ↦ ?_
    rw [← hohlcv] at hctx
    exact (c.delivers_patternBody p hctx).bind_any fun ctx ↦ c.delivers_fundamentalBody p ctx
  · -- aggregation takes whatever it is given
    refine Delivers.bind_any (.ok trivial) fun ctx ↦ ?_
    exact c.delivers_buildReport ctx

/-- The fetch phase keeps a bundle with candles. -/
theorem delivers_fetchOutcome (hfetch : c.fetch p.symbol p.timeframePlan = .ok bundle)
    (hcandles : bundle.mainOhlcv ≠ []) (ctx : PipelineContext) :
    Delivers (p.fetchOutcome c.calls ctx) fun found ↦
      ∃ ctx', found = some ctx' ∧ ctx'.fetchBundle = some bundle ∧ ctx'.ohlcv ≠ [] := by
  have hstep : p.stepFetchData c.calls = .ok bundle := by
    show Call.recover (c.fetch p.symbol p.timeframePlan) _ = _
    rw [hfetch]
    rfl
  rw [AnalysisPipeline.fetchOutcome, hstep]
  dsimp only [bind, Except.bind]
  rw [if_neg hcandles]
  exact .ok ⟨_, rfl, rfl, hcandles⟩

/-- **An analysis with candles comes to a report.** -/
theorem delivers_analyse (hfetch : c.fetch p.symbol p.timeframePlan = .ok bundle)
    (hcandles : bundle.mainOhlcv ≠ []) :
    Delivers (p.analyse c.calls) fun found ↦ found ≠ none := by
  refine Delivers.bind_any (.ok trivial) fun instrumentType ↦ ?_
  refine (c.delivers_fetchOutcome p hfetch hcandles _).bind ?_
  rintro found ⟨ctx, rfl, hbundle, hctx⟩
  exact (c.delivers_reportOutcome p hbundle hctx).bind_any fun report ↦ .ok (Option.some_ne_none _)

/-- Persisting a report cannot keep it from being returned. -/
theorem finishOutcome_calls (found : Option AnalysisReport) :
    AnalysisPipeline.finishOutcome c.calls found = .ok found := by
  cases found with
  | none => rfl
  | some report =>
    show (AnalysisPipeline.persistOutcome c.calls report >>= fun r ↦ .ok (some r)) = _
    obtain ⟨u, hpersist, -⟩ := c.delivers_recover_raising (c.persist report) fun _ ↦ ()
    rw [AnalysisPipeline.persistOutcome]
    show (Call.recover (c.raising (c.persist report)) _ >>= _) >>= _ = _
    rw [hpersist]
    rfl

/-- **Graceful degradation.** For every analysis and whatever its components return or raise, if the
fetch brings candles of the main time frame, `run` returns a report, and the last status it
published has all six steps completed. -/
theorem run_delivers_report (hfetch : c.fetch p.symbol p.timeframePlan = .ok bundle)
    (hcandles : bundle.mainOhlcv ≠ []) :
    ∃ report s, (p.run c.calls).exec p.initial = (.ok (some report), s) ∧
      s.status ∈ statuses s.log ∧ s.status.stepsCompleted = pipelineSteps := by
  obtain ⟨found, hanalyse, hfound⟩ := c.delivers_analyse p hfetch hcandles
  obtain ⟨report, rfl⟩ := Option.ne_none_iff_exists'.1 hfound
  have houtcome : p.runOutcome c.calls = .ok (some report) := by
    rw [AnalysisPipeline.runOutcome, hanalyse]
    show tryCatch (AnalysisPipeline.finishOutcome c.calls (some report)) _ = _
    rw [finishOutcome_calls]
    rfl
  have hrun : Realizes (Ongoing (fun _ ↦ True) 0) (p.run c.calls) (p.runOutcome c.calls)
      (p.RunReturnsAt c.calls fun _ ↦ True) (p.RunCancelledAt c.calls fun _ ↦ True) :=
    p.realizes_run c.calls fun _ _ ↦ trivial
  rw [houtcome] at hrun
  obtain ⟨s, hexec, -, hs⟩ := hrun.exec_of_ok p.ongoing_initial
  exact ⟨report, s, hexec, hs.mem, hs.steps⟩

/-- Nothing but the fetch returns, and it brings one candle. -/
def allFailing : AnalysisComponents where
  text _ := "boom"
  classifyInstrument _ := some .forex
  fetch _ plan := .ok
    { mainTimeframe := plan.mainTimeframe
      candlesByTimeframe :=
        Table.put ∅ plan.mainTimeframe (some [⟨⟨0, some 0⟩, 1, 1.2, 0.9, 1.1, 0⟩]) }
  preset := .investing
  technical :=
    { calculateIndicators := fun _ _ ↦ .error (.other "indicators")
      calculateMovingAverages := fun _ ↦ .error (.other "moving averages")
      calculatePivotPoints := fun _ _ _ _ ↦ .error (.other "pivot points")
      calculateSummaries := fun _ _ ↦ .error (.other "summary") }
  weekly :=
    { calculateIndicators := fun _ _ ↦ .error (.other "indicators")
      calculateMovingAverages := fun _ ↦ .error (.other "moving averages")
      calculatePivotPoints := fun _ _ _ _ ↦ .error (.other "pivot points")
      calculateSummaries := fun _ _ ↦ .error (.other "summary") }
  patterns _ :=
    { detectCandlestickPatterns := fun _ ↦ .error (.other "candlestick")
      detectSupportResistance := fun _ ↦ .error (.other "support")
      calculateFibonacciLevels := fun _ ↦ .error (.other "fibonacci")
      detectChartPatterns := fun _ ↦ .error (.other "chart")
      detectIkiPattern := fun _ ↦ .error (.other "iki")
      calculateTargetPrices := fun patterns _ ↦ ⟨patterns, .error (.other "target prices")⟩
      scorePatterns := fun patterns _ _ ↦ ⟨patterns, .error (.other "scores")⟩ }
  analyzeFundamentals _ _ := .error (.other "fundamentals")
  now := ⟨0, some 0⟩
  rowCommitted _ := false
  persist _ := .error (.other "database")
  cacheReport _ := { effect := none, result := .ok () }

theorem run_delivers_report_allFailing :
    let p : AnalysisPipeline := { analysisId := "a", symbol := "EUR/USD", timeframe := .h1 }
    ∃ report s, (p.run allFailing.calls).exec p.initial = (.ok (some report), s) ∧
      s.status ∈ statuses s.log ∧ s.status.stepsCompleted = pipelineSteps :=
  run_delivers_report allFailing { analysisId := "a", symbol := "EUR/USD", timeframe := .h1 } rfl
    (by decide +kernel)

end AnalysisComponents

end InvestmentAssistant
