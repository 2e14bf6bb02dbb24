import InvestmentAssistant.Api.CandleRequests
import InvestmentAssistant.Core.InstrumentClassifier
import InvestmentAssistant.PatternRecognition.PatternStep

/-!
# The pattern endpoint

`detectPatterns` answers a request for the patterns of a symbol. It has its own copy of the pattern
recognition of the pipeline: the same detectors in another order, the same dating and the same two
passes, but the patterns keep the time frame their detector gave them, and a detector that raises is
named in a warning.

The copies agree: with the time frames left out, the endpoint reports the patterns of the pipeline
(`detectPatterns_agrees`). Only patterns of equal relevance may change places.
-/

namespace InvestmentAssistant

/-- `PatternsRequest`. -/
structure PatternsRequest where
  symbol : String
  timeframe : Timeframe := .h1
  period : String := "180d"

/-- `PatternsResponse`. -/
structure PatternsResponse where
  symbol : String
  timeframe : Timeframe
  patterns : List PatternDetection
  warnings : List String := []

/-- A detector of the endpoint, with the name its warning gives. -/
abbrev NamedDetector := String × (List OHLCVData → Except PyException (List PatternDetection))

/-- `detectors`, in the order the endpoint runs them. -/
def PatternCalls.namedDetectors (calls : PatternCalls) : List NamedDetector :=
  [("candlestick", calls.detectCandlestickPatterns),
    ("support_resistance", calls.detectSupportResistance),
    ("fibonacci", calls.calculateFibonacciLevels), ("iki", calls.detectIkiPattern),
    ("chart_patterns", calls.detectChartPatterns)]

variable (typeName : PyException → String)

/-- The loop over the detectors, with the patterns and the warnings so far; `typeName` is the name
of an exception's class. -/
def runDetectors (ohlcv : List OHLCVData) :
    List NamedDetector → List PatternDetection → List String →
      List PatternDetection × List String
  | [], patterns, warnings => (patterns, warnings)
  | (detectorName, detectorFn) :: rest, patterns, warnings =>
    match detectorFn ohlcv with
    | .ok found => runDetectors ohlcv rest (patterns ++ found) warnings
    | .error exc =>
      runDetectors ohlcv rest patterns (warnings ++ [s!"{detectorName}: {typeName exc}"])

/-- Date a pattern by its candle, as the pipeline does; its time frame stays as it is. -/
def dateDetection (ohlcv : List OHLCVData) (p : PatternDetection) :
    Except PyException PatternDetection := do
  let lastIndex : ℤ := ohlcv.length - 1
  let idx := max 0 (min (p.detectedAtIndex.getD lastIndex) lastIndex)
  let candle ← itemAt ohlcv idx.toNat
  return { p with detectedAtTimestamp := candle.timestamp.isoformat }

/-- `detect_patterns`, from the detectors on. -/
def patternsOver (calls : PatternCalls) (body : PatternsRequest) (ohlcv : List OHLCVData) :
    Except PyException PatternsResponse := do
  let detected := runDetectors typeName ohlcv calls.namedDetectors [] []
  let patterns ← detected.1.mapM (dateDetection ohlcv)
  let targeted := calls.calculateTargetPrices patterns ohlcv
  targeted.result
  let last ← lastItem ohlcv
  -- an exception of `score_patterns` is logged
  let scored := (calls.scorePatterns targeted.patterns ohlcv.length last.close).patterns
  return {
    symbol := upper body.symbol
    timeframe := body.timeframe
    patterns := sortByRelevance scored
    warnings := detected.2 }

/-- What is asked of the provider chain. -/
def PatternsRequest.candles (body : PatternsRequest) : CandleRequest :=
  ⟨body.symbol, body.timeframe, body.period⟩

/-- `detect_patterns`. -/
def detectPatterns (calls : PatternCalls) (chain : List DataProvider) (body : PatternsRequest) :
    Except PyException PatternsResponse :=
  withCandles body.candles chain (patternsOver typeName calls body)

/-! ### The detectors -/

/-- The warning of a detector, when it raises. -/
def warningOf (ohlcv : List OHLCVData) (d : NamedDetector) : Option String :=
  match d.2 ohlcv with
  | .ok _ => none
  | .error exc => some s!"{d.1}: {typeName exc}"

/-- What a detector finds; one that raises finds nothing. -/
def foundByDetector (ohlcv : List OHLCVData)
    (detector : List OHLCVData → Except PyException (List PatternDetection)) :
    List PatternDetection :=
  match detector ohlcv with
  | .ok found => found
  | .error _ => []

theorem runDetectors_eq (ohlcv : List OHLCVData) (detectors : List NamedDetector)
    (patterns : List PatternDetection) (warnings : List String) :
    runDetectors typeName ohlcv detectors patterns warnings =
      (patterns ++ detectors.flatMap fun d ↦ foundByDetector ohlcv d.2,
        warnings ++ detectors.filterMap (warningOf typeName ohlcv)) := by
  induction detectors generalizing patterns warnings with
  | nil => rw [runDetectors, List.flatMap_nil, List.filterMap_nil, List.append_nil, List.append_nil]
  | cons d rest ih =>
    obtain ⟨name, detector⟩ := d
    rw [runDetectors, List.flatMap_cons]
    rcases hresult : detector ohlcv with exc | found
    · have hwarning : warningOf typeName ohlcv (name, detector) =
          some s!"{name}: {typeName exc}" := by
        simp only [warningOf, hresult]
      have hfound : foundByDetector ohlcv detector = [] := by rw [foundByDetector, hresult]
      dsimp only
      rw [ih, List.filterMap_cons_some hwarning, hfound, List.nil_append, List.append_assoc]
      rfl
    · have hwarning : warningOf typeName ohlcv (name, detector) = none := by
        simp only [warningOf, hresult]
      have hfound : foundByDetector ohlcv detector = found := by rw [foundByDetector, hresult]
      dsimp only
      rw [ih, List.filterMap_cons_none hwarning, hfound, List.append_assoc]

/-- The endpoint runs the detectors of the pipeline, the last two the other way around. -/
theorem namedDetectors_perm (calls : PatternCalls) :
    (calls.namedDetectors.map Prod.snd).Perm calls.detectors :=
  ((((List.Perm.swap _ _ _).cons _).cons _).cons _)

/-- So it finds what the pipeline finds. -/
theorem flatMap_foundByDetector_perm (calls : PatternCalls) (ohlcv : List OHLCVData) :
    (calls.namedDetectors.flatMap fun d ↦ foundByDetector ohlcv d.2).Perm (calls.detect ohlcv) := by
  have h := (namedDetectors_perm calls).flatMap_right (foundByDetector ohlcv)
  rwa [List.flatMap_map] at h

/-! ### The two copies -/

/-- A pattern without its time frame. -/
def withoutTimeframe (p : PatternDetection) : PatternDetection :=
  { p with timeframe := none }

/-- The response reports what the pipeline reports over the same candles. -/
structure AgreesWithPipeline (calls : PatternCalls) (body : PatternsRequest)
    (ohlcv : List OHLCVData) (response : PatternsResponse) : Prop where
  symbol_eq : response.symbol = upper body.symbol
  timeframe_eq : response.timeframe = body.timeframe
  /-- The patterns are those of the pipeline, up to the order of equally relevant ones. -/
  reported : ∀ timeframe, ∃ patterns, stepPatternRecognition calls ohlcv timeframe = .ok patterns ∧
    (response.patterns.map withoutTimeframe).Perm (patterns.map withoutTimeframe) ∧
    response.patterns.map (·.relevanceScore) = patterns.map (·.relevanceScore)
  /-- The detectors that raise are named, in their order. -/
  warnings_eq : response.warnings = calls.namedDetectors.filterMap (warningOf typeName ohlcv)

section Agreement

variable {typeName} {argrelextrema : Extrema} {polyfit : Polyfit} {talib : TaLib}
  {body : PatternsRequest} {ohlcv : List OHLCVData} {last : OHLCVData}

/-- Sorted by relevance, patterns that are the same up to their order have the same scores in the
same places. -/
theorem map_relevanceScore_eq {xs ys : List PatternDetection}
    (h : (xs.map withoutTimeframe).Perm (ys.map withoutTimeframe)) :
    (sortByRelevance xs).map (·.relevanceScore) = (sortByRelevance ys).map (·.relevanceScore) := by
  have hscores : (xs.map (·.relevanceScore)).Perm (ys.map (·.relevanceScore)) := by
    have h' := h.map (·.relevanceScore)
    rwa [List.map_map, List.map_map] at h'
  have hsorted (zs : List PatternDetection) :
      ((sortByRelevance zs).map (·.relevanceScore)).Pairwise (· ≥ ·) :=
    List.pairwise_map.2 (pairwise_sortByRelevance zs)
  have hperm (zs : List PatternDetection) :
      ((sortByRelevance zs).map (·.relevanceScore)).Perm (zs.map (·.relevanceScore)) :=
    (List.perm_insertionSort _ zs).map _
  exact ((hperm xs).trans (hscores.trans (hperm ys).symm)).eq_of_pairwise' (hsorted xs) (hsorted ys)

/-- **Over candles the endpoint answers**, and agrees with the pipeline. -/
theorem exists_patternsOver (hlast : ohlcv.getLast? = some last) :
    ∃ response,
      patternsOver typeName (patternCalls argrelextrema polyfit talib) body ohlcv = .ok response ∧
      AgreesWithPipeline typeName (patternCalls argrelextrema polyfit talib) body ohlcv
        response := by
  set calls := patternCalls argrelextrema polyfit talib
  set found := calls.namedDetectors.flatMap fun d ↦ foundByDetector ohlcv d.2 with hdef
  have hperm : found.Perm (calls.detect ohlcv) := flatMap_foundByDetector_perm calls ohlcv
  have hfound : ∀ p ∈ found, FoundAt ohlcv.length p :=
    fun p hp ↦ foundAt_of_mem_detect (hperm.mem_iff.1 hp)
  have hitem : lastItem ohlcv = .ok last := lastItem_eq_ok_iff.2 hlast
  have hlocated : found.mapM (dateDetection ohlcv) =
      .ok (found.map fun p ↦ datePattern ohlcv p.timeframe p) :=
    mapM_locatePattern _ hfound
  have htargets : (calculateTargetPrices (found.map fun p ↦ datePattern ohlcv p.timeframe p)
      ohlcv).result = .ok () := by rw [calculateTargetPrices, hlast]
  have hscored := @patterns_scorePatterns _ _ found hlast fun p ↦ p.timeframe
  have hsame (timeframe : Option Timeframe) :
      ((found.map fun p ↦ reportPattern ohlcv p.timeframe last p).map withoutTimeframe).Perm
        (((calls.detect ohlcv).map (reportPattern ohlcv timeframe last)).map withoutTimeframe) := by
    rw [List.map_map, List.map_map]
    exact hperm.map (reportPattern ohlcv none last)
  refine ⟨⟨upper body.symbol, body.timeframe,
    sortByRelevance (found.map fun p ↦ reportPattern ohlcv p.timeframe last p),
    calls.namedDetectors.filterMap (warningOf typeName ohlcv)⟩, ?_, rfl, rfl, ?_, rfl⟩
  · rw [patternsOver, runDetectors_eq, List.nil_append, List.nil_append, ← hdef, hlocated, hitem,
      ← hscored]
    show (calculateTargetPrices _ ohlcv).result >>= _ = _
    rw [htargets]
    rfl
  · intro timeframe
    refine ⟨_, rankPatterns_eq argrelextrema polyfit talib hlast
      fun p hp ↦ foundAt_of_mem_detect hp, ?_, map_relevanceScore_eq (hsame timeframe)⟩
    have hsorted (zs : List PatternDetection) :
        ((sortByRelevance zs).map withoutTimeframe).Perm (zs.map withoutTimeframe) :=
      (List.perm_insertionSort _ zs).map _
    exact (hsorted _).trans ((hsame timeframe).trans (hsorted _).symm)

/-- **The endpoint and the pipeline.** A request is refused for its symbol, for its period, or
because every provider failed; otherwise the endpoint answers with what pattern recognition of the
pipeline reports over the candles of the chain, naming the detectors that raised. -/
theorem detectPatterns_agrees (typeName : PyException → String) (argrelextrema : Extrema)
    (polyfit : Polyfit) (talib : TaLib) (chain : List DataProvider) (body : PatternsRequest) :
    (∀ e, detectPatterns typeName (patternCalls argrelextrema polyfit talib) chain body =
      .error e ↔ RefusesCandles body.candles chain e) ∧
    ∀ response,
      detectPatterns typeName (patternCalls argrelextrema polyfit talib) chain body =
          .ok response →
        ∃ ohlcv, GetsCandles body.candles chain ohlcv ∧
          AgreesWithPipeline typeName (patternCalls argrelextrema polyfit talib) body ohlcv
            response := by
  have hover {ohlcv : List OHLCVData} (h : GetsCandles body.candles chain ohlcv) :
      ∃ response,
        patternsOver typeName (patternCalls argrelextrema polyfit talib) body ohlcv =
          .ok response ∧
        AgreesWithPipeline typeName (patternCalls argrelextrema polyfit talib) body ohlcv
          response :=
    exists_patternsOver (List.getLast?_eq_some_getLast h.ne_nil)
  constructor
  · intro e
    rw [detectPatterns, withCandles_eq_error_iff, or_iff_left]
    rintro ⟨ohlcv, hgets, h⟩
    obtain ⟨response, hresponse, -⟩ := hover hgets
    rw [hresponse] at h
    cases h
  · intro response h
    obtain ⟨ohlcv, hgets, h⟩ := withCandles_eq_ok_iff.1 h
    obtain ⟨response', hresponse, hagrees⟩ := hover hgets
    obtain rfl := Except.ok.inj (hresponse.symm.trans h)
    exact ⟨ohlcv, hgets, hagrees⟩

end Agreement

end InvestmentAssistant
