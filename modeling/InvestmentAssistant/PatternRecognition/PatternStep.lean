import InvestmentAssistant.PatternRecognition.Candlestick
import InvestmentAssistant.PatternRecognition.ChartPatternImpulse
import InvestmentAssistant.PatternRecognition.Fibonacci
import InvestmentAssistant.PatternRecognition.IkiDetection
import InvestmentAssistant.PatternRecognition.RelevanceBounds
import InvestmentAssistant.PatternRecognition.SupportResistance
import InvestmentAssistant.PatternRecognition.SwingPoints

/-!
# The five detectors together

`patternCalls` are the functions that pattern recognition really calls. Each detector reports its
patterns at a candle of the series (`FoundAt`), whatever the third-party functions below it return,
so the clamps of the two passes that follow have nothing to do: a pattern is dated by its own
candle, and its score is what `score_patterns` computes, before any clamp
(`stepPatternRecognition_spec`).
-/

namespace InvestmentAssistant

open Decimal

/-- The functions that `_step_pattern_recognition` calls. -/
def patternCalls (argrelextrema : Extrema) (polyfit : Polyfit) (talib : TaLib) : PatternCalls where
  detectCandlestickPatterns := detectCandlestickPatterns talib
  detectSupportResistance ohlcv := detectSupportResistance argrelextrema ohlcv
  calculateFibonacciLevels ohlcv := calculateFibonacciLevels argrelextrema ohlcv
  detectChartPatterns ohlcv := detectChartPatterns argrelextrema polyfit ohlcv
  detectIkiPattern ohlcv := detectIkiPattern ohlcv
  calculateTargetPrices := calculateTargetPrices
  scorePatterns patterns totalCandles := scorePatterns patterns totalCandles

/-! ### Where patterns are found -/

/-- A pattern was found at one of the candles. -/
def FoundAt (totalCandles : ℕ) (p : PatternDetection) : Prop :=
  ∃ i : ℕ, i < totalCandles ∧ p.detectedAtIndex = some (i : ℤ)

theorem FoundAt.foundWithin {totalCandles : ℕ} {p : PatternDetection} (h : FoundAt totalCandles p) :
    FoundWithin totalCandles p := by
  obtain ⟨i, hi, hindex⟩ := h
  intro j hj
  obtain rfl : (i : ℤ) = j := Option.some.inj (hindex.symm.trans hj)
  omega

section Detectors

variable {argrelextrema : Extrema} {polyfit : Polyfit} {talib : TaLib} {ohlcv : List OHLCVData}
  {patterns : List PatternDetection} {p : PatternDetection}

theorem foundAt_of_candlestick (h : detectCandlestickPatterns talib ohlcv = .ok patterns)
    (hp : p ∈ patterns) : FoundAt ohlcv.length p := by
  obtain ⟨detections, hdetections, rfl⟩ := exists_of_map_eq_ok h
  obtain ⟨d, hd, rfl⟩ := List.mem_map.1 hp
  rw [candlestickDetections] at hdetections
  split at hdetections
  · cases hdetections
    exact absurd hd List.not_mem_nil
  · obtain ⟨scan, hscan, hresult⟩ := bind_eq_ok_iff.1 hdetections
    obtain rfl := Except.ok.inj hresult
    refine foldlM_induction (P := fun scan : CandlestickScan ↦
      ∀ d ∈ scan.results, FoundAt ohlcv.length d.pattern) ?_ (fun _ h ↦ absurd h List.not_mem_nil)
      hscan d hd
    intro before m _ after hbefore hafter
    obtain ⟨signal, -, hafter⟩ := bind_eq_ok_iff.1 hafter
    refine foldlM_induction (P := fun scan : CandlestickScan ↦
      ∀ d ∈ scan.results, FoundAt ohlcv.length d.pattern) ?_ hbefore hafter
    intro before idx hidx after hbefore hafter
    obtain ⟨rawValue, -, hafter⟩ := bind_eq_ok_iff.1 hafter
    split at hafter
    · exact Except.ok.inj hafter ▸ hbefore
    · split at hafter
      · exact Except.ok.inj hafter ▸ hbefore
      · obtain rfl := Except.ok.inj hafter
        intro d hd
        rcases List.mem_append.1 hd with hd | hd
        · exact hbefore d hd
        · obtain rfl := List.mem_singleton.1 hd
          have hlt := List.mem_range'_1.1 hidx
          exact ⟨idx, by omega, rfl⟩

theorem foundAt_of_supportResistance
    (h : detectSupportResistance argrelextrema ohlcv = .ok patterns) (hp : p ∈ patterns) :
    FoundAt ohlcv.length p := by
  obtain ⟨detections, hdetections, rfl⟩ := exists_of_map_eq_ok h
  obtain ⟨d, hd, rfl⟩ := List.mem_map.1 hp
  -- every pattern is reported at the last candle, of which there are at least eleven
  suffices hindex : (5 : ℤ) * 2 + 1 ≤ ohlcv.length ∧
      d.pattern.detectedAtIndex = some ((ohlcv.length : ℤ) - 1) by
    exact ⟨ohlcv.length - 1, by omega, hindex.2.trans (congrArg some (by omega))⟩
  rw [supportResistanceDetections] at hdetections
  split at hdetections
  · cases hdetections
    exact absurd hd List.not_mem_nil
  · next hlength =>
    refine ⟨not_lt.1 hlength, ?_⟩
    obtain ⟨_, -, h⟩ := bind_eq_ok_iff.1 hdetections
    obtain ⟨_, -, h⟩ := bind_eq_ok_iff.1 h
    obtain ⟨_, -, h⟩ := bind_eq_ok_iff.1 h
    obtain ⟨_, -, h⟩ := bind_eq_ok_iff.1 h
    obtain ⟨_, -, h⟩ := bind_eq_ok_iff.1 h
    obtain ⟨results, hresults, h⟩ := bind_eq_ok_iff.1 h
    obtain ⟨emaPatterns, hema, h⟩ := bind_eq_ok_iff.1 h
    cases h
    rcases List.mem_append.1 hd with hd | hd
    · obtain ⟨level, -, hf⟩ := exists_of_mem_of_mapM_eq_ok hresults hd
      obtain ⟨q, -, hf⟩ := bind_eq_ok_iff.1 hf
      exact congrArg PatternFields.detectedAtIndex (LevelDetection.of_build hf).2.2
    · obtain ⟨bounces, hbounces, hema⟩ := bind_eq_ok_iff.1 hema
      cases hema
      obtain ⟨bounce, hbounce, rfl⟩ := List.mem_filterMap.1 hd
      obtain ⟨period, -, hf⟩ := exists_of_mem_of_mapM_eq_ok hbounces hbounce
      rw [emaBounce] at hf
      split at hf
      · cases hf
      · obtain ⟨q, -, hf⟩ := bind_eq_ok_iff.1 hf
        split at hf
        · obtain ⟨d', hd', hf⟩ := bind_eq_ok_iff.1 hf
          cases hf
          exact congrArg PatternFields.detectedAtIndex (LevelDetection.of_build hd').2.2
        · cases hf

/-- The ends of a swing are candles. -/
theorem lastSwing_lt {swing : Swing} (h : lastSwing argrelextrema ohlcv = .ok (some swing)) :
    swing.lastHighIdx < ohlcv.length ∧ swing.lastLowIdx < ohlcv.length := by
  have hitem {xs : List ℚ} {i : ℕ} {x : ℚ} (h : itemAt xs i = .ok x) : i < xs.length := by
    rw [itemAt] at h
    split at h
    · next hx => exact (List.getElem?_eq_some_iff.1 hx).1
    · cases h
  rw [lastSwing] at h
  obtain ⟨_, -, h⟩ := bind_eq_ok_iff.1 h
  obtain ⟨_, -, h⟩ := bind_eq_ok_iff.1 h
  split at h
  · obtain ⟨_, hhigh, h⟩ := bind_eq_ok_iff.1 h
    obtain ⟨_, hlow, h⟩ := bind_eq_ok_iff.1 h
    split at h
    · cases h
    · cases h
      exact ⟨(hitem hhigh).trans_eq (List.length_map _), (hitem hlow).trans_eq (List.length_map _)⟩
  · cases h

theorem foundAt_of_fibonacci (h : calculateFibonacciLevels argrelextrema ohlcv = .ok patterns)
    (hp : p ∈ patterns) : FoundAt ohlcv.length p := by
  obtain ⟨detections, hdetections, rfl⟩ := exists_of_map_eq_ok h
  obtain ⟨d, hd, rfl⟩ := List.mem_map.1 hp
  rw [fibonacciDetections] at hdetections
  split at hdetections
  · cases hdetections
    exact absurd hd List.not_mem_nil
  · obtain ⟨swing, hswing, h⟩ := bind_eq_ok_iff.1 hdetections
    cases swing with
    | none =>
      cases h
      exact absurd hd List.not_mem_nil
    | some swing =>
      obtain ⟨hhigh, hlow⟩ := lastSwing_lt hswing
      obtain ⟨_, -, h⟩ := bind_eq_ok_iff.1 h
      obtain ⟨level, -, h⟩ := exists_of_mem_of_mapM_eq_ok h hd
      obtain ⟨_, -, h⟩ := bind_eq_ok_iff.1 h
      have hindex := congrArg PatternFields.detectedAtIndex (LevelDetection.of_build h).2.2
      refine ⟨if swing.isUptrend then swing.lastHighIdx else swing.lastLowIdx, ?_, ?_⟩
      · split
        · exact hhigh
        · exact hlow
      · refine hindex.trans (congrArg some ?_)
        split <;> rfl

theorem foundAt_of_chartPattern (h : detectChartPatterns argrelextrema polyfit ohlcv = .ok patterns)
    (hp : p ∈ patterns) : FoundAt ohlcv.length p := by
  rw [detectChartPatterns] at h
  obtain ⟨call, hcall, h⟩ := bind_eq_ok_iff.1 h
  rcases call with - | ⟨lines, a⟩
  · cases h
    exact absurd hp List.not_mem_nil
  · have hlength : (60 : ℤ) ≤ ohlcv.length := by
      rw [classifyCall] at hcall
      split at hcall
      · cases hcall
      · next hlength => exact not_lt.1 hlength
    dsimp only at h
    split at h
    · cases h
      exact absurd hp List.not_mem_nil
    · obtain ⟨pattern, hpattern, h⟩ := bind_eq_ok_iff.1 h
      cases h
      obtain rfl := List.mem_singleton.1 hp
      have hindex := congrArg PatternFields.detectedAtIndex
        (PatternFields.toPatternFields_of_validate hpattern)
      exact ⟨ohlcv.length - 60, by omega, hindex.trans (congrArg some (by omega))⟩

theorem foundAt_of_iki (h : detectIkiPattern ohlcv = .ok patterns) (hp : p ∈ patterns) :
    FoundAt ohlcv.length p := by
  obtain ⟨result, hresult, hdetection⟩ := Iki.exists_isDetection ohlcv 14
  obtain rfl := Except.ok.inj (h.symm.trans hresult)
  obtain ⟨s, phases, hreported⟩ := hdetection.reported p hp
  have hwindow := hreported.window
  have hindex := congrArg PatternFields.detectedAtIndex hreported.fields_eq
  rw [Iki.InWindow] at hwindow
  exact ⟨s, by omega, hindex⟩

end Detectors

/-- **Each detector reports its patterns at candles of the series.** -/
theorem foundAt_of_mem_detect {argrelextrema : Extrema} {polyfit : Polyfit} {talib : TaLib}
    {ohlcv : List OHLCVData} {p : PatternDetection}
    (hp : p ∈ (patternCalls argrelextrema polyfit talib).detect ohlcv) :
    FoundAt ohlcv.length p := by
  obtain ⟨func, hfunc, hp⟩ := List.mem_flatMap.1 hp
  rcases hresult : func ohlcv with e | patterns
  · rw [hresult] at hp
    exact absurd hp List.not_mem_nil
  · rw [hresult] at hp
    simp only [PatternCalls.detectors, List.mem_cons, List.not_mem_nil, or_false] at hfunc
    rcases hfunc with rfl | rfl | rfl | rfl | rfl
    · exact foundAt_of_candlestick hresult hp
    · exact foundAt_of_supportResistance hresult hp
    · exact foundAt_of_fibonacci hresult hp
    · exact foundAt_of_chartPattern hresult hp
    · exact foundAt_of_iki hresult hp

/-! ### The step -/

/-- A pattern dated by its candle. -/
def datePattern (ohlcv : List OHLCVData) (timeframe : Option Timeframe) (p : PatternDetection) :
    PatternDetection :=
  { p with
    detectedAtTimestamp :=
      (ohlcv[(p.detectedAtIndex.getD 0).toNat]?.map (·.timestamp.isoformat)).getD ""
    timeframe := timeframe }

/-- A pattern as the step reports it: dated by its candle, with a target price and its score. -/
def reportPattern (ohlcv : List OHLCVData) (timeframe : Option Timeframe) (last : OHLCVData)
    (p : PatternDetection) : PatternDetection :=
  scorePattern ohlcv.length last.close
    { datePattern ohlcv timeframe p with
      targetPrice := targetForPattern p last.close (calculateAtr14 ohlcv) }

section Step

variable {ohlcv : List OHLCVData} {last : OHLCVData} {timeframe : Option Timeframe}
  {p : PatternDetection} {found : List PatternDetection}

/-- A pattern is dated by the candle it was found at; no index is out of range. -/
theorem locatePattern_eq (h : FoundAt ohlcv.length p) :
    locatePattern ohlcv timeframe p = .ok (datePattern ohlcv timeframe p) := by
  obtain ⟨i, hi, hindex⟩ := h
  have hclamp : max 0 (min ((i : ℤ)) ((ohlcv.length : ℤ) - 1)) = i := by omega
  rw [locatePattern, datePattern, hindex]
  dsimp only [Option.getD_some]
  rw [hclamp, Int.toNat_natCast, itemAt, List.getElem?_eq_getElem hi]
  rfl

theorem mapM_locatePattern (timeframe : PatternDetection → Option Timeframe)
    (hfound : ∀ p ∈ found, FoundAt ohlcv.length p) :
    (found.mapM fun p ↦ locatePattern ohlcv (timeframe p) p) =
      .ok (found.map fun p ↦ datePattern ohlcv (timeframe p) p) := by
  rw [mapM_eq_ok_iff, List.forall₂_map_right_iff, List.forall₂_same]
  exact fun p hp ↦ locatePattern_eq (hfound p hp)

/-- Each dated pattern gets a target price and a score. -/
theorem patterns_scorePatterns (hlast : ohlcv.getLast? = some last)
    (timeframe : PatternDetection → Option Timeframe) :
    (scorePatterns (calculateTargetPrices (found.map fun p ↦ datePattern ohlcv (timeframe p) p)
      ohlcv).patterns ohlcv.length last.close).patterns =
        found.map fun p ↦ reportPattern ohlcv (timeframe p) last p := by
  have hne : ohlcv ≠ [] := fun h ↦ by simp [h] at hlast
  have hpos : ¬ (ohlcv.length : ℤ) ≤ 0 := by
    have hlength := List.length_pos_of_ne_nil hne
    omega
  rw [calculateTargetPrices, hlast]
  rcases found with - | ⟨p, found⟩
  · rfl
  · rw [scorePatterns, if_neg (not_or.2 ⟨by simp, hpos⟩), List.map_map, List.map_map]
    rfl

/-- **The passes after the detection** report each pattern and sort the reports. -/
theorem rankPatterns_eq (argrelextrema : Extrema) (polyfit : Polyfit) (talib : TaLib)
    (hlast : ohlcv.getLast? = some last) (hfound : ∀ p ∈ found, FoundAt ohlcv.length p) :
    rankPatterns (patternCalls argrelextrema polyfit talib) ohlcv timeframe found =
      .ok (sortByRelevance (found.map (reportPattern ohlcv timeframe last))) := by
  have hitem : lastItem ohlcv = .ok last := lastItem_eq_ok_iff.2 hlast
  rw [rankPatterns, mapM_locatePattern (fun _ ↦ timeframe) hfound]
  show Except.ok (sortByRelevance _) = _
  congr 2
  rw [PatternCalls.score, hitem]
  exact patterns_scorePatterns hlast fun _ ↦ timeframe

theorem pairwise_sortByRelevance (patterns : List PatternDetection) :
    (sortByRelevance patterns).Pairwise fun p q ↦ q.relevanceScore ≤ p.relevanceScore := by
  have : Std.Total fun p q : PatternDetection ↦ q.relevanceScore ≤ p.relevanceScore :=
    ⟨fun p q ↦ le_total q.relevanceScore p.relevanceScore⟩
  have : IsTrans PatternDetection fun p q ↦ q.relevanceScore ≤ p.relevanceScore :=
    ⟨fun p q r hpq hqr ↦ hqr.trans hpq⟩
  exact List.pairwise_insertionSort _ patterns

/-- What a reported pattern says: when its candle was, and how relevant it is, with nothing
clamped. -/
structure IsReport (ohlcv : List OHLCVData) (timeframe : Option Timeframe) (last : OHLCVData)
    (p : PatternDetection) : Prop where
  dated : ∃ (i : ℕ) (candle : OHLCVData), p.detectedAtIndex = some (i : ℤ) ∧
    ohlcv[i]? = some candle ∧ p.detectedAtTimestamp = candle.timestamp.isoformat
  timeframe_eq : p.timeframe = timeframe
  relevance_pos : 0 < relevance ohlcv.length last.close p
  relevance_le_one : relevance ohlcv.length last.close p ≤ 1
  score_eq : p.relevanceScore = roundTo 4 (relevance ohlcv.length last.close p)

theorem isReport_reportPattern (hprice : 0 < last.close) (h : FoundAt ohlcv.length p) :
    IsReport ohlcv timeframe last (reportPattern ohlcv timeframe last p) := by
  obtain ⟨i, hi, hindex⟩ := h
  have hpos : (0 : ℤ) < ohlcv.length := by omega
  have hwithin : FoundWithin ohlcv.length p := FoundAt.foundWithin ⟨i, hi, hindex⟩
  refine ⟨⟨i, ohlcv[i], hindex, List.getElem?_eq_getElem hi, ?_⟩, rfl, ?_, ?_, ?_⟩
  · show (ohlcv[(p.detectedAtIndex.getD 0).toNat]?.map _).getD "" = _
    rw [hindex, Option.getD_some, Int.toNat_natCast, List.getElem?_eq_getElem hi]
    rfl
  · exact relevance_pos (p := p) hpos hprice hwithin
  · exact relevance_le_one (p := p) hpos hprice hwithin
  · exact relevanceScore_scorePattern hpos hprice hwithin

/-- **Pattern recognition over a series.** Every pattern that a detector finds is reported once,
with the date of its own candle and a relevance that no clamp has touched, the most relevant
first. -/
theorem stepPatternRecognition_spec (argrelextrema : Extrema) (polyfit : Polyfit) (talib : TaLib)
    (hlast : ohlcv.getLast? = some last) (hprice : 0 < last.close)
    (timeframe : Option Timeframe) :
    ∃ patterns, stepPatternRecognition (patternCalls argrelextrema polyfit talib) ohlcv timeframe =
        .ok patterns ∧
      patterns.Perm (((patternCalls argrelextrema polyfit talib).detect ohlcv).map
        (reportPattern ohlcv timeframe last)) ∧
      (patterns.Pairwise fun p q ↦ q.relevanceScore ≤ p.relevanceScore) ∧
      ∀ p ∈ patterns, IsReport ohlcv timeframe last p := by
  refine ⟨_, rankPatterns_eq argrelextrema polyfit talib hlast fun p hp ↦ foundAt_of_mem_detect hp,
    List.perm_insertionSort _ _, pairwise_sortByRelevance _, fun p hp ↦ ?_⟩
  obtain ⟨q, hq, rfl⟩ := List.mem_map.1 ((List.perm_insertionSort _ _).mem_iff.1 hp)
  exact isReport_reportPattern hprice (foundAt_of_mem_detect hq)

end Step

/-- A candle that engulfs the one before it is the only pattern of six candles. -/
theorem stepPatternRecognition_spec_engulfing :
    let calls := patternCalls clippedExtrema leastSquares engulfingTaLib
    let last : OHLCVData := ⟨⟨18000000000, some 0⟩, 99, 105, 98, 104, 0⟩
    ∃ patterns, stepPatternRecognition calls engulfingCandles (some .h1) = .ok patterns ∧
      patterns.Perm ((calls.detect engulfingCandles).map
        (reportPattern engulfingCandles (some .h1) last)) ∧
      (patterns.Pairwise fun p q ↦ q.relevanceScore ≤ p.relevanceScore) ∧
      ∀ p ∈ patterns, IsReport engulfingCandles (some .h1) last p :=
  stepPatternRecognition_spec clippedExtrema leastSquares engulfingTaLib rfl (by norm_num)
    (some .h1)

end InvestmentAssistant
