import InvestmentAssistant.PatternRecognition.LevelDetection

/-!
# Candlestick patterns

`detectCandlestickPatterns` runs 28 functions of TA-Lib over the series and reports a pattern for
each of the last ten candles at which a function gives a signal. The functions are third-party and
stand as a parameter (`TaLib`); what the code relies on is that a function gives one value for each
candle (`SignalsEachCandle`).

The loop keeps a set of the names and candles it has reported and passes over what is in it. The
names of the functions are distinct and each candle is looked at once, so that never happens: the
result is one pattern for each signal, and no two of one name at one candle
(`candlestick_detections`).

The long description of a pattern is left out; nothing reads it.
-/

namespace InvestmentAssistant

/-! ### The functions -/

/-- `_INDICATION_REVERSAL`. -/
def indicationReversal : String := "Odwrót"

/-- `_INDICATION_BULLISH_REVERSAL`. -/
def indicationBullishReversal : String := "Odwrót bycza"

/-- `_INDICATION_BEARISH_REVERSAL`. -/
def indicationBearishReversal : String := "Odwrót niedźwiedzi"

/-- `_INDICATION_STRONG_MOMENTUM`. -/
def indicationStrongMomentum : String := "Silny impet"

/-- `_INDICATION_BULLISH_MOMENTUM`. -/
def indicationBullishMomentum : String := "Silny impet bycza"

/-- `_INDICATION_BEARISH_MOMENTUM`. -/
def indicationBearishMomentum : String := "Silny impet niedźwiedzia"

/-- `_INDICATION_TREND_CONTINUATION`. -/
def indicationTrendContinuation : String := "Kontynuacja trendu"

/-- `_INDICATION_BULLISH_CONTINUATION`. -/
def indicationBullishContinuation : String := "Kontynuacja bycza"

/-- `_INDICATION_BEARISH_CONTINUATION`. -/
def indicationBearishContinuation : String := "Kontynuacja niedźwiedzia"

/-- An entry of `CANDLESTICK_PATTERNS`. -/
structure CandlestickMeta where
  funcName : String
  name : String
  description : String
  indication : String
  deriving DecidableEq, Repr

/-- `CANDLESTICK_PATTERNS`. -/
def candlestickPatterns : List CandlestickMeta :=
  [⟨"CDLENGULFING", "Engulfing", "Bullish/Bearish Engulfing pattern", indicationReversal⟩,
    ⟨"CDLHAMMER", "Hammer", "Hammer — potential bullish reversal", indicationBullishReversal⟩,
    ⟨"CDLDOJI", "Doji", "Doji — market indecision", "Niezdecydowanie"⟩,
    ⟨"CDLSHOOTINGSTAR", "Shooting Star",
      "Shooting Star — potential bearish reversal", indicationBearishReversal⟩,
    ⟨"CDLMORNINGSTAR", "Morning Star",
      "Morning Star — bullish reversal", indicationBullishReversal⟩,
    ⟨"CDLEVENINGSTAR", "Evening Star",
      "Evening Star — bearish reversal", indicationBearishReversal⟩,
    ⟨"CDLHARAMI", "Harami", "Harami — potential reversal", indicationReversal⟩,
    ⟨"CDLPIERCING", "Piercing", "Piercing Line — bullish reversal", indicationBullishReversal⟩,
    ⟨"CDLDARKCLOUDCOVER", "Dark Cloud Cover",
      "Dark Cloud Cover — bearish reversal", indicationBearishReversal⟩,
    ⟨"CDL3WHITESOLDIERS", "Three White Soldiers",
      "Three White Soldiers — strong bullish continuation", indicationBullishContinuation⟩,
    ⟨"CDL3BLACKCROWS", "Three Black Crows",
      "Three Black Crows — strong bearish continuation", indicationBearishContinuation⟩,
    ⟨"CDLINVERTEDHAMMER", "Inverted Hammer",
      "Inverted Hammer — potential bullish reversal", indicationBullishReversal⟩,
    ⟨"CDLHANGINGMAN", "Hanging Man",
      "Hanging Man — potential bearish reversal", indicationBearishReversal⟩,
    ⟨"CDLMARUBOZU", "Marubozu", "Marubozu — strong momentum candle", indicationStrongMomentum⟩,
    ⟨"CDLSPINNINGTOP", "Spinning Top", "Spinning Top — market indecision", "Niezdecydowanie"⟩,
    ⟨"CDLHARAMICROSS", "Harami Cross",
      "Harami Cross — Doji inside previous candle", indicationReversal⟩,
    ⟨"CDLEVENINGDOJISTAR", "Evening Doji Star",
      "Evening Doji Star — bearish reversal with Doji gap", indicationBearishReversal⟩,
    ⟨"CDLMORNINGDOJISTAR", "Morning Doji Star",
      "Morning Doji Star — bullish reversal with Doji gap", indicationBullishReversal⟩,
    ⟨"CDLDOJISTAR", "Doji Star", "Doji Star — reversal signal with gap", indicationReversal⟩,
    ⟨"CDL3OUTSIDE", "Three Outside Up/Down",
      "Three Outside Up/Down — confirmed Engulfing reversal", indicationReversal⟩,
    ⟨"CDL3INSIDE", "Three Inside Up/Down",
      "Three Inside Up/Down — confirmed Harami reversal", indicationReversal⟩,
    ⟨"CDLRISEFALL3METHODS", "Rising/Falling Three Methods",
      "Rising/Falling Three Methods — trend continuation", indicationTrendContinuation⟩,
    ⟨"CDLXSIDEGAP3METHODS", "Upside/Downside Gap Three Methods",
      "Gap Three Methods — gap continuation pattern", indicationTrendContinuation⟩,
    ⟨"CDLADVANCEBLOCK", "Advance Block",
      "Advance Block — weakening bull momentum", "Osłabienie hossy"⟩,
    ⟨"CDLSTALLEDPATTERN", "Deliberation",
      "Deliberation / Stalled Pattern — bull momentum pause", "Osłabienie hossy"⟩,
    ⟨"CDLDRAGONFLYDOJI", "Dragonfly Doji",
      "Dragonfly Doji — bullish reversal Doji variant", indicationBullishReversal⟩,
    ⟨"CDL2CROWS", "Two Crows",
      "Two Crows — bearish reversal after gap", indicationBearishReversal⟩,
    ⟨"CDLSTICKSANDWICH", "Stick Sandwich",
      "Stick Sandwich — bullish reversal with matching close", indicationBullishReversal⟩]

/-- A function of TA-Lib by its name, on the opens, highs, lows and closes. -/
abbrev TaLib := String → List ℚ → List ℚ → List ℚ → List ℚ → Except PyException (List ℤ)

/-- `_SCAN_CANDLES`. -/
def scanCandles : ℕ := 10

/-! ### A signal -/

/-- `_reliability_from_signal`. -/
def reliabilityFromSignal (absValue : ℕ) : ℕ :=
  if 200 ≤ absValue then 3 else if 100 ≤ absValue then 2 else 1

/-- `_confidence_from_signal`. -/
def confidenceFromSignal (absValue : ℕ) : ℚ :=
  if 200 ≤ absValue then 1 else if 100 ≤ absValue then 7 / 10 else 5 / 10

/-- `_directional_indication`. -/
def directionalIndication (indication : String) (bullish : Bool) : String :=
  if indication = indicationReversal then
    if bullish then indicationBullishReversal else indicationBearishReversal
  else if indication = indicationStrongMomentum then
    if bullish then indicationBullishMomentum else indicationBearishMomentum
  else if indication = indicationTrendContinuation then
    if bullish then indicationBullishContinuation else indicationBearishContinuation
  else indication

/-- `_description_for_signal`. -/
def descriptionForSignal (funcName description : String) (bullish : Bool) : String :=
  if funcName = "CDLENGULFING" ∧ ¬ bullish then
    "Objęcie bessy (nóż) — strong bearish reversal signal"
  else description

theorem reliabilityFromSignal_mem (absValue : ℕ) :
    1 ≤ reliabilityFromSignal absValue ∧ reliabilityFromSignal absValue ≤ 3 := by
  unfold reliabilityFromSignal
  split_ifs <;> decide

theorem confidenceFromSignal_inUnit (absValue : ℕ) : InUnit (confidenceFromSignal absValue) := by
  unfold confidenceFromSignal InUnit
  split_ifs <;> norm_num

/-- A pattern of candles, with the entries that the other detectors leave out. -/
structure CandlestickDetection where
  pattern : PatternDetection
  indication : String
  deriving DecidableEq

/-- `_detection_from_signal`; the bounds that `PatternDetection` checks hold. -/
def detectionFromSignal (m : CandlestickMeta) (idx lastIdx : ℕ) (rawValue : ℤ) :
    CandlestickDetection :=
  let bullish := decide (0 < rawValue)
  { pattern :=
      { patternType := m.name
        confidence := confidenceFromSignal rawValue.natAbs
        description := descriptionForSignal m.funcName m.description bullish
        location := if idx = lastIdx then "emerging" else "completed"
        bullish := bullish
        category := .candlestick
        detectedAtIndex := some idx
        reliability := reliabilityFromSignal rawValue.natAbs
        confidence_inUnit := confidenceFromSignal_inUnit _
        relevanceScore_inUnit := inUnit_zero
        reliability_mem := reliabilityFromSignal_mem _ }
    indication := directionalIndication m.indication bullish }

/-! ### The scan -/

/-- What the loop has reported: the keys and the patterns. -/
structure CandlestickScan where
  seen : List (String × ℕ) := []
  results : List CandlestickDetection := []

/-- The body of the inner loop. -/
def scanCandle (m : CandlestickMeta) (signal : List ℤ) (lastIdx : ℕ) (scan : CandlestickScan)
    (idx : ℕ) : Except PyException CandlestickScan := do
  let rawValue ← itemAt signal idx
  if rawValue = 0 then return scan
  else if (m.name, idx) ∈ scan.seen then return scan
  else
    return {
      seen := scan.seen ++ [(m.name, idx)]
      results := scan.results ++ [detectionFromSignal m idx lastIdx rawValue] }

/-- The first candle that is looked at. -/
def scanStart (ohlcv : List OHLCVData) : ℕ :=
  ohlcv.length - scanCandles

/-- The body of the outer loop. -/
def scanFunction (talib : TaLib) (ohlcv : List OHLCVData) (scan : CandlestickScan)
    (m : CandlestickMeta) : Except PyException CandlestickScan := do
  let signal ← talib m.funcName (ohlcv.map (·.open_)) (ohlcv.map (·.high)) (ohlcv.map (·.low))
    (ohlcv.map (·.close))
  (List.range' (scanStart ohlcv) (ohlcv.length - scanStart ohlcv)).foldlM
    (scanCandle m signal (ohlcv.length - 1)) scan

/-- The detections of `detect_candlestick_patterns`. -/
def candlestickDetections (talib : TaLib) (ohlcv : List OHLCVData) :
    Except PyException (List CandlestickDetection) :=
  if ohlcv.length < 5 then .ok []
  else do
    let scan ← candlestickPatterns.foldlM (scanFunction talib ohlcv) {}
    return scan.results

/-- `detect_candlestick_patterns`. -/
def detectCandlestickPatterns (talib : TaLib) (ohlcv : List OHLCVData) :
    Except PyException (List PatternDetection) :=
  (candlestickDetections talib ohlcv).map (·.map CandlestickDetection.pattern)

/-! ### What is reported -/

/-- A function of TA-Lib gives one value for each candle. -/
def SignalsEachCandle (talib : TaLib) : Prop :=
  ∀ funcName opens highs lows closes, highs.length = opens.length → lows.length = opens.length →
    closes.length = opens.length →
      ∃ signal, talib funcName opens highs lows closes = .ok signal ∧
        signal.length = opens.length

/-- The signals of a function on a series. -/
def signalOf (talib : TaLib) (ohlcv : List OHLCVData) (m : CandlestickMeta) : List ℤ :=
  (talib m.funcName (ohlcv.map (·.open_)) (ohlcv.map (·.high)) (ohlcv.map (·.low))
    (ohlcv.map (·.close))).toOption.getD []

/-- The pattern of a signal, if there is one at the candle. -/
def found (m : CandlestickMeta) (signal : List ℤ) (lastIdx idx : ℕ) :
    Option CandlestickDetection :=
  let rawValue := signal.getD idx 0
  if rawValue = 0 then none else some (detectionFromSignal m idx lastIdx rawValue)

/-- The scanned candles. -/
def scanRange (ohlcv : List OHLCVData) : List ℕ :=
  List.range' (scanStart ohlcv) (ohlcv.length - scanStart ohlcv)

/-- The keys under which the patterns of a function are reported. -/
def keysOf (m : CandlestickMeta) (signal : List ℤ) (idxs : List ℕ) : List (String × ℕ) :=
  (idxs.filter fun idx ↦ decide (signal.getD idx 0 ≠ 0)).map fun idx ↦ (m.name, idx)

section Scan

variable {talib : TaLib} {ohlcv : List OHLCVData} {m : CandlestickMeta} {signal : List ℤ}
  {scan : CandlestickScan} {lastIdx idx : ℕ} {idxs : List ℕ}

theorem keysOf_singleton (m : CandlestickMeta) (signal : List ℤ) (idx : ℕ) :
    keysOf m signal [idx] = if signal.getD idx 0 = 0 then [] else [(m.name, idx)] := by
  rw [keysOf]
  split
  · next h => rw [List.filter_cons_of_neg (by simpa using h)]; rfl
  · next h => rw [List.filter_cons_of_pos (by simpa using h)]; rfl

/-- One candle adds its pattern, if its key is new. -/
theorem scanCandle_eq (hidx : idx < signal.length) (hnew : (m.name, idx) ∉ scan.seen) :
    scanCandle m signal lastIdx scan idx = .ok
      { seen := scan.seen ++ keysOf m signal [idx]
        results := scan.results ++ (found m signal lastIdx idx).toList } := by
  have hvalue : signal.getD idx 0 = signal[idx] := by
    rw [List.getD_eq_getElem?_getD, List.getElem?_eq_getElem hidx, Option.getD_some]
  rw [scanCandle, itemAt, List.getElem?_eq_getElem hidx, keysOf_singleton, found, hvalue]
  show (if signal[idx] = 0 then pure scan else _) = _
  by_cases hzero : signal[idx] = 0
  · rw [if_pos hzero, if_pos hzero, if_pos hzero, Option.toList_none, List.append_nil,
      List.append_nil]
    rfl
  · rw [if_neg hzero, if_neg hzero, if_neg hzero, if_neg hnew]
    rfl

theorem mem_keysOf {key : String × ℕ} (h : key ∈ keysOf m signal idxs) :
    key.1 = m.name ∧ key.2 ∈ idxs := by
  obtain ⟨idx, hidx, rfl⟩ := List.mem_map.1 h
  exact ⟨rfl, (List.mem_filter.1 hidx).1⟩

/-- **Candles that are looked at once are never passed over.** -/
theorem foldlM_scanCandle (hidxs : idxs.Nodup) (hlt : ∀ idx ∈ idxs, idx < signal.length)
    (hnew : ∀ key ∈ scan.seen, key.1 = m.name → key.2 ∉ idxs) :
    idxs.foldlM (scanCandle m signal lastIdx) scan = .ok
      { seen := scan.seen ++ keysOf m signal idxs
        results := scan.results ++ idxs.filterMap (found m signal lastIdx) } := by
  induction idxs generalizing scan with
  | nil =>
    rw [List.filterMap_nil, List.append_nil, keysOf, List.filter_nil, List.map_nil, List.append_nil]
    rfl
  | cons idx idxs ih =>
    obtain ⟨hidx, hidxs⟩ := List.nodup_cons.1 hidxs
    obtain ⟨hlt, hlts⟩ := List.forall_mem_cons.1 hlt
    have hkey : (m.name, idx) ∉ scan.seen := fun h ↦ hnew _ h rfl (List.mem_cons_self ..)
    rw [List.foldlM_cons, scanCandle_eq hlt hkey]
    refine (ih hidxs hlts ?_).trans ?_
    · intro key hseen hname hmem
      rcases List.mem_append.1 hseen with hseen | hseen
      · exact hnew key hseen hname (List.mem_cons_of_mem _ hmem)
      · have heq := List.mem_singleton.1 (mem_keysOf hseen).2
        exact hidx (heq ▸ hmem)
    · have hkeys :
          keysOf m signal [idx] ++ keysOf m signal idxs = keysOf m signal (idx :: idxs) := by
        rw [keysOf, keysOf, keysOf, ← List.map_append, ← List.filter_append, List.singleton_append]
      have hfound : (found m signal lastIdx idx).toList ++ idxs.filterMap (found m signal lastIdx) =
          (idx :: idxs).filterMap (found m signal lastIdx) := by
        rw [List.filterMap_cons]
        cases found m signal lastIdx idx <;> rfl
      simp only [List.append_assoc, hkeys, hfound]

variable {ms : List CandlestickMeta}

/-- The patterns that a function gives on a series. -/
def foundBy (talib : TaLib) (ohlcv : List OHLCVData) (m : CandlestickMeta) :
    List CandlestickDetection :=
  (scanRange ohlcv).filterMap (found m (signalOf talib ohlcv m) (ohlcv.length - 1))

theorem mem_scanRange : idx ∈ scanRange ohlcv ↔ ohlcv.length ≤ idx + 10 ∧ idx < ohlcv.length := by
  rw [scanRange, scanStart, scanCandles, List.mem_range'_1]
  omega

theorem signalOf_spec (htalib : SignalsEachCandle talib) (ohlcv : List OHLCVData)
    (m : CandlestickMeta) :
    talib m.funcName (ohlcv.map (·.open_)) (ohlcv.map (·.high)) (ohlcv.map (·.low))
        (ohlcv.map (·.close)) = .ok (signalOf talib ohlcv m) ∧
      (signalOf talib ohlcv m).length = ohlcv.length := by
  obtain ⟨signal, hsignal, hlength⟩ := htalib m.funcName (ohlcv.map (·.open_))
    (ohlcv.map (·.high)) (ohlcv.map (·.low)) (ohlcv.map (·.close)) (by simp) (by simp) (by simp)
  have heq : signalOf talib ohlcv m = signal := by
    rw [signalOf, hsignal]
    rfl
  rw [heq]
  exact ⟨hsignal, hlength.trans (List.length_map _)⟩

/-- A function whose name is new adds the patterns it gives. -/
theorem scanFunction_eq (htalib : SignalsEachCandle talib)
    (hnew : ∀ key ∈ scan.seen, key.1 ≠ m.name) :
    scanFunction talib ohlcv scan m = .ok
      { seen := scan.seen ++ keysOf m (signalOf talib ohlcv m) (scanRange ohlcv)
        results := scan.results ++ foundBy talib ohlcv m } := by
  obtain ⟨hsignal, hlength⟩ := signalOf_spec htalib ohlcv m
  rw [scanFunction, hsignal]
  refine foldlM_scanCandle List.nodup_range' (fun idx hidx ↦ ?_) fun key hkey hname ↦
    absurd hname (hnew key hkey)
  rw [hlength]
  exact (mem_scanRange.1 hidx).2

theorem foldlM_scanFunction (htalib : SignalsEachCandle talib)
    (hnames : (ms.map CandlestickMeta.name).Nodup)
    (hnew : ∀ key ∈ scan.seen, ∀ m ∈ ms, key.1 ≠ m.name) :
    ∃ seen, ms.foldlM (scanFunction talib ohlcv) scan = .ok
      { seen := seen, results := scan.results ++ ms.flatMap (foundBy talib ohlcv) } := by
  induction ms generalizing scan with
  | nil =>
    refine ⟨scan.seen, ?_⟩
    rw [List.flatMap_nil, List.append_nil]
    rfl
  | cons m ms ih =>
    rw [List.map_cons, List.nodup_cons] at hnames
    have hm : ∀ key ∈ scan.seen, key.1 ≠ m.name := fun key hkey ↦
      hnew key hkey m (List.mem_cons_self ..)
    rw [List.foldlM_cons, scanFunction_eq htalib hm, List.flatMap_cons, ← List.append_assoc]
    refine ih hnames.2 fun key hkey m' hm' hname ↦ ?_
    rcases List.mem_append.1 hkey with hkey | hkey
    · exact hnew key hkey m' (List.mem_cons_of_mem _ hm') hname
    · have hm : m'.name = m.name := hname.symm.trans (mem_keysOf hkey).1
      exact hnames.1 (hm ▸ List.mem_map_of_mem hm')

end Scan

/-- No two functions have one name. -/
theorem nodup_candlestickNames : (candlestickPatterns.map CandlestickMeta.name).Nodup := by
  decide

/-- **The set of reported keys is never consulted to any effect**: the patterns are those of every
function in turn. -/
theorem candlestickDetections_eq {talib : TaLib} (htalib : SignalsEachCandle talib)
    {ohlcv : List OHLCVData} (hlength : 5 ≤ ohlcv.length) :
    candlestickDetections talib ohlcv =
      .ok (candlestickPatterns.flatMap (foundBy talib ohlcv)) := by
  obtain ⟨seen, hscan⟩ := @foldlM_scanFunction talib ohlcv {} candlestickPatterns htalib
    nodup_candlestickNames fun _ h ↦ absurd h List.not_mem_nil
  rw [candlestickDetections, if_neg (Nat.not_lt.2 hlength), hscan]
  rfl

theorem found_eq_some_iff {m : CandlestickMeta} {signal : List ℤ} {lastIdx idx : ℕ}
    {d : CandlestickDetection} : found m signal lastIdx idx = some d ↔
      signal.getD idx 0 ≠ 0 ∧ d = detectionFromSignal m idx lastIdx (signal.getD idx 0) := by
  rw [found]
  split
  · next h => exact iff_of_false (fun hd ↦ by cases hd) fun hd ↦ hd.1 h
  · next h => rw [Option.some.injEq, eq_comm, and_iff_right h]

theorem mem_foundBy_iff {talib : TaLib} {ohlcv : List OHLCVData} {m : CandlestickMeta}
    {d : CandlestickDetection} : d ∈ foundBy talib ohlcv m ↔
      ∃ idx, ohlcv.length ≤ idx + 10 ∧ idx < ohlcv.length ∧
        (signalOf talib ohlcv m).getD idx 0 ≠ 0 ∧
        d = detectionFromSignal m idx (ohlcv.length - 1) ((signalOf talib ohlcv m).getD idx 0) := by
  rw [foundBy, List.mem_filterMap]
  refine exists_congr fun idx ↦ ?_
  rw [mem_scanRange, found_eq_some_iff, and_assoc]

/-- Two patterns are not of one name at one candle. -/
def DiffersFrom (d e : CandlestickDetection) : Prop :=
  d.pattern.patternType = e.pattern.patternType →
    d.pattern.detectedAtIndex ≠ e.pattern.detectedAtIndex

theorem pairwise_foundBy (talib : TaLib) (ohlcv : List OHLCVData) (m : CandlestickMeta) :
    (foundBy talib ohlcv m).Pairwise DiffersFrom := by
  rw [foundBy, List.pairwise_filterMap]
  refine List.Pairwise.imp ?_ List.nodup_range'
  intro i j hij d hd e he _ hindex
  obtain rfl := (found_eq_some_iff.1 hd).2
  obtain rfl := (found_eq_some_iff.1 he).2
  exact hij (Int.ofNat_inj.1 (Option.some.inj hindex))

/-- **The candlestick patterns** are those of the signals at the last ten candles: each signal is
reported, nothing else is, and no two patterns are of one name at one candle. -/
theorem candlestick_detections {talib : TaLib} (htalib : SignalsEachCandle talib)
    (ohlcv : List OHLCVData) :
    ∃ detections, candlestickDetections talib ohlcv = .ok detections ∧
      (∀ d, d ∈ detections ↔ 5 ≤ ohlcv.length ∧ ∃ m ∈ candlestickPatterns, ∃ idx,
        ohlcv.length ≤ idx + 10 ∧ idx < ohlcv.length ∧
        (signalOf talib ohlcv m).getD idx 0 ≠ 0 ∧
        d = detectionFromSignal m idx (ohlcv.length - 1) ((signalOf talib ohlcv m).getD idx 0)) ∧
      detections.Pairwise DiffersFrom := by
  by_cases hlength : 5 ≤ ohlcv.length
  · refine ⟨_, candlestickDetections_eq htalib hlength, fun d ↦ ?_, ?_⟩
    · simp only [List.mem_flatMap, mem_foundBy_iff, and_iff_right hlength]
    · rw [List.pairwise_flatMap]
      refine ⟨fun m _ ↦ pairwise_foundBy talib ohlcv m, ?_⟩
      -- the patterns of two functions differ in their names
      refine List.Pairwise.imp ?_ (List.pairwise_map.1 nodup_candlestickNames)
      intro m m' hname d hd e he htype
      obtain ⟨_, _, _, _, rfl⟩ := mem_foundBy_iff.1 hd
      obtain ⟨_, _, _, _, rfl⟩ := mem_foundBy_iff.1 he
      exact absurd htype hname
  · refine ⟨[], if_pos (Nat.not_le.1 hlength), fun d ↦ ?_, List.Pairwise.nil⟩
    exact iff_of_false List.not_mem_nil fun h ↦ hlength h.1

/-- `CDLENGULFING` at a candle: a rising body beyond the falling one before it, on both sides, or a
falling body beyond a rising one. -/
def engulfing (opens closes : List ℚ) (idx : ℕ) : ℤ :=
  let prevOpen := opens.getD (idx - 1) 0
  let prevClose := closes.getD (idx - 1) 0
  if opens.getD idx 0 < prevClose ∧ prevClose < prevOpen ∧ prevOpen < closes.getD idx 0 then 100
  else if closes.getD idx 0 < prevOpen ∧ prevOpen ≤ prevClose ∧ prevClose < opens.getD idx 0 then
    -100
  else 0

/-- `CDLENGULFING` looks at two candles, from the third one on. The other functions are silent, as
they are on `engulfingCandles`: most need more candles than six. -/
def engulfingTaLib : TaLib := fun funcName opens _ _ closes ↦
  .ok ((List.range opens.length).map fun idx ↦
    if funcName = "CDLENGULFING" ∧ 2 ≤ idx then engulfing opens closes idx else 0)

/-- Five candles that fall, and a last one that rises beyond the body of the one before it. -/
def engulfingCandles : List OHLCVData :=
  ((List.range 5).map fun i ↦
    ⟨⟨3600000000 * i, some 0⟩, 110 - 2 * i, 111 - 2 * i, 107 - 2 * i, 108 - 2 * i, 0⟩) ++
    [⟨⟨18000000000, some 0⟩, 99, 105, 98, 104, 0⟩]

/-- The last of the six candles is reported. -/
theorem candlestick_detections_engulfing :
    ∃ detections, candlestickDetections engulfingTaLib engulfingCandles = .ok detections ∧
      (∀ d, d ∈ detections ↔ 5 ≤ engulfingCandles.length ∧ ∃ m ∈ candlestickPatterns, ∃ idx,
        engulfingCandles.length ≤ idx + 10 ∧ idx < engulfingCandles.length ∧
        (signalOf engulfingTaLib engulfingCandles m).getD idx 0 ≠ 0 ∧
        d = detectionFromSignal m idx (engulfingCandles.length - 1)
          ((signalOf engulfingTaLib engulfingCandles m).getD idx 0)) ∧
      detections.Pairwise DiffersFrom := by
  refine candlestick_detections (fun _ opens _ _ _ _ _ _ ↦ ⟨_, rfl, ?_⟩) engulfingCandles
  rw [List.length_map, List.length_range]

example : (detectCandlestickPatterns engulfingTaLib engulfingCandles).map (·.map fun p ↦
    (p.patternType, p.bullish, p.detectedAtIndex)) = .ok [("Engulfing", true, some 5)] := by
  decide +kernel

end InvestmentAssistant
