import InvestmentAssistant.SignalAggregation.Scoring
import InvestmentAssistant.TechnicalAnalysis.SignalRating
import InvestmentAssistant.TechnicalAnalysis.Summary
import InvestmentAssistant.TechnicalAnalysis.TechnicalStep

/-!
# The indicators and moving averages

`calculateIndicators` reads thirteen indicators off a series of candles and rates each of them;
`calculateMovingAverages` rates the close against twelve averages. What the indicators read is
computed by a third-party library, a parameter (`PandasTa`) that may raise, return nothing, or
return a column without a last value.

No rating raises, so the indicators and the averages are those of a collection of readings
(`calculateIndicators_eq`, `calculateMovingAverages_eq`). Turning the readings around mirrors every
signal, and with the summary, the score and the direction (`technical_mirror`).
-/

namespace InvestmentAssistant

/-! ### The library -/

/-- A column of numbers; a missing entry is `NaN`. -/
abbrev Series := List (Option ℚ)

/-- The functions of `pandas_ta`, of the columns of a series and the parameters of the indicator. A
`DataFrame` is a list of columns; `none` is a returned `None`. -/
structure PandasTa where
  sma : List ℚ → ℕ → Except PyException (Option Series)
  ema : List ℚ → ℕ → Except PyException (Option Series)
  rsi : List ℚ → ℕ → Except PyException (Option Series)
  stoch : List ℚ → List ℚ → List ℚ → ℕ → ℕ → ℕ → Except PyException (Option (List Series))
  cci : List ℚ → List ℚ → List ℚ → ℕ → Except PyException (Option Series)
  adx : List ℚ → List ℚ → List ℚ → ℕ → Except PyException (Option (List Series))
  ao : List ℚ → List ℚ → ℕ → ℕ → Except PyException (Option Series)
  mom : List ℚ → ℕ → Except PyException (Option Series)
  macd : List ℚ → ℕ → ℕ → ℕ → Except PyException (Option (List Series))
  willr : List ℚ → List ℚ → List ℚ → ℕ → Except PyException (Option Series)
  uo : List ℚ → List ℚ → List ℚ → ℕ → ℕ → ℕ → Except PyException (Option Series)
  atr : List ℚ → List ℚ → List ℚ → ℕ → Except PyException (Option Series)
  stochrsi : List ℚ → ℕ → ℕ → ℕ → ℕ → Except PyException (Option (List Series))
  roc : List ℚ → ℕ → Except PyException (Option Series)

/-- `safe_last`, of a `Series`. -/
def safeLast (data : Option Series) : Option ℚ :=
  data.bind fun series ↦ series.getLast?.join

/-- `safe_last`, of a column of a `DataFrame`. -/
def safeLastOf (data : Option (List Series)) (col : ℕ) : Except PyException (Option ℚ) :=
  match data with
  | none => .ok none
  | some columns =>
    match columns[col]? with
    | some series => .ok (safeLast (some series))
    | none => .error .indexError

/-! ### Indicators -/

/-- What the indicators read at the last candle. -/
structure TaReadings where
  rsi : Option ℚ
  stochK : Option ℚ
  cci : Option ℚ
  adx : Option ℚ
  plusDi : Option ℚ
  minusDi : Option ℚ
  ao : Option ℚ
  momentum : Option ℚ
  macdLine : Option ℚ
  signalLine : Option ℚ
  willr : Option ℚ
  uo : Option ℚ
  atr : Option ℚ
  ema : Option ℚ
  high : Option ℚ
  low : Option ℚ
  stochrsiK : Option ℚ
  roc : Option ℚ

/-- An indicator and its rating: its value is the first of those that are rated. -/
def ratedIndicator (name signalKey : String) (values : List (Option ℚ)) :
    Except PyException IndicatorValue := do
  let signal ← rateSignal signalKey values
  return { name, value := values.head?.join, signal }

/-- `bbp_val`. -/
def bullBearPower (ema high low : Option ℚ) : Option ℚ :=
  match ema, high, low with
  | some ema, some high, some low => some (high - ema + (low - ema))
  | _, _, _ => none

/-- `calculate_indicators`. -/
def calculateIndicators (ta : PandasTa) (ohlcv : List OHLCVData) (params : IndicatorParams) :
    Except PyException (List IndicatorValue) :=
  if ohlcv.length < 2 then .ok []
  else do
    let high := ohlcv.map OHLCVData.high
    let low := ohlcv.map OHLCVData.low
    let close := ohlcv.map OHLCVData.close
    let rsiVal := safeLast (← ta.rsi close params.rsiLength)
    let rsi ← ratedIndicator s!"RSI({params.rsiLength})" "rsi" [rsiVal]
    let stochK ← safeLastOf
      (← ta.stoch high low close params.stochK params.stochD params.stochSmoothK) 0
    let stoch ← ratedIndicator s!"STOCH.K({params.stochK})" "stochastic" [stochK]
    let cciVal := safeLast (← ta.cci high low close params.cciLength)
    let cci ← ratedIndicator s!"CCI({params.cciLength})" "cci" [cciVal]
    let adxDf ← ta.adx high low close params.adxLength
    let adxVal ← safeLastOf adxDf 0
    let plusDi ← safeLastOf adxDf 1
    let minusDi ← safeLastOf adxDf 2
    let adx ← ratedIndicator s!"ADX({params.adxLength})" "adx" [adxVal, plusDi, minusDi]
    let aoVal := safeLast (← ta.ao high low params.aoFast params.aoSlow)
    let ao ← ratedIndicator "AO" "awesome_oscillator" [aoVal]
    let momVal := safeLast (← ta.mom close params.momentumLength)
    let mom ← ratedIndicator s!"Momentum({params.momentumLength})" "momentum" [momVal]
    let macdDf ← ta.macd close params.macdFast params.macdSlow params.macdSignal
    let macdLine ← safeLastOf macdDf 0
    let signalLine ← safeLastOf macdDf 2
    let macd ← ratedIndicator s!"MACD({params.macdFast},{params.macdSlow},{params.macdSignal})"
      "macd_crossover" [macdLine, signalLine]
    let willrVal := safeLast (← ta.willr high low close params.willrLength)
    let willr ← ratedIndicator s!"Williams %R({params.willrLength})" "williams_r" [willrVal]
    let uoVal := safeLast (← ta.uo high low close params.uoFast params.uoMedium params.uoSlow)
    let uo ← ratedIndicator s!"UO({params.uoFast},{params.uoMedium},{params.uoSlow})"
      "ultimate_oscillator" [uoVal]
    let atrVal := safeLast (← ta.atr high low close params.atrLength)
    let atr ← ratedIndicator s!"ATR({params.atrLength})" "atr" [atrVal]
    let lastEma := safeLast (← ta.ema close params.bbpLength)
    let bbp ← ratedIndicator s!"BBP({params.bbpLength})" "bull_bear_power"
      [bullBearPower lastEma high.getLast? low.getLast?]
    let stochrsiK ← safeLastOf (← ta.stochrsi close params.stochrsiLength params.stochrsiRsiLength
      params.stochrsiK params.stochrsiD) 0
    let stochrsi ← ratedIndicator s!"STOCHRSI.K({params.stochrsiLength})" "stochrsi" [stochrsiK]
    let rocVal := safeLast (← ta.roc close params.rocLength)
    let roc ← ratedIndicator s!"ROC({params.rocLength})" "roc" [rocVal]
    return [rsi, stoch, cci, adx, ao, mom, macd, willr, uo, atr, bbp, stochrsi, roc]

/-! ### Moving averages -/

/-- `MA_PERIODS`. -/
def maPeriods : List ℕ := [5, 10, 20, 50, 100, 200]

/-- `_ma_signal`. -/
def maSignal (close : ℚ) (maValue : Option ℚ) : SignalType :=
  match maValue with
  | none => .neutral
  | some maValue =>
    if maValue < close then .buy
    else if close < maValue then .sell
    else .neutral

/-- The entry of a period. -/
def movingAverage (lastClose : ℚ) (period : ℕ) (smaVal emaVal : Option ℚ) : MovingAverage where
  period := period
  smaValue := smaVal
  smaSignal := maSignal lastClose smaVal
  emaValue := emaVal
  emaSignal := maSignal lastClose emaVal

/-- `calculate_moving_averages`. -/
def calculateMovingAverages (ta : PandasTa) (ohlcv : List OHLCVData) :
    Except PyException (List MovingAverage) :=
  if ohlcv.length < 2 then .ok []
  else do
    let close := ohlcv.map OHLCVData.close
    let lastClose ← lastItem close
    maPeriods.mapM fun period ↦ do
      let smaSeries ← ta.sma close period
      let emaSeries ← ta.ema close period
      return movingAverage lastClose period (safeLast smaSeries) (safeLast emaSeries)

/-- The functions the technical analysis calls. -/
def technicalCalls (ta : PandasTa) : TechnicalCalls where
  calculateIndicators := calculateIndicators ta
  calculateMovingAverages := calculateMovingAverages ta
  calculatePivotPoints high low close open_ := .ok (calculatePivotPoints high low close open_)
  calculateSummaries indicators movingAverages :=
    .ok (calculateSummaries indicators movingAverages)

/-! ### The readings and their signals -/

/-- The reads of `calculate_indicators`. -/
def readTa (ta : PandasTa) (ohlcv : List OHLCVData) (params : IndicatorParams) :
    Except PyException TaReadings := do
  let high := ohlcv.map OHLCVData.high
  let low := ohlcv.map OHLCVData.low
  let close := ohlcv.map OHLCVData.close
  let rsi ← ta.rsi close params.rsiLength
  let stochK ← safeLastOf
    (← ta.stoch high low close params.stochK params.stochD params.stochSmoothK) 0
  let cci ← ta.cci high low close params.cciLength
  let adxDf ← ta.adx high low close params.adxLength
  let adx ← safeLastOf adxDf 0
  let plusDi ← safeLastOf adxDf 1
  let minusDi ← safeLastOf adxDf 2
  let ao ← ta.ao high low params.aoFast params.aoSlow
  let mom ← ta.mom close params.momentumLength
  let macdDf ← ta.macd close params.macdFast params.macdSlow params.macdSignal
  let macdLine ← safeLastOf macdDf 0
  let signalLine ← safeLastOf macdDf 2
  let willr ← ta.willr high low close params.willrLength
  let uo ← ta.uo high low close params.uoFast params.uoMedium params.uoSlow
  let atr ← ta.atr high low close params.atrLength
  let ema ← ta.ema close params.bbpLength
  let stochrsiK ← safeLastOf (← ta.stochrsi close params.stochrsiLength params.stochrsiRsiLength
    params.stochrsiK params.stochrsiD) 0
  let roc ← ta.roc close params.rocLength
  return {
    rsi := safeLast rsi
    stochK := stochK
    cci := safeLast cci
    adx := adx
    plusDi := plusDi
    minusDi := minusDi
    ao := safeLast ao
    momentum := safeLast mom
    macdLine := macdLine
    signalLine := signalLine
    willr := safeLast willr
    uo := safeLast uo
    atr := safeLast atr
    ema := safeLast ema
    high := high.getLast?
    low := low.getLast?
    stochrsiK := stochrsiK
    roc := safeLast roc }

/-- The indicators of a collection of readings. -/
def rateReadings (params : IndicatorParams) (r : TaReadings) : List IndicatorValue :=
  let bbp := bullBearPower r.ema r.high r.low
  [⟨s!"RSI({params.rsiLength})", r.rsi, rateBands r.rsi (farOutside 20 30 80 70)⟩,
    ⟨s!"STOCH.K({params.stochK})", r.stochK, rateBands r.stochK (outside 20 80)⟩,
    ⟨s!"CCI({params.cciLength})", r.cci, rateBands r.cci (farOutside (-200) (-100) 200 100)⟩,
    ⟨s!"ADX({params.adxLength})", r.adx, rateDirectional r.adx r.plusDi r.minusDi⟩,
    ⟨"AO", r.ao, rateBands r.ao aboveZero⟩,
    ⟨s!"Momentum({params.momentumLength})", r.momentum, rateBands r.momentum aboveZero⟩,
    ⟨s!"MACD({params.macdFast},{params.macdSlow},{params.macdSignal})", r.macdLine,
      rateCrossover r.macdLine r.signalLine⟩,
    ⟨s!"Williams %R({params.willrLength})", r.willr, rateBands r.willr (outside (-80) (-20))⟩,
    ⟨s!"UO({params.uoFast},{params.uoMedium},{params.uoSlow})", r.uo,
      rateBands r.uo (outside 30 70)⟩,
    ⟨s!"ATR({params.atrLength})", r.atr, .neutral⟩,
    ⟨s!"BBP({params.bbpLength})", bbp, rateBands bbp aboveZero⟩,
    ⟨s!"STOCHRSI.K({params.stochrsiLength})", r.stochrsiK, rateBands r.stochrsiK (outside 20 80)⟩,
    ⟨s!"ROC({params.rocLength})", r.roc, rateBands r.roc aboveZero⟩]

/-- **No rating raises**: the indicators are those of the readings. -/
theorem calculateIndicators_eq (ta : PandasTa) {ohlcv : List OHLCVData} (params : IndicatorParams)
    (h : 2 ≤ ohlcv.length) :
    calculateIndicators ta ohlcv params = (readTa ta ohlcv params).map (rateReadings params) := by
  have hmap {α β γ : Type} (x : Except PyException α) (f : α → Except PyException β) (g : β → γ) :
      (x >>= f).map g = x >>= fun a ↦ (f a).map g := by cases x <;> rfl
  have hok {α β : Type} (a : α) (f : α → Except PyException β) : (Except.ok a >>= f) = f a := rfl
  have hbands {key : String} {rules : List BandRule}
      (h : signalRatingConfig.lookup key = some (.bands rules)) (v : Option ℚ) :
      rateSignal key [v] = .ok (rateBands v rules) := by rw [rateSignal, h]
  have hadx (x y z : Option ℚ) : rateSignal "adx" [x, y, z] = .ok (rateDirectional x y z) := rfl
  have hmacd (x y : Option ℚ) : rateSignal "macd_crossover" [x, y] = .ok (rateCrossover x y) := rfl
  have hatr (x : Option ℚ) : rateSignal "atr" [x] = .ok .neutral := rfl
  have hrsi := hbands (show signalRatingConfig.lookup "rsi" = _ from rfl)
  have hstoch := hbands (show signalRatingConfig.lookup "stochastic" = _ from rfl)
  have hcci := hbands (show signalRatingConfig.lookup "cci" = _ from rfl)
  have hao := hbands (show signalRatingConfig.lookup "awesome_oscillator" = _ from rfl)
  have hmom := hbands (show signalRatingConfig.lookup "momentum" = _ from rfl)
  have hwillr := hbands (show signalRatingConfig.lookup "williams_r" = _ from rfl)
  have huo := hbands (show signalRatingConfig.lookup "ultimate_oscillator" = _ from rfl)
  have hbbp := hbands (show signalRatingConfig.lookup "bull_bear_power" = _ from rfl)
  have hstochrsi := hbands (show signalRatingConfig.lookup "stochrsi" = _ from rfl)
  have hroc := hbands (show signalRatingConfig.lookup "roc" = _ from rfl)
  rw [calculateIndicators, if_neg (not_lt.2 h), readTa]
  simp only [hmap, ratedIndicator, hadx, hmacd, hatr, hrsi, hstoch, hcci, hao, hmom, hwillr, huo,
    hbbp, hstochrsi, hroc, hok, pure_bind]
  rfl

/-- The indicators raise what a read raises; a series of one candle or none is not read. -/
theorem calculateIndicators_eq_error_iff {ta : PandasTa} {ohlcv : List OHLCVData}
    {params : IndicatorParams} {e : PyException} :
    calculateIndicators ta ohlcv params = .error e ↔
      2 ≤ ohlcv.length ∧ readTa ta ohlcv params = .error e := by
  by_cases h : 2 ≤ ohlcv.length
  · rw [calculateIndicators_eq ta params h, and_iff_right h]
    cases readTa ta ohlcv params with
    | error e' => simp [Except.map]
    | ok readings => simp [Except.map]
  · rw [calculateIndicators, if_pos (not_le.1 h)]
    simp [h]

/-! ### The readings turned around -/

/-- The readings of the market turned around `centre`: each is turned around the centre of its own
scale, and the two directional movements are exchanged. -/
def TaReadings.turn (centre : ℚ) (r : TaReadings) : TaReadings where
  rsi := r.rsi.map (100 - ·)
  stochK := r.stochK.map (100 - ·)
  cci := r.cci.map (- ·)
  adx := r.adx
  plusDi := r.minusDi
  minusDi := r.plusDi
  ao := r.ao.map (- ·)
  momentum := r.momentum.map (- ·)
  macdLine := r.macdLine.map (- ·)
  signalLine := r.signalLine.map (- ·)
  willr := r.willr.map (-100 - ·)
  uo := r.uo.map (100 - ·)
  atr := r.atr
  ema := r.ema.map (centre - ·)
  high := r.low.map (centre - ·)
  low := r.high.map (centre - ·)
  stochrsiK := r.stochrsiK.map (100 - ·)
  roc := r.roc.map (- ·)

theorem rateBands_turn {scale : BandScale} {rules : List BandRule} (h : RatesOn scale rules)
    {turn : ℚ → ℚ} (hturn : ∀ x, turn x = scale.turn x) (value : Option ℚ) :
    rateBands (value.map turn) rules = (rateBands value rules).mirror := by
  cases value with
  | none => rfl
  | some x =>
    rw [Option.map_some, hturn]
    exact h.mirrored x

theorem bullBearPower_turn (centre : ℚ) (ema high low : Option ℚ) :
    bullBearPower (ema.map (centre - ·)) (low.map (centre - ·)) (high.map (centre - ·)) =
      (bullBearPower ema high low).map (- ·) := by
  cases ema <;> cases high <;> cases low <;> try rfl
  next ema high low =>
    refine congrArg some ?_
    show centre - low - (centre - ema) + (centre - high - (centre - ema)) = _
    ring

theorem rateCrossover_neg (x y : Option ℚ) :
    rateCrossover (x.map (- ·)) (y.map (- ·)) = (rateCrossover x y).mirror := by
  rw [← rateCrossover_swap]
  cases x <;> cases y <;> try rfl
  next x y => simp only [Option.map_some, rateCrossover, neg_lt_neg_iff]

/-- **Every signal is mirrored.** -/
theorem signals_rateReadings_turn (params : IndicatorParams) (r : TaReadings) (centre : ℚ) :
    (rateReadings params (r.turn centre)).map (·.signal) =
      (rateReadings params r).map fun i ↦ i.signal.mirror := by
  have hzero : ∀ x : ℚ, -x = BandScale.turn ⟨0, true⟩ x := fun x ↦ by rw [BandScale.turn]; ring
  have hzero' : ∀ x : ℚ, -x = BandScale.turn ⟨0, false⟩ x := fun x ↦ by rw [BandScale.turn]; ring
  have hfifty : ∀ x : ℚ, 100 - x = BandScale.turn ⟨50, false⟩ x := fun x ↦ by
    rw [BandScale.turn]; ring
  have hwillr : ∀ x : ℚ, -100 - x = BandScale.turn ⟨-50, false⟩ x := fun x ↦ by
    rw [BandScale.turn]; ring
  have hoscillator {low high : ℚ} (hle : low ≤ high) (hsum : 2 * 50 = low + high) (x : Option ℚ) :
      rateBands (x.map (100 - ·)) (outside low high) = (rateBands x (outside low high)).mirror :=
    rateBands_turn (ratesOn_outside hle hsum) hfifty x
  have hfollowing (x : Option ℚ) :
      rateBands (x.map (- ·)) aboveZero = (rateBands x aboveZero).mirror :=
    rateBands_turn ratesOn_aboveZero hzero x
  have hrsi : rateBands (r.rsi.map (100 - ·)) (farOutside 20 30 80 70) =
      (rateBands r.rsi (farOutside 20 30 80 70)).mirror :=
    rateBands_turn (ratesOn_farOutside (by norm_num) (by norm_num) (by norm_num) (by norm_num)
      (by norm_num)) hfifty r.rsi
  have hcci : rateBands (r.cci.map (- ·)) (farOutside (-200) (-100) 200 100) =
      (rateBands r.cci (farOutside (-200) (-100) 200 100)).mirror :=
    rateBands_turn (ratesOn_farOutside (by norm_num) (by norm_num) (by norm_num) (by norm_num)
      (by norm_num)) hzero' r.cci
  have hwillr : rateBands (r.willr.map (-100 - ·)) (outside (-80) (-20)) =
      (rateBands r.willr (outside (-80) (-20))).mirror :=
    rateBands_turn (ratesOn_outside (by norm_num) (by norm_num)) hwillr r.willr
  simp only [rateReadings, TaReadings.turn, List.map_cons, List.map_nil, hrsi, hcci, hwillr,
    hfollowing, bullBearPower_turn, rateCrossover_neg, rateDirectional_swap r.adx r.plusDi,
    hoscillator (show (20 : ℚ) ≤ 80 by norm_num) (by norm_num),
    hoscillator (show (30 : ℚ) ≤ 70 by norm_num) (by norm_num)]
  rfl

/-! ### The decision -/

/-- What the averages of one period read. -/
structure AverageReadings where
  period : ℕ
  sma : Option ℚ
  ema : Option ℚ

/-- The averages turned around `centre`. -/
def AverageReadings.turn (centre : ℚ) (a : AverageReadings) : AverageReadings :=
  ⟨a.period, a.sma.map (centre - ·), a.ema.map (centre - ·)⟩

/-- The moving averages of a close and a collection of readings. -/
def rateAverages (lastClose : ℚ) (averages : List AverageReadings) : List MovingAverage :=
  averages.map fun a ↦ movingAverage lastClose a.period a.sma a.ema

/-- The reads of `calculate_moving_averages`. -/
def readAverages (ta : PandasTa) (ohlcv : List OHLCVData) :
    Except PyException (List AverageReadings) :=
  maPeriods.mapM fun period ↦ do
    let smaSeries ← ta.sma (ohlcv.map OHLCVData.close) period
    let emaSeries ← ta.ema (ohlcv.map OHLCVData.close) period
    return ⟨period, safeLast smaSeries, safeLast emaSeries⟩

/-- The moving averages are those of the readings, about the last close. -/
theorem calculateMovingAverages_eq (ta : PandasTa) {ohlcv : List OHLCVData} {last : OHLCVData}
    (h : 2 ≤ ohlcv.length) (hlast : ohlcv.getLast? = some last) :
    calculateMovingAverages ta ohlcv = (readAverages ta ohlcv).map (rateAverages last.close) := by
  have hclose : lastItem (ohlcv.map OHLCVData.close) = .ok last.close := by
    rw [lastItem, List.getLast?_map, hlast]
    rfl
  have hperiods (periods : List ℕ) :
      (periods.mapM fun period ↦ do
        let smaSeries ← ta.sma (ohlcv.map OHLCVData.close) period
        let emaSeries ← ta.ema (ohlcv.map OHLCVData.close) period
        return movingAverage last.close period (safeLast smaSeries) (safeLast emaSeries)) =
      (periods.mapM fun period ↦ do
        let smaSeries ← ta.sma (ohlcv.map OHLCVData.close) period
        let emaSeries ← ta.ema (ohlcv.map OHLCVData.close) period
        return AverageReadings.mk period (safeLast smaSeries) (safeLast emaSeries) :
          Except PyException (List AverageReadings)).map (rateAverages last.close) := by
    induction periods with
    | nil => rfl
    | cons period periods ih =>
      rw [List.mapM_cons, List.mapM_cons, ih]
      cases ta.sma (ohlcv.map OHLCVData.close) period with
      | error e => rfl
      | ok sma =>
        cases ta.ema (ohlcv.map OHLCVData.close) period with
        | error e => rfl
        | ok ema =>
          cases List.mapM (m := Except PyException) _ periods with
          | error e => rfl
          | ok averages => rfl
  rw [calculateMovingAverages, if_neg (not_lt.2 h)]
  show lastItem (ohlcv.map OHLCVData.close) >>= _ = _
  rw [hclose]
  exact hperiods maPeriods

theorem maSignal_turn (centre close : ℚ) (maValue : Option ℚ) :
    maSignal (centre - close) (maValue.map (centre - ·)) = (maSignal close maValue).mirror := by
  cases maValue with
  | none => rfl
  | some x =>
    simp only [maSignal, Option.map_some, sub_lt_sub_iff_left]
    rcases lt_trichotomy x close with h | rfl | h
    · rw [if_neg h.asymm, if_pos h, if_pos h]
      rfl
    · simp only [lt_irrefl, if_false, SignalType.mirror]
    · rw [if_pos h, if_neg h.asymm, if_pos h]
      rfl

/-- Moving averages with the signals of others. -/
theorem signals_rateAverages_turn (centre lastClose : ℚ) (averages : List AverageReadings) :
    (rateAverages (centre - lastClose) (averages.map (·.turn centre))).map
        (fun m ↦ (m.smaSignal, m.emaSignal)) =
      ((rateAverages lastClose averages).map MovingAverage.mirror).map fun m ↦
        (m.smaSignal, m.emaSignal) := by
  rw [rateAverages, rateAverages, List.map_map, List.map_map, List.map_map, List.map_map]
  refine List.map_congr_left fun a _ ↦ ?_
  exact Prod.ext (maSignal_turn centre lastClose a.sma) (maSignal_turn centre lastClose a.ema)

/-- The summary depends on the signals only. -/
theorem calculateSummaries_congr {indicators indicators' : List IndicatorValue}
    {averages averages' : List MovingAverage}
    (hindicators : indicators.map (·.signal) = indicators'.map (·.signal))
    (haverages : averages.map (fun m ↦ (m.smaSignal, m.emaSignal)) =
      averages'.map fun m ↦ (m.smaSignal, m.emaSignal)) :
    calculateSummaries indicators averages = calculateSummaries indicators' averages' := by
  have hind (l : List IndicatorValue) :
      tallyIndicators l = (l.map (·.signal)).foldl (fun c signal ↦ tally signal c) {} := by
    rw [tallyIndicators, List.foldl_map]
  have hma (l : List MovingAverage) : tallyMovingAverages l =
      (l.map fun m ↦ (m.smaSignal, m.emaSignal)).foldl
        (fun c signals ↦ tally signals.2 (tally signals.1 c)) {} := by
    rw [tallyMovingAverages, List.foldl_map]
  rw [calculateSummaries, calculateSummaries, hind, hind, hma, hma, hindicators, haverages]

/-- The aggregator of the readings, with their summary. -/
def readingsAggregator (params : IndicatorParams) (r : TaReadings) (lastClose : ℚ)
    (averages : List AverageReadings) (patterns : List PatternDetection)
    (fundamental : Option FundamentalData) : SignalAggregator where
  indicators := rateReadings params r
  movingAverages := rateAverages lastClose averages
  signalSummary := some
    (calculateSummaries (rateReadings params r) (rateAverages lastClose averages))
  patterns := patterns
  fundamental := fundamental

/-- **The decision from the readings.** The indicators and the averages of a series are those of
what is read from it. If the readings, the averages and the close are turned around, and the
patterns and the fundamental score mirrored, then the summary is mirrored, the score negated and the
direction opposite, for every pair of symmetric thresholds. -/
theorem technical_mirror (params : IndicatorParams) (r : TaReadings) (centre lastClose : ℚ)
    (averages : List AverageReadings) (patterns : List PatternDetection)
    (fundamental : Option FundamentalData) (weights : Option Weights) {t : ℚ} (ht : 0 < t) :
    (∀ (ta : PandasTa) (ohlcv : List OHLCVData) (last : OHLCVData), 2 ≤ ohlcv.length →
      ohlcv.getLast? = some last →
      calculateIndicators ta ohlcv params = (readTa ta ohlcv params).map (rateReadings params) ∧
      calculateMovingAverages ta ohlcv =
        (readAverages ta ohlcv).map (rateAverages last.close)) ∧
    calculateSummaries (rateReadings params (r.turn centre))
        (rateAverages (centre - lastClose) (averages.map (·.turn centre))) =
      (calculateSummaries (rateReadings params r) (rateAverages lastClose averages)).mirror ∧
    calculateWeightedScore (readingsAggregator params (r.turn centre) (centre - lastClose)
        (averages.map (·.turn centre)) (patterns.map .mirror) (fundamental.map .mirror)) weights =
      -calculateWeightedScore (readingsAggregator params r lastClose averages patterns fundamental)
        weights ∧
    determineDirection (calculateWeightedScore (readingsAggregator params (r.turn centre)
        (centre - lastClose) (averages.map (·.turn centre)) (patterns.map .mirror)
        (fundamental.map .mirror)) weights) (some t) (some (-t)) =
      (determineDirection (calculateWeightedScore (readingsAggregator params r lastClose averages
        patterns fundamental) weights) (some t) (some (-t))).map .opposite := by
  have hindicators : (rateReadings params (r.turn centre)).map (·.signal) =
      ((rateReadings params r).map IndicatorValue.mirror).map (·.signal) := by
    rw [signals_rateReadings_turn, List.map_map]
    rfl
  have hsummary := calculateSummaries_congr hindicators
    (signals_rateAverages_turn centre lastClose averages)
  rw [calculateSummaries_mirror] at hsummary
  have hscore : calculateWeightedScore (readingsAggregator params (r.turn centre)
        (centre - lastClose) (averages.map (·.turn centre)) (patterns.map .mirror)
        (fundamental.map .mirror)) weights =
      -calculateWeightedScore (readingsAggregator params r lastClose averages patterns fundamental)
        weights := by
    rw [← calculateWeightedScore_mirror]
    -- with a summary the score reads neither the indicators nor the averages
    show weightedAverage _ _ = weightedAverage _ _
    congr 1
    simp only [SignalAggregator.getAllSignals, SignalAggregator.normalizeTaSignal,
      readingsAggregator, SignalAggregator.mirror, hsummary, Option.map_some]
    rfl
  refine ⟨fun ta ohlcv last hlength hlast ↦ ⟨?_, ?_⟩, hsummary, hscore, ?_⟩
  · exact calculateIndicators_eq ta params hlength
  · exact calculateMovingAverages_eq ta hlength hlast
  · rw [hscore, determineDirection_neg ht]

/-- Readings of a market that has fallen, as far as it has any. -/
def oversold : TaReadings :=
  ⟨some 15, some 10, none, some 45, some 10, some 30, none, none, none, none, none, none, none,
    none, none, none, none, none⟩

/-- Turned around, it is a market that has risen. -/
theorem technical_mirror_oversold :
    determineDirection (calculateWeightedScore
        (readingsAggregator {} (oversold.turn 200) (200 - 100) [] [] none) none)
        (some 0.15) (some (-0.15)) =
      (determineDirection
        (calculateWeightedScore (readingsAggregator {} oversold 100 [] [] none) none)
        (some 0.15) (some (-0.15))).map .opposite :=
  (technical_mirror {} oversold 200 100 [] [] none none (by norm_num)).2.2.2

end InvestmentAssistant
