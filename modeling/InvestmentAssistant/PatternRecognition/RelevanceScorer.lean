import InvestmentAssistant.PatternRecognition.Recognition
import InvestmentAssistant.StrategyGenerator.SlTpCalculator

/-!
# Relevance scores and target prices

`scorePatterns` weighs the confidence of a pattern, how recent it is, and, for a level, how close
its price is to the current one. `calculateTargetPrices` projects the patterns of candles by a
multiple of the average true range, and takes the price of a level for its own target. Both read the
price of a level back from a text, and both write their result into the patterns.

A captured run of digits and points need not be a number; `float` refuses a second point and a run
without a digit. `score_patterns` never raises, and the exceptions that `calculate_target_prices`
catches do not occur.
-/

namespace InvestmentAssistant

open Decimal CharClass

/-! ### The price in a text -/

/-- `[\d.]+` at the head of a text. -/
def digitsAndPoints (text : List Char) : Option (List Char) :=
  let run := text.takeWhile fun c ↦ isDecimalDigit c || c == '.'
  if run = [] then none else some run

/-- `at\s+([\d.]+)` at the head of a text, with the captured run. -/
def fiboPriceAt (text : List Char) : Option (List Char) :=
  if "at".toList <+: text then
    match text.drop 2 with
    | c :: rest => if isBlank c then digitsAndPoints (rest.dropWhile isBlank) else none
    | [] => none
  else none

/-- `price_([\d.]+)` at the head of a text, with the captured run. -/
def srPriceAt (text : List Char) : Option (List Char) :=
  if "price_".toList <+: text then digitsAndPoints (text.drop 6) else none

/-- `float` of a run of digits and points; `none` is the `ValueError`. -/
def floatOfRun (run : List Char) : Option ℚ :=
  if run.count '.' ≤ 1 ∧ run.any isDecimalDigit then some (readDecimal run) else none

/-- `_extract_level_price`: what the leftmost match captures. -/
def extractLevelPrice (regexAt : List Char → Option (List Char)) (text : String) : Option ℚ :=
  (text.toList.tails.findSome? regexAt).bind floatOfRun

/-! ### Relevance scores -/

/-- `_proximity_from_level`. -/
def proximityFromLevel (currentPrice levelPrice : ℚ) : ℚ :=
  let priceRange := currentPrice * 0.05
  if priceRange = 0 then 1
  else max 0 (1 - min 1 (|currentPrice - levelPrice| / priceRange))

/-- The price of the level a pattern stands for, when it is one and its text has a price. -/
def levelPrice (p : PatternDetection) : Option ℚ :=
  match p.category with
  | .supportResistance => extractLevelPrice srPriceAt p.location
  | .fibonacci => extractLevelPrice fiboPriceAt p.description
  | _ => none

/-- `_calculate_proximity`. -/
def calculateProximity (p : PatternDetection) (currentPrice : ℚ) : ℚ :=
  if currentPrice ≤ 0 then 1
  else
    match levelPrice p with
    | some price => proximityFromLevel currentPrice price
    | none => 1

/-- The candle a pattern was found at; a pattern that does not say counts as found at the last. -/
def detectedIndex (totalCandles : ℤ) (p : PatternDetection) : ℤ :=
  p.detectedAtIndex.getD (totalCandles - 1)

/-- `recency`. -/
def recency (totalCandles : ℤ) (p : PatternDetection) : ℚ :=
  let candlesSince := totalCandles - 1 - detectedIndex totalCandles p
  max 0 (1 - candlesSince / totalCandles)

/-- The score of a pattern before it is clamped and rounded. -/
def relevance (totalCandles : ℤ) (currentPrice : ℚ) (p : PatternDetection) : ℚ :=
  0.5 * p.confidence + 0.35 * recency totalCandles p + 0.15 * calculateProximity p currentPrice

/-- Rounding keeps a number within `[0, 1]`. -/
theorem inUnit_roundTo (d : ℕ) {x : ℚ} (h : InUnit x) : InUnit (roundTo d x) :=
  ⟨(hasDecimals_zero d).le_roundTo h.1, (hasDecimals_one d).roundTo_le h.2⟩

/-- A clamped number is within `[0, 1]`. -/
theorem inUnit_clamp (x : ℚ) : InUnit (min 1 (max 0 x)) :=
  ⟨le_min zero_le_one (le_max_left 0 x), min_le_left 1 _⟩

/-- The body of the loop of `score_patterns`. -/
def scorePattern (totalCandles : ℤ) (currentPrice : ℚ) (p : PatternDetection) : PatternDetection :=
  { p with
    relevanceScore := roundTo 4 (min 1 (max 0 (relevance totalCandles currentPrice p)))
    relevanceScore_inUnit := inUnit_roundTo 4 (inUnit_clamp _) }

@[simp] theorem scorePattern_relevanceScore (totalCandles : ℤ) (currentPrice : ℚ)
    (p : PatternDetection) : (scorePattern totalCandles currentPrice p).relevanceScore =
      roundTo 4 (min 1 (max 0 (relevance totalCandles currentPrice p))) := rfl

/-- `score_patterns`. -/
def scorePatterns (patterns : List PatternDetection) (totalCandles : ℤ) (currentPrice : ℚ) :
    InPlace :=
  if patterns = [] ∨ totalCandles ≤ 0 then ⟨patterns, .ok ()⟩
  else ⟨patterns.map (scorePattern totalCandles currentPrice), .ok ()⟩

/-! ### Target prices -/

/-- `_calculate_atr14`, a loop over the indices of the candles after the first. -/
def calculateAtr14 (ohlcv : List OHLCVData) : ℚ :=
  let period := 14
  let n := ohlcv.length
  if n < period + 1 then 0
  else
    let highs := ohlcv.map OHLCVData.high
    let lows := ohlcv.map OHLCVData.low
    let closes := ohlcv.map OHLCVData.close
    let tr := (List.range' 1 (n - 1)).map fun i ↦
      let hl := highs.getD i 0 - lows.getD i 0
      let hc := |highs.getD i 0 - closes.getD (i - 1) 0|
      let lc := |lows.getD i 0 - closes.getD (i - 1) 0|
      max (max hl hc) lc
    mean (lastItems period tr)

/-- `_target_for_pattern`. -/
def targetForPattern (p : PatternDetection) (currentPrice atr : ℚ) : Option ℚ :=
  let direction : ℚ := if p.bullish then 1 else -1
  let project (multiplier : ℚ) : Option ℚ :=
    if atr ≤ 0 then none else some (roundTo 6 (currentPrice + direction * atr * multiplier))
  match p.category with
  | .candlestick => project 1.5
  | .chartPattern | .iki => project 2
  | .fibonacci | .supportResistance => (levelPrice p).map (roundTo 6)

/-- `calculate_target_prices`. -/
def calculateTargetPrices (patterns : List PatternDetection) (ohlcv : List OHLCVData) : InPlace :=
  match ohlcv.getLast? with
  | none => ⟨patterns, .ok ()⟩
  | some last =>
    ⟨patterns.map fun p ↦
      { p with targetPrice := targetForPattern p last.close (calculateAtr14 ohlcv) }, .ok ()⟩

end InvestmentAssistant
