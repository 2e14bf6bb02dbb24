import InvestmentAssistant.Core.Mirror
import InvestmentAssistant.StrategyGenerator.SlTpCalculator

/-!
# Impulse, correction, impulse

`detectIkiPattern` starts at each candle of the recent past and looks for a move of twice the
average true range, a correction of 38.2 to 61.8 percent of it, and a second move in the direction
of the first. Each phase takes the first candle that will do; a correction that is too deep ends the
search from that start. Of the patterns found it keeps the latest one of each direction.

The two directions differ in which price of a candle they read, so each phase is written once with
the prices of the direction.
-/

namespace InvestmentAssistant

open Decimal

/-- `FIBO_RETRACEMENT_MIN`. -/
def fiboRetracementMin : ℚ := 0.382

/-- `FIBO_RETRACEMENT_MAX`. -/
def fiboRetracementMax : ℚ := 0.618

/-- `ATR_IMPULSE_MULTIPLIER`. -/
def atrImpulseMultiplier : ℚ := 2

namespace Iki

/-- `_calculate_atr`. -/
def calculateAtr (ohlcv : List OHLCVData) (period : ℕ) : ℚ :=
  if ohlcv.length < period + 1 then 0 else mean (lastItems period (trueRanges ohlcv))

/-! ### Prices of a direction -/

section Prices

variable (ohlcv : List OHLCVData) (bullish : Bool)

/-- `highs[i]`. -/
def highs (i : ℕ) : ℚ :=
  (ohlcv.map OHLCVData.high).getD i 0

/-- `lows[i]`. -/
def lows (i : ℕ) : ℚ :=
  (ohlcv.map OHLCVData.low).getD i 0

/-- `move`: how far the price got from the start. -/
def move (start j : ℕ) : ℚ :=
  if bullish then highs ohlcv j - lows ohlcv start else highs ohlcv start - lows ohlcv j

/-- `impulse_start_price`. -/
def impulseStartPrice (start : ℕ) : ℚ :=
  if bullish then lows ohlcv start else highs ohlcv start

/-- `impulse_end_price`. -/
def impulseEndPrice (impulseEnd : ℕ) : ℚ :=
  if bullish then highs ohlcv impulseEnd else lows ohlcv impulseEnd

/-- `impulse_size`. -/
def impulseSize (start impulseEnd : ℕ) : ℚ :=
  |impulseEndPrice ohlcv bullish impulseEnd - impulseStartPrice ohlcv bullish start|

/-- `retrace`: how far the price came back from the end of the impulse. -/
def retrace (impulseEnd k : ℕ) : ℚ :=
  if bullish then impulseEndPrice ohlcv bullish impulseEnd - lows ohlcv k
  else highs ohlcv k - impulseEndPrice ohlcv bullish impulseEnd

/-- `retrace_ratio`. -/
def retraceRatio (start impulseEnd k : ℕ) : ℚ :=
  if 0 < impulseSize ohlcv bullish start impulseEnd then
    retrace ohlcv bullish impulseEnd k / impulseSize ohlcv bullish start impulseEnd
  else 0

/-- `correction_price`. -/
def correctionPrice (correctionEnd : ℕ) : ℚ :=
  if bullish then lows ohlcv correctionEnd else highs ohlcv correctionEnd

/-- `second_move`. -/
def secondMove (correctionEnd m : ℕ) : ℚ :=
  if bullish then highs ohlcv m - correctionPrice ohlcv bullish correctionEnd
  else correctionPrice ohlcv bullish correctionEnd - lows ohlcv m

end Prices

/-! ### The three phases -/

section Phases

variable (ohlcv : List OHLCVData) (bullish : Bool) (impulseThreshold : ℚ)

/-- `range(start, min(stop, n))`. -/
def clippedRange (start stop : ℕ) : List ℕ :=
  List.range' start (min stop ohlcv.length - start)

/-- The first loop of `_find_iki`. -/
def findImpulseEnd (start : ℕ) : Option ℕ :=
  (clippedRange ohlcv (start + 2) (start + 10)).find? fun j ↦
    impulseThreshold ≤ move ohlcv bullish start j

/-- The second loop; a correction that is too deep ends it without a result. -/
def findCorrectionEnd (start impulseEnd : ℕ) : List ℕ → Option ℕ
  | [] => none
  | k :: ks =>
    if fiboRetracementMin ≤ retraceRatio ohlcv bullish start impulseEnd k ∧
        retraceRatio ohlcv bullish start impulseEnd k ≤ fiboRetracementMax then some k
    else if fiboRetracementMax < retraceRatio ohlcv bullish start impulseEnd k then none
    else findCorrectionEnd start impulseEnd ks

/-- The third loop. -/
def findSecondImpulse (correctionEnd : ℕ) : Option ℕ :=
  (clippedRange ohlcv (correctionEnd + 1) (correctionEnd + 10)).find? fun m ↦
    impulseThreshold * 0.5 ≤ secondMove ohlcv bullish correctionEnd m

/-- Where the three phases of a pattern end. -/
structure Phases where
  impulseEnd : ℕ
  correctionEnd : ℕ
  secondEnd : ℕ
  deriving DecidableEq, Repr

/-- The phases of the pattern that starts at a candle. -/
def findPhases (start : ℕ) : Option Phases :=
  (findImpulseEnd ohlcv bullish impulseThreshold start).bind fun j ↦
    (findCorrectionEnd ohlcv bullish start j (clippedRange ohlcv (j + 1) (j + 15))).bind fun k ↦
      (findSecondImpulse ohlcv bullish impulseThreshold k).map fun m ↦ ⟨j, k, m⟩

/-- The confidence before it is rounded. -/
def confidence (phases : Phases) : ℚ :=
  min 1 (secondMove ohlcv bullish phases.correctionEnd phases.secondEnd / impulseThreshold * 0.7 +
    0.3)

/-- `direction`. -/
def directionText : String :=
  if bullish then "Bullish" else "Bearish"

/-- The fields of the pattern. -/
def fields (start : ℕ) (phases : Phases) : PatternFields where
  patternType := s!"IKI ({directionText bullish})"
  confidence := roundTo 2 (confidence ohlcv bullish impulseThreshold phases)
  description :=
    let impulse := formatFixed 2 (impulseSize ohlcv bullish start phases.impulseEnd)
    let correction := formatFixed 2 (correctionPrice ohlcv bullish phases.correctionEnd)
    s!"{directionText bullish} IKI: impulse {impulse}, correction to {correction}, " ++
      "second impulse confirmed"
  location := s!"candle_{start}_{phases.secondEnd}"
  bullish := bullish
  category := .iki
  detectedAtIndex := some start

/-- `_find_iki`. -/
def findIki (start : ℕ) : Except PyException (Option PatternDetection) :=
  match findPhases ohlcv bullish impulseThreshold start with
  | none => .ok none
  | some phases => some <$> (fields ohlcv bullish impulseThreshold start phases).validate

end Phases

/-- `seen[pattern.bullish] = pattern`: the place of the first pattern of a direction, and its last
pattern. -/
def keepLatest : List PatternDetection → PatternDetection → List PatternDetection
  | [], pattern => [pattern]
  | p :: seen, pattern =>
    if p.bullish = pattern.bullish then pattern :: seen else p :: keepLatest seen pattern

end Iki

/-- `detect_iki_pattern`. -/
def detectIkiPattern (ohlcv : List OHLCVData) (atrPeriod : ℕ := 14) :
    Except PyException (List PatternDetection) :=
  if ohlcv.length < atrPeriod + 20 then .ok []
  else
    let atr := Iki.calculateAtr ohlcv atrPeriod
    if atr ≤ 0 then .ok []
    else do
      let scanStart := max atrPeriod (ohlcv.length - 60)
      let impulseThreshold := atrImpulseMultiplier * atr
      let results ← (List.range' scanStart (ohlcv.length - 10 - scanStart)).mapM fun i ↦ do
        let bullishIki ← Iki.findIki ohlcv true impulseThreshold i
        let bearishIki ← Iki.findIki ohlcv false impulseThreshold i
        pure (bullishIki.toList ++ bearishIki.toList)
      return results.flatten.foldl Iki.keepLatest []

end InvestmentAssistant
