import Mathlib.Data.List.Sort
import InvestmentAssistant.PatternRecognition.SupportResistance
import InvestmentAssistant.StrategyGenerator.PriceExtraction

/-!
# Stop loss and take profit

`calculateSlTp` puts the stop loss behind the nearest level against the trade, or at a multiple of
the average true range, and looks for two targets among the levels in its favour. The levels are
read back from the descriptions of the support and resistance patterns.

The two directions are mirror images, so the search for targets is one fold (`pickTargets`) with the
comparisons of the direction.
-/

namespace InvestmentAssistant

open Decimal

/-- `ATR_MULTIPLIER_SL`. -/
def atrMultiplierSl : ℚ := 1.5

/-- `ATR_MULTIPLIER_TP_FALLBACK`. -/
def atrMultiplierTpFallback : ℚ := 3

/-- `ATR_PERIOD`. -/
def atrPeriod : ℕ := 14

/-! ### The average true range -/

/-- The true range of a candle after a candle that closed at `prevClose`. -/
def trueRange (prevClose : ℚ) (candle : OHLCVData) : ℚ :=
  max (max (candle.high - candle.low) |candle.high - prevClose|) |candle.low - prevClose|

/-- The true ranges of the second candle and of those after it. -/
def trueRanges (ohlcv : List OHLCVData) : List ℚ :=
  ohlcv.zipWith (fun previous candle ↦ trueRange previous.close candle) ohlcv.tail

/-- `xs[-n:]`; the last `0` items are all of them. -/
def lastItems {α : Type} (n : ℕ) (xs : List α) : List α :=
  if n = 0 then xs else xs.drop (xs.length - n)

/-- `calculate_atr`. -/
def calculateAtr (ohlcv : List OHLCVData) (period : ℕ := atrPeriod) : ℚ :=
  if ohlcv.length < 2 then 0 else mean (lastItems period (trueRanges ohlcv))

/-! ### The levels of a trade -/

/-- A level with whether it is a resistance. -/
abbrev SrLevel := ℚ × Bool

/-- The supports below the entry. -/
def supportsBelow (entryPrice : ℚ) (srLevels : List SrLevel) : List ℚ :=
  (srLevels.filter fun level ↦ !level.2 && decide (level.1 < entryPrice)).map Prod.fst

/-- The resistances above the entry. -/
def resistancesAbove (entryPrice : ℚ) (srLevels : List SrLevel) : List ℚ :=
  (srLevels.filter fun level ↦ level.2 && decide (entryPrice < level.1)).map Prod.fst

/-- `_calculate_sl`. -/
def calculateSl (entryPrice : ℚ) (direction : Direction) (srLevels : List SrLevel) (atr : ℚ) : ℚ :=
  match direction with
  | .long =>
    match (supportsBelow entryPrice srLevels).max? with
    | some nearestSupport => nearestSupport - atr * 0.5
    | none => entryPrice - atr * atrMultiplierSl
  | .short =>
    match (resistancesAbove entryPrice srLevels).min? with
    | some nearestResistance => nearestResistance + atr * 0.5
    | none => entryPrice + atr * atrMultiplierSl

/-- The first target that reaches the first minimum, and the first one after it that reaches the
second. -/
def pickTargets (reachesTp1 reachesTp2 : ℚ → Bool) (targets : List ℚ) : Option ℚ × Option ℚ :=
  targets.foldl (fun (tp1, tp2) t ↦
    if tp1.isNone && reachesTp1 t then (some t, tp2)
    else if tp1.isSome && tp2.isNone && reachesTp2 t then (tp1, some t)
    else (tp1, tp2)) (none, none)

/-- `_calculate_tp`. -/
def calculateTp (entryPrice : ℚ) (direction : Direction) (srLevels : List SrLevel)
    (risk atr : ℚ) : ℚ × ℚ :=
  match direction with
  | .long =>
    let targets := (resistancesAbove entryPrice srLevels).insertionSort (· ≤ ·)
    let minTp1 := entryPrice + risk
    let minTp2 := entryPrice + risk * 2
    let found := pickTargets (fun t ↦ minTp1 ≤ t) (fun t ↦ minTp2 ≤ t) targets
    let tp1 := found.1.getD (entryPrice + atr * atrMultiplierTpFallback)
    let atrFallback := entryPrice + atr * atrMultiplierTpFallback * 2
    let tp2 := found.2.getD (max atrFallback (tp1 + risk))
    (tp1, if tp2 ≤ tp1 then tp1 + risk else tp2)
  | .short =>
    let targets := (supportsBelow entryPrice srLevels).insertionSort (· ≥ ·)
    let minTp1 := entryPrice - risk
    let minTp2 := entryPrice - risk * 2
    let found := pickTargets (fun t ↦ t ≤ minTp1) (fun t ↦ t ≤ minTp2) targets
    let tp1 := found.1.getD (entryPrice - atr * atrMultiplierTpFallback)
    let atrFallback := entryPrice - atr * atrMultiplierTpFallback * 2
    let tp2 := found.2.getD (min atrFallback (tp1 - risk))
    (tp1, if tp1 ≤ tp2 then tp1 - risk else tp2)

/-- The stop loss and the two targets of a trade. -/
structure SlTp where
  stopLoss : ℚ
  tp1 : ℚ
  tp2 : ℚ
  deriving DecidableEq, Repr

/-- The levels before they are rounded. -/
def exactSlTp (entryPrice : ℚ) (direction : Direction) (srLevels : List SrLevel) (atr : ℚ) : SlTp :=
  let stopLoss := calculateSl entryPrice direction srLevels atr
  let (tp1, tp2) := calculateTp entryPrice direction srLevels |entryPrice - stopLoss| atr
  ⟨stopLoss, tp1, tp2⟩

/-- `calculate_sl_tp`. -/
def calculateSlTp (ohlcv : List OHLCVData) (direction : Direction) (entryPrice : ℚ)
    (supportResistance : List PatternDetection) : SlTp :=
  let exact :=
    exactSlTp entryPrice direction (extractSrPrices supportResistance) (calculateAtr ohlcv)
  ⟨roundTo 5 exact.stopLoss, roundTo 5 exact.tp1, roundTo 5 exact.tp2⟩

end InvestmentAssistant
