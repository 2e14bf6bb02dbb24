import InvestmentAssistant.PatternRecognition.LevelDetection

/-!
# Fibonacci retracement levels

The five retracement levels of the last significant swing: the last local high and the last local
low of the series span it, and which of them came first gives its direction. Unlike a clustered
level, a retracement level is not rounded before it is printed.
-/

namespace InvestmentAssistant

open Decimal

/-- `FIBO_LEVELS`. -/
def fiboLevels : List ℚ :=
  [236 / 1000, 382 / 1000, 1 / 2, 618 / 1000, 786 / 1000]

/-- The last significant swing of a series. -/
structure Swing where
  lastHighIdx : ℕ
  lastLowIdx : ℕ
  swingHigh : ℚ
  swingLow : ℚ
  deriving DecidableEq, Repr

/-- Uptrend retracement: the swing low came before the swing high. -/
def Swing.isUptrend (swing : Swing) : Bool :=
  decide (swing.lastLowIdx < swing.lastHighIdx)

/-- The price of a retracement level. -/
def Swing.fiboPrice (swing : Swing) (level : ℚ) : ℚ :=
  if swing.isUptrend then swing.swingHigh - level * (swing.swingHigh - swing.swingLow)
  else swing.swingLow + level * (swing.swingHigh - swing.swingLow)

/-- The last swing, if there is a local high and a local low and they differ in price. -/
def lastSwing (argrelextrema : Extrema) (ohlcv : List OHLCVData) :
    Except PyException (Option Swing) := do
  let highs := ohlcv.map (·.high)
  let lows := ohlcv.map (·.low)
  let swingHighIdx ← argrelextrema greaterEqual highs 5
  let swingLowIdx ← argrelextrema lessEqual lows 5
  match swingHighIdx.getLast?, swingLowIdx.getLast? with
  | some lastHighIdx, some lastLowIdx =>
    let swingHigh ← itemAt highs lastHighIdx
    let swingLow ← itemAt lows lastLowIdx
    if swingHigh = swingLow then return none
    else return some ⟨lastHighIdx, lastLowIdx, swingHigh, swingLow⟩
  | _, _ => return none

/-- `f"{level * 100:.1f}"`. -/
def levelPercent (level : ℚ) : String :=
  formatFixed 1 (level * 100)

/-- The pattern of one retracement level. -/
def retracementFields (swing : Swing) (level : ℚ) (active : Bool) : PatternFields where
  patternType := "Fibonacci " ++ levelPercent level ++ "%"
  confidence := roundTo 2 (if active then 8 / 10 else 5 / 10)
  description := (if swing.isUptrend then "Uptrend" else "Downtrend") ++ " retracement " ++
    levelPercent level ++ "% at " ++ formatFixed 2 (swing.fiboPrice level) ++
    (if active then " (ACTIVE)" else "")
  location := "fibo_" ++ levelPercent level
  bullish := swing.isUptrend
  category := .fibonacci
  detectedAtIndex := some (if swing.isUptrend then swing.lastHighIdx else swing.lastLowIdx)

/-- One pass of the loop over the levels. -/
def retracementDetection (swing : Swing) (currentPrice proximityPct level : ℚ) :
    Except PyException LevelDetection := do
  let distance ← floatDiv |currentPrice - swing.fiboPrice level| currentPrice
  LevelDetection.build .retracement (swing.fiboPrice level)
    (retracementFields swing level (decide (distance * 100 ≤ proximityPct)))

/-- The detections of `calculate_fibonacci_levels`. -/
def fibonacciDetections (argrelextrema : Extrema) (ohlcv : List OHLCVData)
    (proximityPct : ℚ := 1) : Except PyException (List LevelDetection) :=
  if ohlcv.length < 20 then .ok []
  else do
    match ← lastSwing argrelextrema ohlcv with
    | none => return []
    | some swing =>
      let currentPrice ← currentClose ohlcv
      fiboLevels.mapM (retracementDetection swing currentPrice proximityPct)

/-- `calculate_fibonacci_levels`. -/
def calculateFibonacciLevels (argrelextrema : Extrema) (ohlcv : List OHLCVData)
    (proximityPct : ℚ := 1) : Except PyException (List PatternDetection) :=
  (fibonacciDetections argrelextrema ohlcv proximityPct).map (·.map LevelDetection.pattern)

/-! ### What the detections say -/

/-- The text of a detection of `calculate_fibonacci_levels`. -/
structure RetracementText (d : LevelDetection) : Prop where
  source : d.source = .retracement
  text : ∃ (isUptrend active : Bool) (level : ℚ), d.pattern.description =
    (if isUptrend then "Uptrend" else "Downtrend") ++ " retracement " ++ levelPercent level ++
      "% at " ++ formatFixed 2 d.level ++ (if active then " (ACTIVE)" else "")

/-- **Every detection is a retracement level**, with its text. -/
theorem retracementText_of_mem {argrelextrema : Extrema} {ohlcv : List OHLCVData}
    {proximityPct : ℚ} {detections : List LevelDetection}
    (h : fibonacciDetections argrelextrema ohlcv proximityPct = .ok detections)
    {d : LevelDetection} (hd : d ∈ detections) : RetracementText d := by
  unfold fibonacciDetections at h
  split at h
  · cases h
    exact absurd hd List.not_mem_nil
  · obtain ⟨swing, -, h⟩ := bind_eq_ok_iff.1 h
    cases swing with
    | none =>
      cases h
      exact absurd hd List.not_mem_nil
    | some swing =>
      obtain ⟨_, -, h⟩ := bind_eq_ok_iff.1 h
      obtain ⟨level, -, h⟩ := exists_of_mem_of_mapM_eq_ok h hd
      obtain ⟨_, -, h⟩ := bind_eq_ok_iff.1 h
      obtain ⟨hsource, hlevel, hfields⟩ := LevelDetection.of_build h
      exact ⟨hsource, _, _, level, by rw [hfields, hlevel]; rfl⟩

end InvestmentAssistant
