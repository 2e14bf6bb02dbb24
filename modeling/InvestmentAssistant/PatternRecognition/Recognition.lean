import InvestmentAssistant.PatternRecognition.LevelDetection

/-!
# Pattern recognition over one series of candles

`stepPatternRecognition` runs the five detectors, dates what they find, estimates target prices,
scores the patterns and sorts them by their scores. A detector that raises contributes nothing, and
a pass that raises leaves the patterns as far as it came; so on a series with candles the step
returns (`exists_stepPatternRecognition`).

The detectors and the two passes are parameters (`PatternCalls`).
-/

namespace InvestmentAssistant

/-! ### The text of a timestamp -/

namespace DateTime

/-- A non-negative number with at least `width` digits. -/
def padded (width : ℕ) (n : ℤ) : String :=
  String.ofList ((toString n.toNat).toList.leftpad width '0')

/-- The year, month and day of a day counted from 1970-01-01, in the proleptic Gregorian
calendar. -/
def civilDate (day : ℤ) : ℤ × ℤ × ℤ :=
  -- years are counted from March, so that the leap day is the last one; 400 of them are an era
  let z := day + 719468
  let dayOfEra := z % 146097
  let yearOfEra := (dayOfEra - dayOfEra / 1460 + dayOfEra / 36524 - dayOfEra / 146096) / 365
  let dayOfYear := dayOfEra - (365 * yearOfEra + yearOfEra / 4 - yearOfEra / 100)
  let monthFromMarch := (5 * dayOfYear + 2) / 153
  let month := if monthFromMarch < 10 then monthFromMarch + 3 else monthFromMarch - 9
  let year := yearOfEra + z / 146097 * 400 + if month ≤ 2 then 1 else 0
  (year, month, dayOfYear - (153 * monthFromMarch + 2) / 5 + 1)

/-- Hours, minutes and seconds of a number of microseconds; whole seconds have no fraction. -/
def clockText (microseconds : ℤ) : String :=
  let seconds := microseconds / 1000000
  let fraction := microseconds % 1000000
  s!"{padded 2 (seconds / 3600)}:{padded 2 (seconds / 60 % 60)}:{padded 2 (seconds % 60)}" ++
    if fraction = 0 then "" else "." ++ padded 6 fraction

/-- The offset from UTC; whole minutes have no seconds. -/
def offsetText (offset : ℤ) : String :=
  let sign := if offset < 0 then "-" else "+"
  let text := clockText |offset|
  sign ++ if offset % 60000000 = 0 then String.ofList (text.toList.take 5) else text

/-- `isoformat`, of a reading in microseconds from 1970-01-01. -/
def isoformat (t : DateTime) : String :=
  let (year, month, day) := civilDate (t.wall / 86400000000)
  s!"{padded 4 year}-{padded 2 month}-{padded 2 day}T" ++ clockText (t.wall % 86400000000) ++
    (t.utcoffset.map offsetText).getD ""

end DateTime

/-! ### The calls -/

/-- The patterns after a pass that changes them in place, and how the pass ended. -/
structure InPlace where
  patterns : List PatternDetection
  result : Except PyException Unit

/-- The functions pattern recognition calls. -/
structure PatternCalls where
  detectCandlestickPatterns : List OHLCVData → Except PyException (List PatternDetection)
  detectSupportResistance : List OHLCVData → Except PyException (List PatternDetection)
  calculateFibonacciLevels : List OHLCVData → Except PyException (List PatternDetection)
  detectChartPatterns : List OHLCVData → Except PyException (List PatternDetection)
  detectIkiPattern : List OHLCVData → Except PyException (List PatternDetection)
  calculateTargetPrices : List PatternDetection → List OHLCVData → InPlace
  /-- `score_patterns`, of the patterns, the number of candles and the current price. -/
  scorePatterns : List PatternDetection → ℕ → ℚ → InPlace

namespace PatternCalls

variable (calls : PatternCalls)

/-- The detectors, in the order they are run. -/
def detectors : List (List OHLCVData → Except PyException (List PatternDetection)) :=
  [calls.detectCandlestickPatterns, calls.detectSupportResistance, calls.calculateFibonacciLevels,
    calls.detectChartPatterns, calls.detectIkiPattern]

/-- What the detectors find; one that raises is passed over. -/
def detect (ohlcv : List OHLCVData) : List PatternDetection :=
  calls.detectors.flatMap fun func ↦
    match func ohlcv with
    | .ok found => found
    | .error _ => []

/-- The `try` block around `score_patterns`, which also reads the current price. -/
def score (patterns : List PatternDetection) (ohlcv : List OHLCVData) : InPlace :=
  match lastItem ohlcv with
  | .ok last => calls.scorePatterns patterns ohlcv.length last.close
  | .error e => ⟨patterns, .error e⟩

end PatternCalls

/-- Date a pattern by its candle; an index out of range stands for the nearest candle, a missing one
for the last. -/
def locatePattern (ohlcv : List OHLCVData) (timeframe : Option Timeframe) (p : PatternDetection) :
    Except PyException PatternDetection := do
  let lastIndex : ℤ := ohlcv.length - 1
  let idx := max 0 (min (p.detectedAtIndex.getD lastIndex) lastIndex)
  let candle ← itemAt ohlcv idx.toNat
  return { p with detectedAtTimestamp := candle.timestamp.isoformat, timeframe }

/-- `patterns.sort(key=lambda p: p.relevance_score, reverse=True)`; the sort is stable. -/
def sortByRelevance (patterns : List PatternDetection) : List PatternDetection :=
  patterns.insertionSort fun a b ↦ b.relevanceScore ≤ a.relevanceScore

/-- What follows the detection. An exception of either pass is logged. -/
def rankPatterns (calls : PatternCalls) (ohlcv : List OHLCVData) (timeframe : Option Timeframe)
    (found : List PatternDetection) : Except PyException (List PatternDetection) := do
  let located ← found.mapM (locatePattern ohlcv timeframe)
  let targeted := (calls.calculateTargetPrices located ohlcv).patterns
  return sortByRelevance (calls.score targeted ohlcv).patterns

/-- `_step_pattern_recognition`. -/
def stepPatternRecognition (calls : PatternCalls) (ohlcv : List OHLCVData)
    (timeframe : Option Timeframe) : Except PyException (List PatternDetection) :=
  rankPatterns calls ohlcv timeframe (calls.detect ohlcv)

/-! ### The step returns -/

/-- A series with candles has one for each pattern. -/
theorem exists_locatePattern {ohlcv : List OHLCVData} (h : ohlcv ≠ [])
    (timeframe : Option Timeframe)
    (p : PatternDetection) : ∃ q, locatePattern ohlcv timeframe p = .ok q := by
  have hpos : 0 < ohlcv.length := List.length_pos_of_ne_nil h
  unfold locatePattern
  dsimp only
  set idx := max 0 (min (p.detectedAtIndex.getD (ohlcv.length - 1)) (ohlcv.length - 1 : ℤ))
  have hidx : idx.toNat < ohlcv.length := by omega
  rw [itemAt, List.getElem?_eq_getElem hidx]
  exact ⟨_, rfl⟩

/-- **Whatever fails, the step returns** on a series with candles. -/
theorem exists_stepPatternRecognition (calls : PatternCalls) {ohlcv : List OHLCVData}
    (h : ohlcv ≠ []) (timeframe : Option Timeframe) :
    ∃ patterns, stepPatternRecognition calls ohlcv timeframe = .ok patterns := by
  obtain ⟨located, hlocated⟩ := exists_mapM_eq_ok fun p (_ : p ∈ calls.detect ohlcv) ↦
    exists_locatePattern h timeframe p
  rw [stepPatternRecognition, rankPatterns, hlocated]
  exact ⟨_, rfl⟩

end InvestmentAssistant
