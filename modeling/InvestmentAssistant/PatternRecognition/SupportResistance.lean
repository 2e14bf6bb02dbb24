import Mathlib.Data.List.Sort
import InvestmentAssistant.PatternRecognition.LevelDetection

/-!
# Support and resistance levels

Local extrema of the highs and lows are clustered by price, and each cluster becomes a support or a
resistance at its mean, rounded to four decimals. A price near the 50- or 200-period exponential
moving average gives a further pattern.

The mean of a cluster is a `numpy` number, so dividing by a mean of zero does not raise: the
quotient is infinite or no number, and the comparison with the tolerance fails (`joinsCluster`). The
close and the moving average are plain floats, and dividing by zero there raises.
-/

namespace InvestmentAssistant

open Decimal

/-- A price and whether it is a local high. -/
abbrev RawLevel := ℚ × Bool

/-- The price of each extremum, marked as resistance or support. -/
def rawLevels (prices : List ℚ) (isResistance : Bool) (idx : List ℕ) :
    Except PyException (List RawLevel) :=
  idx.mapM fun i ↦ (itemAt prices i).map fun price ↦ (price, isResistance)

/-- `np.mean`. -/
def mean (xs : List ℚ) : ℚ :=
  xs.sum / xs.length

/-- `abs(price - cluster_avg) / cluster_avg * 100 <= tolerance_pct`. -/
def joinsCluster (tolerancePct : ℚ) (cluster : List RawLevel) (price : ℚ) : Bool :=
  let avg := mean (cluster.map Prod.fst)
  decide (avg ≠ 0 ∧ |price - avg| / avg * 100 ≤ tolerancePct)

/-- The clusters of a sorted list of levels, with `cluster` the one under construction. -/
def growClusters (tolerancePct : ℚ) (cluster : List RawLevel) :
    List RawLevel → List (List RawLevel)
  | [] => [cluster]
  | level :: levels =>
    if joinsCluster tolerancePct cluster level.1 then
      growClusters tolerancePct (cluster ++ [level]) levels
    else cluster :: growClusters tolerancePct [level] levels

/-- A clustered level: price, side by majority vote, and number of touches. -/
structure ClusteredLevel where
  price : ℚ
  isResistance : Bool
  touchCount : ℕ
  deriving DecidableEq, Repr

/-- The level of one cluster. -/
def clusterLevel (cluster : List RawLevel) : ClusteredLevel where
  price := roundTo 4 (mean (cluster.map Prod.fst))
  isResistance := decide ((cluster.length : ℚ) / 2 ≤ (cluster.countP Prod.snd : ℚ))
  touchCount := cluster.length

/-- `_cluster_levels`. The sort is by price and stable. -/
def clusterLevels (levels : List RawLevel) (tolerancePct : ℚ) : List ClusteredLevel :=
  match levels.insertionSort (fun a b ↦ a.1 ≤ b.1) with
  | [] => []
  | level :: levels => (growClusters tolerancePct [level] levels).map clusterLevel

/-- The type name of a clustered level. -/
def levelType (isResistance : Bool) : String :=
  if isResistance then "resistance" else "support"

/-- `level_type.capitalize()`. -/
def levelTypeCapitalized (isResistance : Bool) : String :=
  if isResistance then "Resistance" else "Support"

/-- The pattern of one clustered level, `distancePct` away from the close. -/
def levelFields (totalCandles : ℕ) (level : ClusteredLevel) (distancePct : ℚ) : PatternFields where
  patternType := "S/R Level (" ++ levelType level.isResistance ++ ")"
  confidence := roundTo 2 (min 1 ((level.touchCount : ℚ) / 5))
  description := levelTypeCapitalized level.isResistance ++ " at " ++
    formatFixed 2 level.price ++ (" (" ++ (toString level.touchCount ++ " touches, " ++
      formatFixed 1 distancePct ++ "% from current price)"))
  location := "price_" ++ formatFixed 2 level.price
  bullish := !level.isResistance
  category := .supportResistance
  detectedAtIndex := some (totalCandles - 1)

/-- One pass of the scoring loop over the clustered levels. -/
def levelDetection (currentPrice : ℚ) (totalCandles : ℕ) (level : ClusteredLevel) :
    Except PyException LevelDetection := do
  let distance ← floatDiv |currentPrice - level.price| currentPrice
  LevelDetection.build .cluster level.price (levelFields totalCandles level (distance * 100))

/-- The last value of the exponential moving average of the closes. -/
def lastEma (period : ℕ) : List ℚ → ℚ
  | [] => 0
  | first :: closes =>
    let multiplier : ℚ := 2 / (period + 1)
    closes.foldl (fun ema close ↦ close * multiplier + ema * (1 - multiplier)) first

/-- The pattern of a price `distancePct` away from a moving average. -/
def emaFields (totalCandles period : ℕ) (emaVal distancePct : ℚ) (bullish : Bool) :
    PatternFields where
  patternType := "EMA " ++ toString period ++ " Bounce"
  confidence := roundTo 2 (6 / 10 + (1 - distancePct) * (3 / 10))
  description := "Price near EMA " ++ toString period ++ " (" ++ formatFixed 2 emaVal ++
    "), potential " ++ (if bullish then "support" else "resistance")
  location := "ema_" ++ toString period
  bullish := bullish
  category := .supportResistance
  detectedAtIndex := some (totalCandles - 1)

/-- The bounce off one moving average, if the price is within one per cent of it. -/
def emaBounce (closes : List ℚ) (currentPrice : ℚ) (totalCandles period : ℕ) :
    Except PyException (Option LevelDetection) :=
  if closes.length < period then .ok none
  else do
    let emaVal := lastEma period closes
    let distance ← floatDiv |currentPrice - emaVal| emaVal
    if distance * 100 ≤ 1 then
      some <$> LevelDetection.build .ema emaVal
        (emaFields totalCandles period emaVal (distance * 100) (decide (emaVal ≤ currentPrice)))
    else return none

/-- `_detect_ema_bounces`. -/
def detectEmaBounces (closes : List ℚ) (currentPrice : ℚ) (totalCandles : ℕ) :
    Except PyException (List LevelDetection) := do
  let bounces ← [50, 200].mapM (emaBounce closes currentPrice totalCandles)
  return bounces.filterMap id

/-- The detections of `detect_support_resistance`. -/
def supportResistanceDetections (argrelextrema : Extrema) (ohlcv : List OHLCVData)
    (order : ℤ := 5) (clusterTolerancePct : ℚ := 1 / 2) :
    Except PyException (List LevelDetection) :=
  if (ohlcv.length : ℤ) < order * 2 + 1 then .ok []
  else do
    let highs := ohlcv.map (·.high)
    let lows := ohlcv.map (·.low)
    let closes := ohlcv.map (·.close)
    let resistanceIdx ← argrelextrema greaterEqual highs order
    let supportIdx ← argrelextrema lessEqual lows order
    let resistances ← rawLevels highs true resistanceIdx
    let supports ← rawLevels lows false supportIdx
    let clustered := clusterLevels (resistances ++ supports) clusterTolerancePct
    let currentPrice ← lastItem closes
    let results ← clustered.mapM (levelDetection currentPrice ohlcv.length)
    let emaPatterns ← detectEmaBounces closes currentPrice ohlcv.length
    return results ++ emaPatterns

/-- `detect_support_resistance`. -/
def detectSupportResistance (argrelextrema : Extrema) (ohlcv : List OHLCVData)
    (order : ℤ := 5) (clusterTolerancePct : ℚ := 1 / 2) :
    Except PyException (List PatternDetection) :=
  (supportResistanceDetections argrelextrema ohlcv order clusterTolerancePct).map
    (·.map LevelDetection.pattern)

/-! ### What the detections say -/

/-- A clustered level has the four decimals of its rounding. -/
theorem hasDecimals_price_of_mem_clusterLevels {levels : List RawLevel} {tolerancePct : ℚ}
    {level : ClusteredLevel} (h : level ∈ clusterLevels levels tolerancePct) :
    HasDecimals 4 level.price := by
  unfold clusterLevels at h
  split at h
  · exact absurd h List.not_mem_nil
  · obtain ⟨cluster, -, rfl⟩ := List.mem_map.1 h
    exact hasDecimals_roundTo 4 _

/-- The texts a detection of `detect_support_resistance` can have. -/
inductive SupportResistanceText (d : LevelDetection) : Prop
  /-- A clustered level, with four decimals. -/
  | cluster (hsource : d.source = .cluster) (hlevel : HasDecimals 4 d.level)
      (htext : ∃ isResistance tail, d.pattern.description =
        levelTypeCapitalized isResistance ++ " at " ++ formatFixed 2 d.level ++ (" (" ++ tail))
  /-- A bounce off a moving average. -/
  | ema (hsource : d.source = .ema)
      (htext : ∃ (period : ℕ) (bullish : Bool), d.pattern.description =
        "Price near EMA " ++ toString period ++ " (" ++ formatFixed 2 d.level ++
          "), potential " ++ (if bullish then "support" else "resistance"))

theorem levelDetection_text {currentPrice : ℚ} {totalCandles : ℕ} {level : ClusteredLevel}
    {d : LevelDetection} (hlevel : HasDecimals 4 level.price)
    (h : levelDetection currentPrice totalCandles level = .ok d) : SupportResistanceText d := by
  obtain ⟨q, -, h⟩ := bind_eq_ok_iff.1 h
  obtain ⟨hsource, hd, hfields⟩ := LevelDetection.of_build h
  exact .cluster hsource (hd ▸ hlevel) ⟨_, _, by rw [hfields, hd]; rfl⟩

theorem emaBounce_text {closes : List ℚ} {currentPrice : ℚ} {totalCandles period : ℕ}
    {d : LevelDetection} (h : emaBounce closes currentPrice totalCandles period = .ok (some d)) :
    SupportResistanceText d := by
  unfold emaBounce at h
  split at h
  · exact nomatch h
  · obtain ⟨q, -, h⟩ := bind_eq_ok_iff.1 h
    split at h
    · obtain ⟨d', hd', h⟩ := bind_eq_ok_iff.1 h
      cases h
      obtain ⟨hsource, hlevel, hfields⟩ := LevelDetection.of_build hd'
      exact .ema hsource ⟨_, _, by rw [hfields, hlevel]; rfl⟩
    · exact nomatch h

/-- **Every detection is a clustered level or a bounce**, with the text of its kind. -/
theorem supportResistanceText_of_mem {argrelextrema : Extrema} {ohlcv : List OHLCVData} {order : ℤ}
    {clusterTolerancePct : ℚ} {detections : List LevelDetection}
    (h : supportResistanceDetections argrelextrema ohlcv order clusterTolerancePct = .ok detections)
    {d : LevelDetection} (hd : d ∈ detections) : SupportResistanceText d := by
  unfold supportResistanceDetections at h
  split at h
  · cases h
    exact absurd hd List.not_mem_nil
  · obtain ⟨_, -, h⟩ := bind_eq_ok_iff.1 h
    obtain ⟨_, -, h⟩ := bind_eq_ok_iff.1 h
    obtain ⟨_, -, h⟩ := bind_eq_ok_iff.1 h
    obtain ⟨_, -, h⟩ := bind_eq_ok_iff.1 h
    obtain ⟨_, -, h⟩ := bind_eq_ok_iff.1 h
    obtain ⟨results, hresults, h⟩ := bind_eq_ok_iff.1 h
    obtain ⟨emaPatterns, hema, h⟩ := bind_eq_ok_iff.1 h
    cases h
    rcases List.mem_append.1 hd with hd | hd
    · obtain ⟨level, hlevel, hf⟩ := exists_of_mem_of_mapM_eq_ok hresults hd
      exact levelDetection_text (hasDecimals_price_of_mem_clusterLevels hlevel) hf
    · obtain ⟨bounces, hbounces, hema⟩ := bind_eq_ok_iff.1 hema
      cases hema
      obtain ⟨bounce, hbounce, rfl⟩ := List.mem_filterMap.1 hd
      obtain ⟨period, -, hf⟩ := exists_of_mem_of_mapM_eq_ok hbounces hbounce
      exact emaBounce_text hf

end InvestmentAssistant
