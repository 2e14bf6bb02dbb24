import InvestmentAssistant.Core.Mirror
import InvestmentAssistant.StrategyGenerator.SlTpCalculator

/-!
# The geometry of a trade

With a positive average true range, the stop loss is on the losing side of the entry and the two
targets are on the winning side, the second beyond the first. Rounding keeps the order, and an entry
that is rounded already keeps its place in it.

The branches of the two sides are written separately, and are mirror images: reflecting the prices
in `centre / 2`, which swaps support and resistance, turns a long trade into a short one
(`exactSlTp_short_mirror`). So the order is proved for long trades, and that of short trades is read
off the mirror.
-/

namespace InvestmentAssistant

open Decimal

/-! ### The mirror -/

/-- A support below the market is a resistance above the mirrored one. -/
def SrLevel.mirror (centre : ℚ) (level : SrLevel) : SrLevel :=
  (centre - level.1, !level.2)

/-- The levels of a trade, reflected. -/
def SlTp.mirror (centre : ℚ) (levels : SlTp) : SlTp :=
  ⟨centre - levels.stopLoss, centre - levels.tp1, centre - levels.tp2⟩

section Mirror

variable (centre : ℚ)

/-- A reflection keeps distances. -/
theorem abs_mirror_sub (x y : ℚ) : |centre - x - (centre - y)| = |x - y| := by
  rw [sub_sub_sub_cancel_left, abs_sub_comm]

theorem trueRange_mirror (prevClose : ℚ) (candle : OHLCVData) :
    trueRange (centre - prevClose) (candle.mirror centre) = trueRange prevClose candle := by
  simp only [trueRange, OHLCVData.mirror, sub_sub_sub_cancel_left]
  rw [max_right_comm, abs_sub_comm prevClose, abs_sub_comm prevClose]

theorem trueRanges_mirror (ohlcv : List OHLCVData) :
    trueRanges (ohlcv.map (OHLCVData.mirror centre)) = trueRanges ohlcv := by
  rw [trueRanges, trueRanges, ← List.map_tail, List.zipWith_map]
  congr 1
  funext previous candle
  exact trueRange_mirror centre previous.close candle

/-- Reflecting the candles keeps how much they move. -/
theorem calculateAtr_mirror (ohlcv : List OHLCVData) :
    calculateAtr (ohlcv.map (OHLCVData.mirror centre)) = calculateAtr ohlcv := by
  rw [calculateAtr, calculateAtr, trueRanges_mirror, List.length_map]

/-- The least of the reflected prices is the greatest one, reflected. -/
theorem min?_map_sub (prices : List ℚ) :
    (prices.map (centre - ·)).min? = prices.max?.map (centre - ·) := by
  rcases hmax : prices.max? with - | p
  · rw [List.max?_eq_none_iff.1 hmax]
    rfl
  · obtain ⟨hmem, hle⟩ := List.max?_eq_some_iff.1 hmax
    refine List.min?_eq_some_iff.2 ⟨List.mem_map_of_mem hmem, ?_⟩
    exact List.forall_mem_map.2 fun q hq ↦ sub_le_sub_left (hle q hq) centre

variable (entryPrice : ℚ) (srLevels : List SrLevel)

/-- The supports below the entry are the reflected resistances above it. -/
theorem supportsBelow_mirror :
    supportsBelow (centre - entryPrice) (srLevels.map (SrLevel.mirror centre)) =
      (resistancesAbove entryPrice srLevels).map (centre - ·) := by
  rw [supportsBelow, resistancesAbove, List.filter_map, List.map_map, List.map_map]
  congr 1
  refine List.filter_congr fun level _ ↦ ?_
  simp [SrLevel.mirror]

theorem resistancesAbove_mirror :
    resistancesAbove (centre - entryPrice) (srLevels.map (SrLevel.mirror centre)) =
      (supportsBelow entryPrice srLevels).map (centre - ·) := by
  rw [supportsBelow, resistancesAbove, List.filter_map, List.map_map, List.map_map]
  congr 1
  refine List.filter_congr fun level _ ↦ ?_
  simp [SrLevel.mirror]

variable {srLevels}

theorem calculateSl_mirror (atr : ℚ) :
    calculateSl (centre - entryPrice) .short (srLevels.map (SrLevel.mirror centre)) atr =
      centre - calculateSl entryPrice .long srLevels atr := by
  simp only [calculateSl, resistancesAbove_mirror, min?_map_sub]
  rcases (supportsBelow entryPrice srLevels).max? with - | nearest
  · show centre - entryPrice + atr * atrMultiplierSl = centre - (entryPrice - atr * atrMultiplierSl)
    ring
  · show centre - nearest + atr * 0.5 = centre - (nearest - atr * 0.5)
    ring

/-- Once both targets are picked, the search keeps them. -/
theorem foldl_pickTargets_done (reachesTp1 reachesTp2 : ℚ → Bool) (t u : ℚ) (targets : List ℚ) :
    targets.foldl (fun (tp1, tp2) t ↦
      if tp1.isNone && reachesTp1 t then (some t, tp2)
      else if tp1.isSome && tp2.isNone && reachesTp2 t then (tp1, some t)
      else (tp1, tp2)) (some t, some u) = (some t, some u) := by
  induction targets with
  | nil => rfl
  | cons s targets ih => exact ih

/-- After the first target, the second one is the first that reaches its minimum. -/
theorem foldl_pickTargets_first (reachesTp1 reachesTp2 : ℚ → Bool) (t : ℚ) (targets : List ℚ) :
    targets.foldl (fun (tp1, tp2) t ↦
      if tp1.isNone && reachesTp1 t then (some t, tp2)
      else if tp1.isSome && tp2.isNone && reachesTp2 t then (tp1, some t)
      else (tp1, tp2)) (some t, none) = (some t, targets.find? reachesTp2) := by
  induction targets with
  | nil => rfl
  | cons s targets ih =>
    rw [List.foldl_cons, List.find?_cons]
    cases hs : reachesTp2 s with
    | true => exact foldl_pickTargets_done reachesTp1 reachesTp2 t s targets
    | false => exact ih

/-- **The search for targets, as a recursion on them.** -/
theorem pickTargets_cons (reachesTp1 reachesTp2 : ℚ → Bool) (t : ℚ) (targets : List ℚ) :
    pickTargets reachesTp1 reachesTp2 (t :: targets) =
      if reachesTp1 t then (some t, targets.find? reachesTp2)
      else pickTargets reachesTp1 reachesTp2 targets := by
  rw [pickTargets, pickTargets, List.foldl_cons]
  cases ht : reachesTp1 t with
  | true => exact foldl_pickTargets_first reachesTp1 reachesTp2 t targets
  | false => rfl

/-- Targets are picked one after another, so reflected ones are picked alike. -/
theorem pickTargets_map (reachesTp1 reachesTp2 reachesTp1' reachesTp2' : ℚ → Bool) (f : ℚ → ℚ)
    (h1 : ∀ t, reachesTp1' (f t) = reachesTp1 t) (h2 : ∀ t, reachesTp2' (f t) = reachesTp2 t)
    (targets : List ℚ) :
    pickTargets reachesTp1' reachesTp2' (targets.map f) =
      ((pickTargets reachesTp1 reachesTp2 targets).1.map f,
        (pickTargets reachesTp1 reachesTp2 targets).2.map f) := by
  induction targets with
  | nil => rfl
  | cons t targets ih =>
    rw [List.map_cons, pickTargets_cons, pickTargets_cons, h1, ih, List.find?_map,
      show reachesTp2' ∘ f = reachesTp2 from funext h2]
    split <;> rfl

/-- The two targets before the last guard of `_calculate_tp`. -/
def unguardedTp (entryPrice : ℚ) (direction : Direction) (srLevels : List SrLevel)
    (risk atr : ℚ) : ℚ × ℚ :=
  match direction with
  | .long =>
    let targets := (resistancesAbove entryPrice srLevels).insertionSort (· ≤ ·)
    let found := pickTargets (fun t ↦ entryPrice + risk ≤ t) (fun t ↦ entryPrice + risk * 2 ≤ t)
      targets
    let tp1 := found.1.getD (entryPrice + atr * atrMultiplierTpFallback)
    let atrFallback := entryPrice + atr * atrMultiplierTpFallback * 2
    (tp1, found.2.getD (max atrFallback (tp1 + risk)))
  | .short =>
    let targets := (supportsBelow entryPrice srLevels).insertionSort (· ≥ ·)
    let found := pickTargets (fun t ↦ t ≤ entryPrice - risk) (fun t ↦ t ≤ entryPrice - risk * 2)
      targets
    let tp1 := found.1.getD (entryPrice - atr * atrMultiplierTpFallback)
    let atrFallback := entryPrice - atr * atrMultiplierTpFallback * 2
    (tp1, found.2.getD (min atrFallback (tp1 - risk)))

/-- The last guard of `_calculate_tp`. -/
def guardTp (direction : Direction) (risk : ℚ) (targets : ℚ × ℚ) : ℚ × ℚ :=
  match direction with
  | .long => (targets.1, if targets.2 ≤ targets.1 then targets.1 + risk else targets.2)
  | .short => (targets.1, if targets.1 ≤ targets.2 then targets.1 - risk else targets.2)

theorem calculateTp_eq (entryPrice : ℚ) (direction : Direction) (srLevels : List SrLevel)
    (risk atr : ℚ) : calculateTp entryPrice direction srLevels risk atr =
      guardTp direction risk (unguardedTp entryPrice direction srLevels risk atr) := by
  cases direction with
  | long => rfl
  | short => rfl

theorem unguardedTp_mirror (risk atr : ℚ) :
    unguardedTp (centre - entryPrice) .short (srLevels.map (SrLevel.mirror centre)) risk atr =
      (centre - (unguardedTp entryPrice .long srLevels risk atr).1,
        centre - (unguardedTp entryPrice .long srLevels risk atr).2) := by
  have hsorted : ((resistancesAbove entryPrice srLevels).map (centre - ·)).insertionSort (· ≥ ·) =
      ((resistancesAbove entryPrice srLevels).insertionSort (· ≤ ·)).map (centre - ·) :=
    (List.map_insertionSort (· ≤ ·) (· ≥ ·) _ _ fun a _ b _ ↦
      (sub_le_sub_iff_left centre).symm).symm
  have hreaches (x t : ℚ) :
      decide (centre - t ≤ centre - entryPrice - x) = decide (entryPrice + x ≤ t) :=
    decide_eq_decide.2 (by rw [sub_sub, sub_le_sub_iff_left])
  have hpick := pickTargets_map (fun t ↦ decide (entryPrice + risk ≤ t))
    (fun t ↦ decide (entryPrice + risk * 2 ≤ t)) (fun t ↦ decide (t ≤ centre - entryPrice - risk))
    (fun t ↦ decide (t ≤ centre - entryPrice - risk * 2)) (centre - ·) (hreaches risk)
    (hreaches (risk * 2)) ((resistancesAbove entryPrice srLevels).insertionSort (· ≤ ·))
  simp only [unguardedTp, supportsBelow_mirror, hsorted, hpick]
  set found := pickTargets _ _ ((resistancesAbove entryPrice srLevels).insertionSort (· ≤ ·))
  -- each target, or its fallback
  have htp1 :
      (found.1.map (centre - ·)).getD (centre - entryPrice - atr * atrMultiplierTpFallback) =
      centre - found.1.getD (entryPrice + atr * atrMultiplierTpFallback) := by
    rw [sub_sub, Option.getD_map]
  rw [htp1]
  set tp1 := found.1.getD (entryPrice + atr * atrMultiplierTpFallback)
  have htp2 : (found.2.map (centre - ·)).getD
      (min (centre - entryPrice - atr * atrMultiplierTpFallback * 2) (centre - tp1 - risk)) =
        centre - found.2.getD (max (entryPrice + atr * atrMultiplierTpFallback * 2)
          (tp1 + risk)) := by
    rw [sub_sub, sub_sub, min_sub_sub_left, Option.getD_map]
  rw [htp2]

/-- The guard of a short trade is that of the mirrored long one. -/
theorem guardTp_mirror (risk : ℚ) (targets : ℚ × ℚ) :
    guardTp .short risk (centre - targets.1, centre - targets.2) =
      (centre - (guardTp .long risk targets).1, centre - (guardTp .long risk targets).2) := by
  simp only [guardTp, sub_le_sub_iff_left]
  split
  · rw [sub_sub]
  · rfl

theorem calculateTp_mirror (risk atr : ℚ) :
    calculateTp (centre - entryPrice) .short (srLevels.map (SrLevel.mirror centre)) risk atr =
      (centre - (calculateTp entryPrice .long srLevels risk atr).1,
        centre - (calculateTp entryPrice .long srLevels risk atr).2) := by
  rw [calculateTp_eq, calculateTp_eq, unguardedTp_mirror, guardTp_mirror]

variable (srLevels)

/-- **A short trade is a long one on the mirrored market.** -/
theorem exactSlTp_short_mirror (atr : ℚ) :
    exactSlTp (centre - entryPrice) .short (srLevels.map (SrLevel.mirror centre)) atr =
      (exactSlTp entryPrice .long srLevels atr).mirror centre := by
  simp only [exactSlTp, calculateSl_mirror, calculateTp_mirror, abs_mirror_sub]
  rfl

/-- Reflecting twice gives the levels back. -/
theorem map_mirror_mirror : (srLevels.map (SrLevel.mirror centre)).map (SrLevel.mirror centre) =
    srLevels := by
  rw [List.map_map]
  conv_rhs => rw [← List.map_id srLevels]
  refine List.map_congr_left fun level _ ↦ ?_
  simp [SrLevel.mirror]

end Mirror

/-! ### The order of the levels -/

section Order

variable {entryPrice atr risk : ℚ} (srLevels : List SrLevel)

/-- The stop loss of a long trade is below the entry. -/
theorem calculateSl_long_lt (hatr : 0 < atr) :
    calculateSl entryPrice .long srLevels atr < entryPrice := by
  rw [calculateSl]
  rcases hmax : (supportsBelow entryPrice srLevels).max? with - | nearest
  · show entryPrice - atr * 1.5 < entryPrice
    linarith
  · obtain ⟨level, hlevel, rfl⟩ := List.mem_map.1 (List.max?_mem hmax)
    have hbelow : level.1 < entryPrice := by
      have h := (List.mem_filter.1 hlevel).2
      simp only [Bool.and_eq_true, decide_eq_true_eq] at h
      exact h.2
    show level.1 - atr * 0.5 < entryPrice
    linarith

/-- The first target is the first that reaches its minimum. -/
theorem pickTargets_fst (reachesTp1 reachesTp2 : ℚ → Bool) (targets : List ℚ) :
    (pickTargets reachesTp1 reachesTp2 targets).1 = targets.find? reachesTp1 := by
  induction targets with
  | nil => rfl
  | cons t targets ih =>
    rw [pickTargets_cons, List.find?_cons]
    cases reachesTp1 t with
    | true => rfl
    | false => exact ih

/-- The first target that is picked reaches its minimum. -/
theorem reachesTp1_of_pickTargets {reachesTp1 reachesTp2 : ℚ → Bool} {targets : List ℚ} {t : ℚ}
    (h : (pickTargets reachesTp1 reachesTp2 targets).1 = some t) : reachesTp1 t = true := by
  rw [pickTargets_fst] at h
  exact List.find?_some h

/-- The targets of a long trade are above the entry, the second above the first. -/
theorem lt_calculateTp_long (hatr : 0 < atr) (hrisk : 0 < risk) :
    entryPrice < (calculateTp entryPrice .long srLevels risk atr).1 ∧
      (calculateTp entryPrice .long srLevels risk atr).1 <
        (calculateTp entryPrice .long srLevels risk atr).2 := by
  simp only [calculateTp]
  set found := pickTargets _ _ ((resistancesAbove entryPrice srLevels).insertionSort (· ≤ ·))
    with hfound
  refine ⟨?_, ?_⟩
  · rcases htp1 : found.1 with - | t
    · show entryPrice < entryPrice + atr * 3
      linarith
    · have hreaches : entryPrice + risk ≤ t :=
        of_decide_eq_true (reachesTp1_of_pickTargets (hfound ▸ htp1))
      show entryPrice < t
      linarith
  · -- the guard puts the second target beyond the first
    split
    · exact lt_add_of_pos_right _ hrisk
    · next h => exact not_le.1 h

/-- A long trade: the stop loss, the entry and the two targets in their order. -/
structure SlTp.LongOrder (entryPrice : ℚ) (levels : SlTp) : Prop where
  stopLoss_lt : levels.stopLoss < entryPrice
  lt_tp1 : entryPrice < levels.tp1
  tp1_lt : levels.tp1 < levels.tp2

/-- A short trade: the same, downwards. -/
structure SlTp.ShortOrder (entryPrice : ℚ) (levels : SlTp) : Prop where
  lt_stopLoss : entryPrice < levels.stopLoss
  tp1_lt : levels.tp1 < entryPrice
  lt_tp1 : levels.tp2 < levels.tp1

theorem longOrder_exactSlTp (hatr : 0 < atr) :
    (exactSlTp entryPrice .long srLevels atr).LongOrder entryPrice := by
  have hsl := @calculateSl_long_lt entryPrice _ srLevels hatr
  obtain ⟨htp1, htp2⟩ := @lt_calculateTp_long entryPrice _ _ srLevels hatr
    (abs_pos.2 (sub_pos.2 hsl).ne')
  exact ⟨hsl, htp1, htp2⟩

/-- The order of a short trade is that of the mirrored long one. -/
theorem shortOrder_exactSlTp (hatr : 0 < atr) :
    (exactSlTp entryPrice .short srLevels atr).ShortOrder entryPrice := by
  have hmirror := exactSlTp_short_mirror 0 (0 - entryPrice) (srLevels.map (SrLevel.mirror 0)) atr
  rw [map_mirror_mirror, sub_sub_cancel] at hmirror
  have hlong : (exactSlTp (0 - entryPrice) .long (srLevels.map (SrLevel.mirror 0)) atr).LongOrder
      (0 - entryPrice) := longOrder_exactSlTp _ hatr
  rw [hmirror]
  refine ⟨?_, ?_, ?_⟩
  · exact lt_sub_comm.1 hlong.stopLoss_lt
  · exact sub_lt_comm.1 hlong.lt_tp1
  · exact sub_lt_sub_left hlong.tp1_lt 0

/-- The levels as `calculate_sl_tp` returns them. -/
def SlTp.rounded (levels : SlTp) : SlTp :=
  ⟨roundTo 5 levels.stopLoss, roundTo 5 levels.tp1, roundTo 5 levels.tp2⟩

theorem calculateSlTp_eq (ohlcv : List OHLCVData) (direction : Direction) (entryPrice : ℚ)
    (supportResistance : List PatternDetection) :
    calculateSlTp ohlcv direction entryPrice supportResistance =
      (exactSlTp entryPrice direction (extractSrPrices supportResistance)
        (calculateAtr ohlcv)).rounded :=
  rfl

/-- The weak order of a long trade, as rounding leaves it. -/
structure SlTp.WeakLongOrder (entryPrice : ℚ) (levels : SlTp) : Prop where
  stopLoss_le : levels.stopLoss ≤ entryPrice
  le_tp1 : entryPrice ≤ levels.tp1
  tp1_le : levels.tp1 ≤ levels.tp2

/-- The weak order of a short trade. -/
structure SlTp.WeakShortOrder (entryPrice : ℚ) (levels : SlTp) : Prop where
  le_stopLoss : entryPrice ≤ levels.stopLoss
  tp1_le : levels.tp1 ≤ entryPrice
  le_tp1 : levels.tp2 ≤ levels.tp1

theorem SlTp.LongOrder.rounded {levels : SlTp} (h : levels.LongOrder entryPrice)
    (hentry : HasDecimals 5 entryPrice) : levels.rounded.WeakLongOrder entryPrice := by
  refine ⟨?_, ?_, roundTo_mono 5 h.tp1_lt.le⟩
  · exact hentry.roundTo_le h.stopLoss_lt.le
  · exact hentry.le_roundTo h.lt_tp1.le

theorem SlTp.ShortOrder.rounded {levels : SlTp} (h : levels.ShortOrder entryPrice)
    (hentry : HasDecimals 5 entryPrice) : levels.rounded.WeakShortOrder entryPrice := by
  refine ⟨?_, ?_, roundTo_mono 5 h.lt_tp1.le⟩
  · exact hentry.le_roundTo h.lt_stopLoss.le
  · exact hentry.roundTo_le h.tp1_lt.le

/-- **The geometry of the levels.** With a positive average true range, the exact levels of both
sides are in their strict order, the rounded ones in the weak order about a rounded entry, and the
short levels of the mirrored market are the mirrored long ones. What `calculateSlTp` returns are the
rounded levels of the prices it reads from the patterns, so its results are in the weak order. -/
theorem sl_tp_geometry {ohlcv : List OHLCVData} (hatr : 0 < calculateAtr ohlcv) (entryPrice : ℚ) :
    (∀ srLevels : List SrLevel,
      let long := exactSlTp entryPrice .long srLevels (calculateAtr ohlcv)
      let short := exactSlTp entryPrice .short srLevels (calculateAtr ohlcv)
      (long.LongOrder entryPrice ∧ short.ShortOrder entryPrice) ∧
      (HasDecimals 5 entryPrice →
        long.rounded.WeakLongOrder entryPrice ∧ short.rounded.WeakShortOrder entryPrice) ∧
      ∀ centre, exactSlTp (centre - entryPrice) .short (srLevels.map (SrLevel.mirror centre))
        (calculateAtr (ohlcv.map (OHLCVData.mirror centre))) = long.mirror centre) ∧
    ∀ supportResistance : List PatternDetection,
      (∀ direction, calculateSlTp ohlcv direction entryPrice supportResistance =
        (exactSlTp entryPrice direction (extractSrPrices supportResistance)
          (calculateAtr ohlcv)).rounded) ∧
      (HasDecimals 5 entryPrice →
        (calculateSlTp ohlcv .long entryPrice supportResistance).WeakLongOrder entryPrice ∧
        (calculateSlTp ohlcv .short entryPrice supportResistance).WeakShortOrder entryPrice) := by
  have hlong (srLevels) := @longOrder_exactSlTp entryPrice _ srLevels hatr
  have hshort (srLevels) := @shortOrder_exactSlTp entryPrice _ srLevels hatr
  refine ⟨fun srLevels ↦ ⟨⟨hlong _, hshort _⟩, fun hentry ↦ ?_, fun centre ↦ ?_⟩,
    fun supportResistance ↦ ⟨fun direction ↦ calculateSlTp_eq .., fun hentry ↦ ?_⟩⟩
  · exact ⟨(hlong _).rounded hentry, (hshort _).rounded hentry⟩
  · rw [calculateAtr_mirror]
    exact exactSlTp_short_mirror centre entryPrice srLevels _
  · rw [calculateSlTp_eq, calculateSlTp_eq]
    exact ⟨(hlong _).rounded hentry, (hshort _).rounded hentry⟩

/-- Two candles, and a support and a resistance as they are described. -/
theorem sl_tp_geometry_twoCandles :
    let ohlcv : List OHLCVData :=
      [⟨⟨0, none⟩, 100, 101, 99, 100, 0⟩, ⟨⟨3600000000, none⟩, 100, 102, 100, 101, 0⟩]
    let level (patternType description : String) (bullish : Bool) : PatternDetection :=
      { patternType, description, bullish
        confidence := 1
        category := .supportResistance
        confidence_inUnit := inUnit_one
        relevanceScore_inUnit := inUnit_zero }
    let supportResistance : List PatternDetection :=
      [level "S/R Level (support)" "Support at 99.00 (2 touches, 2.0% from current price)" true,
        level "S/R Level (resistance)" "Resistance at 104.50 (2 touches, 3.5% from current price)"
          false]
    let long := calculateSlTp ohlcv .long 101 supportResistance
    let short := calculateSlTp ohlcv .short 101 supportResistance
    (long.WeakLongOrder 101 ∧ short.WeakShortOrder 101) ∧
      long = ⟨98, 104.5, 113⟩ ∧ short = ⟨105.5, 95, 89⟩ := by
  intro ohlcv level supportResistance long short
  obtain ⟨-, hreturned⟩ := @sl_tp_geometry ohlcv (by decide +kernel) 101
  exact ⟨(hreturned supportResistance).2 (by decide +kernel), by decide +kernel,
    by decide +kernel⟩

end Order

end InvestmentAssistant
