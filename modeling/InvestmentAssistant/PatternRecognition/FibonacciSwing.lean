import InvestmentAssistant.PatternRecognition.Fibonacci
import InvestmentAssistant.PatternRecognition.SwingPoints

/-!
# The last swing of a series

The last swing low and the last swing high are looked for on two series, and either may come first.
Still the low never lies above the high (`exists_isLastSwing`): from the later of the two on, the
lows are bounded by the one and the highs by the other. So a swing whose prices differ has its five
retracement levels strictly between them, in the order of their ratios.
-/

namespace InvestmentAssistant

open Decimal LocalExtrema

/-! ### The levels of a swing -/

namespace Swing

variable {swing : Swing} {a b : ℚ}

/-- In an uptrend a greater ratio is a lower price. -/
theorem fiboPrice_lt_of_isUptrend (hprices : swing.swingLow < swing.swingHigh)
    (htrend : swing.isUptrend = true) (h : a < b) : swing.fiboPrice b < swing.fiboPrice a := by
  rw [fiboPrice, fiboPrice, if_pos htrend, if_pos htrend]
  have hscaled := mul_lt_mul_of_pos_right h (sub_pos.2 hprices)
  linarith

/-- In a downtrend it is a higher one. -/
theorem fiboPrice_lt_of_isDowntrend (hprices : swing.swingLow < swing.swingHigh)
    (htrend : ¬swing.isUptrend = true) (h : a < b) : swing.fiboPrice a < swing.fiboPrice b := by
  rw [fiboPrice, fiboPrice, if_neg htrend, if_neg htrend]
  have hscaled := mul_lt_mul_of_pos_right h (sub_pos.2 hprices)
  linarith

/-- A ratio between zero and one is a price within the swing. -/
theorem fiboPrice_mem (hprices : swing.swingLow < swing.swingHigh) (h0 : 0 < a) (h1 : a < 1) :
    swing.swingLow < swing.fiboPrice a ∧ swing.fiboPrice a < swing.swingHigh := by
  have hpart := mul_pos h0 (sub_pos.2 hprices)
  have hrest := mul_lt_mul_of_pos_right h1 (sub_pos.2 hprices)
  rw [fiboPrice]
  split
  · constructor <;> linarith
  · constructor <;> linarith

/-- The index a retracement is dated at: the end of the swing. -/
def endIdx (swing : Swing) : ℕ :=
  if swing.isUptrend then swing.lastHighIdx else swing.lastLowIdx

end Swing

/-! ### The detections of a swing -/

section Detections

variable {swing : Swing} {currentPrice proximityPct level : ℚ}

/-- Every level of a swing is detected when the current price is not zero. -/
theorem exists_retracementDetection (hprice : currentPrice ≠ 0) :
    ∃ d, retracementDetection swing currentPrice proximityPct level = .ok d := by
  have hvalid (active : Bool) : ∃ d,
      LevelDetection.build .retracement (swing.fiboPrice level)
        (retracementFields swing level active) = .ok d := by
    have hconfidence : InUnit (roundTo 2 (if active then 8 / 10 else 5 / 10)) := by
      cases active <;> decide +kernel
    have hdefaults : InUnit 0 ∧ (1 ≤ 1 ∧ 1 ≤ 3) := by decide +kernel
    rw [LevelDetection.build, PatternFields.validate]
    split
    next => exact ⟨_, rfl⟩
    next h => exact absurd ⟨hconfidence, hdefaults⟩ h
  rw [retracementDetection, floatDiv, if_neg hprice]
  exact hvalid _

/-- A detection has the price of its ratio and the index of the end of the swing. -/
theorem of_retracementDetection_eq_ok {d : LevelDetection}
    (h : retracementDetection swing currentPrice proximityPct level = .ok d) :
    d.level = swing.fiboPrice level ∧ d.pattern.detectedAtIndex = some (swing.endIdx : ℤ) := by
  obtain ⟨distance, -, h⟩ := bind_eq_ok_iff.1 h
  obtain ⟨-, hlevel, hfields⟩ := LevelDetection.of_build h
  refine ⟨hlevel, ?_⟩
  rw [hfields, retracementFields, Swing.endIdx]
  dsimp only
  split <;> rfl

end Detections

/-- Five levels strictly within the swing, in the order of their ratios, printed by their patterns
and dated within the series. -/
structure SpansSwing (swing : Swing) (length : ℕ) (detections : List LevelDetection) : Prop where
  levels : detections.map LevelDetection.level = fiboLevels.map swing.fiboPrice
  length_eq : detections.length = 5
  between : ∀ d ∈ detections, swing.swingLow < d.level ∧ d.level < swing.swingHigh
  ordered : if swing.isUptrend then (detections.map LevelDetection.level).Pairwise (· > ·)
    else (detections.map LevelDetection.level).Pairwise (· < ·)
  text : ∀ d ∈ detections, RetracementText d
  index_lt : ∀ d ∈ detections, ∃ i < length, d.pattern.detectedAtIndex = some (i : ℤ)

/-- The pass over the ratios gives such levels. -/
theorem spansSwing_of_mapM {swing : Swing} {currentPrice proximityPct : ℚ} {length : ℕ}
    {detections : List LevelDetection} (hprices : swing.swingLow < swing.swingHigh)
    (hend : swing.endIdx < length) (htext : ∀ d ∈ detections, RetracementText d)
    (h : fiboLevels.mapM (retracementDetection swing currentPrice proximityPct) = .ok detections) :
    SpansSwing swing length detections := by
  have hforall := mapM_eq_ok_iff.1 h
  have hlevels : detections.map LevelDetection.level = fiboLevels.map swing.fiboPrice := by
    refine List.forall₂_eq_eq_eq ▸ ?_
    rw [List.forall₂_map_left_iff, List.forall₂_map_right_iff]
    exact hforall.flip.imp fun d level hd ↦ (of_retracementDetection_eq_ok hd).1
  have hincreasing : fiboLevels.Pairwise (· < ·) := by
    rw [fiboLevels]
    norm_num
  refine ⟨hlevels, ?_, fun d hd ↦ ?_, ?_, htext, fun d hd ↦ ?_⟩
  · rw [← hforall.length_eq]
    rfl
  · obtain ⟨level, hmem, hd⟩ := exists_mem_of_forall₂ hforall hd
    have hratio : ∀ level ∈ fiboLevels, 0 < level ∧ level < 1 := by decide +kernel
    rw [(of_retracementDetection_eq_ok hd).1]
    exact Swing.fiboPrice_mem hprices (hratio level hmem).1 (hratio level hmem).2
  · rw [hlevels]
    split
    next htrend =>
      exact hincreasing.map _ fun a b h ↦ Swing.fiboPrice_lt_of_isUptrend hprices htrend h
    next htrend =>
      exact hincreasing.map _ fun a b h ↦ Swing.fiboPrice_lt_of_isDowntrend hprices htrend h
  · obtain ⟨level, -, hd⟩ := exists_mem_of_forall₂ hforall hd
    exact ⟨swing.endIdx, hend, (of_retracementDetection_eq_ok hd).2⟩

/-! ### The last swing -/

/-- A series that is not empty has a last swing point, and it is its last local extremum. -/
theorem exists_last_swingPoint {argrelextrema : Extrema}
    (hextrema : ReturnsSwingPoints argrelextrema) {compare : ℚ → ℚ → Bool}
    (hcompare : compare = greaterEqual ∨ compare = lessEqual)
    {r : ℚ → ℚ → Prop} [Std.Total r] [IsTrans ℚ r] (hr : ∀ a b, compare a b = true ↔ r a b)
    {data : List ℚ} (hdata : 0 < data.length) :
    ∃ idx i, argrelextrema compare data 5 = .ok idx ∧ idx.getLast? = some i ∧
      IsLast r (data.getD · 0) data.length 5 i := by
  obtain ⟨idx, hok, hsorted, hmem⟩ := hextrema compare hcompare data
  obtain ⟨first, hfirst⟩ := @exists_isExtremum ℚ r (data.getD · 0) data.length 5 _ _ hdata
  have hfirst : first ∈ idx := (hmem first).2 ((swingPoint_iff hr).2 hfirst)
  rcases List.eq_nil_or_concat' idx with rfl | ⟨earlier, i, rfl⟩
  · exact absurd hfirst List.not_mem_nil
  · refine ⟨_, i, hok, List.getLast?_concat, (swingPoint_iff hr).1 ((hmem i).1 (by simp)), ?_⟩
    intro j hj
    rcases List.mem_append.1 ((hmem j).2 ((swingPoint_iff hr).2 hj)) with hj | hj
    · exact ((List.pairwise_append.1 hsorted).2.2 j hj i (List.mem_singleton_self i)).le
    · exact (List.mem_singleton.1 hj).le

/-- The last swing high and the last swing low, with their prices. -/
structure IsLastSwing (argrelextrema : Extrema) (ohlcv : List OHLCVData) (swing : Swing) :
    Prop where
  high : ∃ idx, argrelextrema greaterEqual (ohlcv.map (·.high)) 5 = .ok idx ∧
    idx.getLast? = some swing.lastHighIdx
  low : ∃ idx, argrelextrema lessEqual (ohlcv.map (·.low)) 5 = .ok idx ∧
    idx.getLast? = some swing.lastLowIdx
  swingHigh : (ohlcv.map (·.high))[swing.lastHighIdx]? = some swing.swingHigh
  swingLow : (ohlcv.map (·.low))[swing.lastLowIdx]? = some swing.swingLow

/-- **A series has a last swing, whose low is not above its high.** -/
theorem exists_isLastSwing {argrelextrema : Extrema} (hextrema : ReturnsSwingPoints argrelextrema)
    {ohlcv : List OHLCVData} (hlen : 0 < ohlcv.length) (hcandle : ∀ c ∈ ohlcv, c.low ≤ c.high) :
    ∃ swing, IsLastSwing argrelextrema ohlcv swing ∧ swing.swingLow ≤ swing.swingHigh := by
  obtain ⟨highIdx, H, hhigh, hH, hlastHigh⟩ := @exists_last_swingPoint _ hextrema greaterEqual
    (.inl rfl) (· ≥ ·) _ _ (fun a b ↦ decide_eq_true_iff) (ohlcv.map (·.high))
    (by rwa [List.length_map])
  obtain ⟨lowIdx, L, hlow, hL, hlastLow⟩ := @exists_last_swingPoint _ hextrema lessEqual
    (.inr rfl) (· ≤ ·) _ _ (fun a b ↦ decide_eq_true_iff) (ohlcv.map (·.low))
    (by rwa [List.length_map])
  rw [List.length_map] at hlastHigh hlastLow
  have hHlt : H < ohlcv.length := hlastHigh.isExtremum.1
  have hLlt : L < ohlcv.length := hlastLow.isExtremum.1
  have hget (f : OHLCVData → ℚ) {k : ℕ} (hk : k < ohlcv.length) :
      (ohlcv.map f)[k]? = some ((ohlcv.map f).getD k 0) := by
    rw [List.getD_eq_getElem?_getD, List.getElem?_map, List.getElem?_eq_getElem hk]
    rfl
  refine ⟨⟨H, L, (ohlcv.map (·.high)).getD H 0, (ohlcv.map (·.low)).getD L 0⟩,
    ⟨⟨highIdx, hhigh, hH⟩, ⟨lowIdx, hlow, hL⟩, hget _ hHlt, hget _ hLlt⟩, ?_⟩
  refine hlastLow.le_of_forall_le hlastHigh fun k hk ↦ ?_
  have hck := hcandle ohlcv[k] (List.getElem_mem hk)
  simpa only [List.getD_eq_getElem?_getD, List.getElem?_map, List.getElem?_eq_getElem hk,
    Option.map_some, Option.getD_some] using hck

/-- The swing that is read is the last one, if its prices differ. -/
theorem lastSwing_eq {argrelextrema : Extrema} {ohlcv : List OHLCVData} {swing : Swing}
    (h : IsLastSwing argrelextrema ohlcv swing) : lastSwing argrelextrema ohlcv =
      .ok (if swing.swingHigh = swing.swingLow then none else some swing) := by
  obtain ⟨⟨highIdx, hhigh, hH⟩, ⟨lowIdx, hlow, hL⟩, hswingHigh, hswingLow⟩ := h
  have hitem (data : List ℚ) (i : ℕ) (x : ℚ) (hx : data[i]? = some x) : itemAt data i = .ok x := by
    rw [itemAt, hx]
  rw [lastSwing, hhigh, hlow]
  simp only [bind, Except.bind, pure, Except.pure, hH, hL, hitem _ _ _ hswingHigh,
    hitem _ _ _ hswingLow]
  split <;> rfl

/-- **The retracement levels of a series.** There is a last swing high and a last swing low, the low
not above the high. The detections are empty if and only if the two prices are equal; otherwise they
are five levels strictly between them, in the order of their ratios, and the text of each pattern
prints its level. -/
theorem fibonacci_swing {argrelextrema : Extrema} (hextrema : ReturnsSwingPoints argrelextrema)
    {ohlcv : List OHLCVData} (hlen : 20 ≤ ohlcv.length) (hcandle : ∀ c ∈ ohlcv, c.low ≤ c.high)
    (hclose : ∀ c ∈ ohlcv, 0 < c.close) (proximityPct : ℚ) :
    ∃ swing detections, IsLastSwing argrelextrema ohlcv swing ∧
      swing.swingLow ≤ swing.swingHigh ∧
      fibonacciDetections argrelextrema ohlcv proximityPct = .ok detections ∧
      calculateFibonacciLevels argrelextrema ohlcv proximityPct =
        .ok (detections.map LevelDetection.pattern) ∧
      (detections = [] ↔ swing.swingLow = swing.swingHigh) ∧
      (swing.swingLow ≠ swing.swingHigh → SpansSwing swing ohlcv.length detections) := by
  obtain ⟨swing, hswing, hle⟩ := exists_isLastSwing hextrema (by omega) hcandle
  refine ⟨swing, ?_⟩
  have hread := lastSwing_eq hswing
  by_cases heq : swing.swingHigh = swing.swingLow
  · rw [if_pos heq] at hread
    have hnone : fibonacciDetections argrelextrema ohlcv proximityPct = .ok [] := by
      rw [fibonacciDetections, if_neg hlen.not_gt, hread]
      rfl
    refine ⟨[], hswing, hle, hnone, by rw [calculateFibonacciLevels, hnone]; rfl,
      iff_of_true rfl heq.symm, fun hne ↦ absurd heq.symm hne⟩
  · rw [if_neg heq] at hread
    have hlt : swing.swingLow < swing.swingHigh := lt_of_le_of_ne hle (Ne.symm heq)
    obtain ⟨last, hlast⟩ : ∃ last, ohlcv.getLast? = some last :=
      ⟨_, List.getLast?_eq_some_getLast (List.ne_nil_of_length_pos (by omega))⟩
    have hprice : currentClose ohlcv = .ok last.close := by
      rw [currentClose, lastItem, List.getLast?_map, hlast]
      rfl
    obtain ⟨detections, hmapM⟩ : ∃ ds, fiboLevels.mapM
        (retracementDetection swing last.close proximityPct) = .ok ds :=
      exists_mapM_eq_ok fun level _ ↦
        exists_retracementDetection (hclose last (List.mem_of_getLast? hlast)).ne'
    have hsome : fibonacciDetections argrelextrema ohlcv proximityPct = .ok detections := by
      rw [fibonacciDetections, if_neg hlen.not_gt, hread]
      show (currentClose ohlcv >>= fun currentPrice ↦
        fiboLevels.mapM (retracementDetection swing currentPrice proximityPct)) = _
      rw [hprice]
      exact hmapM
    have hend : swing.endIdx < ohlcv.length := by
      rw [Swing.endIdx]
      split
      · have hmem := (List.getElem?_eq_some_iff.1 hswing.swingHigh).1
        rwa [List.length_map] at hmem
      · have hmem := (List.getElem?_eq_some_iff.1 hswing.swingLow).1
        rwa [List.length_map] at hmem
    have hspans := spansSwing_of_mapM hlt hend (fun d hd ↦ retracementText_of_mem hsome hd) hmapM
    refine ⟨detections, hswing, hle, hsome, by rw [calculateFibonacciLevels, hsome]; rfl,
      iff_of_false ?_ hlt.ne, fun _ ↦ hspans⟩
    rintro rfl
    exact absurd hspans.length_eq (by decide)

/-- Twenty candles that rise: the last one is the swing high, the first one the swing low. -/
theorem fibonacci_swing_rising :
    let ohlcv : List OHLCVData :=
      (List.range 20).map fun i ↦ ⟨⟨i, none⟩, i + 1, i + 2, i + 1, i + 2, 0⟩
    ∃ swing detections, IsLastSwing clippedExtrema ohlcv swing ∧
      swing.swingLow ≤ swing.swingHigh ∧
      fibonacciDetections clippedExtrema ohlcv 1 = .ok detections ∧
      calculateFibonacciLevels clippedExtrema ohlcv 1 =
        .ok (detections.map LevelDetection.pattern) ∧
      (detections = [] ↔ swing.swingLow = swing.swingHigh) ∧
      (swing.swingLow ≠ swing.swingHigh → SpansSwing swing ohlcv.length detections) := by
  intro ohlcv
  exact @fibonacci_swing _ returnsSwingPoints_clippedExtrema ohlcv (by decide) (by decide +kernel)
    (by decide +kernel) 1

end InvestmentAssistant
