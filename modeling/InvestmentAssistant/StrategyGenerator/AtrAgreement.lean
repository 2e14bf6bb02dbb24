import InvestmentAssistant.PatternRecognition.IkiDetector
import InvestmentAssistant.PatternRecognition.RelevanceScorer
import InvestmentAssistant.StrategyGenerator.SlTpGeometry

/-!
# The three average true ranges

The stop-loss calculation, the IKI detector and the target prices each have an average true range of
their own: one collects the true ranges of the candles with the close before them, two fill an array
by index, and each cuts off the last fourteen values and guards short series in its own way. On
fifteen candles or more they are the mean of the true ranges of the last fourteen candles
(`atrsAre_windowAtr`), and that does not change when all prices are moved or reflected. The candles
need not be well formed for it.
-/

namespace InvestmentAssistant

/-- A candle with its prices moved by a constant. -/
def OHLCVData.translate (shift : ℚ) (c : OHLCVData) : OHLCVData :=
  { c with
    open_ := c.open_ + shift
    high := c.high + shift
    low := c.low + shift
    close := c.close + shift }

/-- The true range that the loops over indices compute for candle `i`. -/
def trueRangeAt (ohlcv : List OHLCVData) (i : ℕ) : ℚ :=
  let highs := ohlcv.map OHLCVData.high
  let lows := ohlcv.map OHLCVData.low
  let closes := ohlcv.map OHLCVData.close
  max (max (highs.getD i 0 - lows.getD i 0) |highs.getD i 0 - closes.getD (i - 1) 0|)
    |lows.getD i 0 - closes.getD (i - 1) 0|

/-- `_calculate_atr` of the IKI detector, with its loop over the indices of the three arrays. -/
def Iki.atrOfArrays (highs lows closes : List ℚ) (period : ℕ) : ℚ :=
  let n := closes.length
  if n < period + 1 then 0
  else
    let tr := (List.range' 1 (n - 1)).map fun i ↦
      let hl := highs.getD i 0 - lows.getD i 0
      let hc := |highs.getD i 0 - closes.getD (i - 1) 0|
      let lc := |lows.getD i 0 - closes.getD (i - 1) 0|
      max (max hl hc) lc
    mean (lastItems period tr)

/-- The mean of the true ranges of the last fourteen candles. -/
def windowAtr (ohlcv : List OHLCVData) : ℚ :=
  mean ((List.range' (ohlcv.length - 14) 14).map (trueRangeAt ohlcv))

/-- All three calculations give this value; that of the IKI detector also from its arrays. -/
structure AtrsAre (ohlcv : List OHLCVData) (value : ℚ) : Prop where
  slTp : calculateAtr ohlcv = value
  iki : Iki.calculateAtr ohlcv 14 = value
  ikiArrays : Iki.atrOfArrays (ohlcv.map OHLCVData.high) (ohlcv.map OHLCVData.low)
    (ohlcv.map OHLCVData.close) 14 = value
  relevance : calculateAtr14 ohlcv = value

section Loops

variable {ohlcv : List OHLCVData}

/-- The true range of a candle after another is that of its index. -/
theorem trueRangeAt_succ {k : ℕ} (hk : k + 1 < ohlcv.length) :
    trueRangeAt ohlcv (k + 1) = trueRange ohlcv[k].close ohlcv[k + 1] := by
  have hprev : k < ohlcv.length := Nat.lt_of_succ_lt hk
  simp only [trueRangeAt, trueRange, Nat.add_sub_cancel, List.getD_eq_getElem?_getD,
    List.getElem?_map, List.getElem?_eq_getElem hk, List.getElem?_eq_getElem hprev,
    Option.map_some, Option.getD_some]

/-- **Neighbours and indices**: the true ranges of neighbouring candles are those the loops over the
indices compute. -/
theorem trueRanges_eq : trueRanges ohlcv =
    (List.range' 1 (ohlcv.length - 1)).map (trueRangeAt ohlcv) := by
  refine List.ext_getElem (by simp [trueRanges]) fun k hk _ ↦ ?_
  have hlt : k + 1 < ohlcv.length := by
    simp only [trueRanges, List.length_zipWith, List.length_tail] at hk
    omega
  simp only [trueRanges, List.getElem_zipWith, List.getElem_tail, List.getElem_map,
    List.getElem_range', one_mul, Nat.add_comm 1 k, trueRangeAt_succ hlt]

/-- **The loop over arrays**, on the arrays of a series, is the calculation of the detector. -/
theorem Iki.atrOfArrays_eq (ohlcv : List OHLCVData) (period : ℕ) :
    Iki.atrOfArrays (ohlcv.map OHLCVData.high) (ohlcv.map OHLCVData.low)
      (ohlcv.map OHLCVData.close) period = Iki.calculateAtr ohlcv period := by
  rw [Iki.atrOfArrays, Iki.calculateAtr, trueRanges_eq, List.length_map]
  rfl

/-- On fifteen candles, the last fourteen true ranges are those of the last fourteen candles. -/
theorem mean_lastItems_trueRanges (hlength : 15 ≤ ohlcv.length) :
    mean (lastItems 14 (trueRanges ohlcv)) = windowAtr ohlcv := by
  rw [trueRanges_eq, lastItems, if_neg (by decide), ← List.map_drop, List.length_map,
    List.length_range', List.drop_range', windowAtr]
  congr 3 <;> omega

/-- The detector takes the mean over these fourteen candles. -/
theorem Iki.calculateAtr_eq_windowAtr (hlength : 15 ≤ ohlcv.length) :
    Iki.calculateAtr ohlcv 14 = windowAtr ohlcv := by
  rw [Iki.calculateAtr, if_neg (by omega)]
  exact mean_lastItems_trueRanges hlength

/-- **Each calculation is the mean over the same fourteen candles.** -/
theorem atrsAre_windowAtr (hlength : 15 ≤ ohlcv.length) : AtrsAre ohlcv (windowAtr ohlcv) where
  slTp := by
    rw [calculateAtr, if_neg (by omega)]
    exact mean_lastItems_trueRanges hlength
  iki := Iki.calculateAtr_eq_windowAtr hlength
  ikiArrays := (Iki.atrOfArrays_eq ohlcv 14).trans (Iki.calculateAtr_eq_windowAtr hlength)
  relevance := by
    have hloop : calculateAtr14 ohlcv = Iki.atrOfArrays (ohlcv.map OHLCVData.high)
        (ohlcv.map OHLCVData.low) (ohlcv.map OHLCVData.close) 14 := by
      rw [calculateAtr14, Iki.atrOfArrays, List.length_map]
    rw [hloop, Iki.atrOfArrays_eq, Iki.calculateAtr_eq_windowAtr hlength]

/-- A true range is the greatest of three distances. -/
theorem windowAtr_nonneg : 0 ≤ windowAtr ohlcv := by
  refine div_nonneg (List.sum_nonneg fun x hx ↦ ?_) (Nat.cast_nonneg _)
  obtain ⟨i, -, rfl⟩ := List.mem_map.1 hx
  exact le_max_of_le_right (abs_nonneg _)

/-- Moving the candles keeps how much they move. -/
theorem trueRanges_translate (shift : ℚ) :
    trueRanges (ohlcv.map (OHLCVData.translate shift)) = trueRanges ohlcv := by
  rw [trueRanges, trueRanges, ← List.map_tail, List.zipWith_map]
  congr 1
  funext previous candle
  simp only [trueRange, OHLCVData.translate, add_sub_add_right_eq_sub]

end Loops

/-- **The three average true ranges agree.** On fifteen candles or more they are the mean over the
last fourteen, which is not negative, and which moving or reflecting the prices does not change. -/
theorem atrs_agree {ohlcv : List OHLCVData} (hlength : 15 ≤ ohlcv.length) :
    AtrsAre ohlcv (windowAtr ohlcv) ∧ 0 ≤ windowAtr ohlcv ∧
      (∀ shift, AtrsAre (ohlcv.map (OHLCVData.translate shift)) (windowAtr ohlcv)) ∧
      ∀ centre, AtrsAre (ohlcv.map (OHLCVData.mirror centre)) (windowAtr ohlcv) := by
  refine ⟨atrsAre_windowAtr hlength, windowAtr_nonneg, fun shift ↦ ?_, fun centre ↦ ?_⟩
  · have hmoved : 15 ≤ (ohlcv.map (OHLCVData.translate shift)).length :=
      hlength.trans_eq (List.length_map _).symm
    rw [← mean_lastItems_trueRanges hlength, ← trueRanges_translate shift,
      mean_lastItems_trueRanges hmoved]
    exact atrsAre_windowAtr hmoved
  · have hreflected : 15 ≤ (ohlcv.map (OHLCVData.mirror centre)).length :=
      hlength.trans_eq (List.length_map _).symm
    rw [← mean_lastItems_trueRanges hlength, ← trueRanges_mirror centre,
      mean_lastItems_trueRanges hreflected]
    exact atrsAre_windowAtr hreflected

/-- Fifteen candles that are alike. -/
theorem atrs_agree_replicate :
    let ohlcv := List.replicate 15 (⟨⟨0, none⟩, 100, 102, 99, 101, 0⟩ : OHLCVData)
    AtrsAre ohlcv (windowAtr ohlcv) ∧ 0 ≤ windowAtr ohlcv ∧
      (∀ shift, AtrsAre (ohlcv.map (OHLCVData.translate shift)) (windowAtr ohlcv)) ∧
      ∀ centre, AtrsAre (ohlcv.map (OHLCVData.mirror centre)) (windowAtr ohlcv) :=
  atrs_agree (List.length_replicate ..).ge

end InvestmentAssistant
