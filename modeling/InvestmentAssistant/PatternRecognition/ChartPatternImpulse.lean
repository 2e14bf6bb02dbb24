import InvestmentAssistant.PatternRecognition.ChartPatterns
import InvestmentAssistant.PatternRecognition.SwingPoints

/-!
# The impulse before a chart pattern

A flag or a pennant follows a strong move, so the classification is told whether there was one in
front of the window. But the helper that looks for it is handed the closes of the window itself,
and cuts the window off once more. With a lookback of zero or more nothing is left then, so the
classification is never told of an impulse; a negative lookback leaves candles, but those of the
window. See `impulseIsPassed_iff`.
-/

namespace InvestmentAssistant

/-- The last ten of the closes moved by more than three per cent, from the first to the last. -/
def PriorImpulse (closes : List ℚ) : Prop :=
  ∃ earlier first between last, closes = earlier ++ first :: (between ++ [last]) ∧
    between.length = 8 ∧ 3 < |last - first| / first * 100

/-- The closes in front of the lookback window. -/
def closesBefore (ohlcv : List OHLCVData) (lookback : ℤ) : List ℚ :=
  (sliceTo ohlcv lookback).map (·.close)

/-- The last ten of enough closes, and what is before them. -/
theorem exists_last_ten {closes : List ℚ} (h : 10 ≤ closes.length) :
    ∃ earlier first between last, closes = earlier ++ first :: (between ++ [last]) ∧
      between.length = 8 := by
  have hlen : (closes.drop (closes.length - 10)).length = 10 := by
    rw [List.length_drop]
    omega
  rcases hcut : closes.drop (closes.length - 10) with - | ⟨first, rest⟩
  · rw [hcut] at hlen
    exact absurd hlen (by decide)
  · rw [hcut, List.length_cons] at hlen
    rcases List.eq_nil_or_concat' rest with rfl | ⟨between, last, rfl⟩
    · exact absurd hlen (by decide)
    · refine ⟨closes.take (closes.length - 10), first, between, last, ?_, ?_⟩
      · rw [← hcut, List.take_append_drop]
      · rw [List.length_append, List.length_singleton] at hlen
        omega

/-- Closes end in ten of them in one way only. -/
theorem priorImpulse_append_iff {earlier between : List ℚ} {first last : ℚ}
    (hlength : between.length = 8) :
    PriorImpulse (earlier ++ first :: (between ++ [last])) ↔ 3 < |last - first| / first * 100 := by
  constructor
  · rintro ⟨earlier', first', between', last', hcloses, hlength', hmove⟩
    have htail : (first :: (between ++ [last])).length =
        (first' :: (between' ++ [last'])).length := by
      simp only [List.length_cons, List.length_append, hlength, hlength']
    obtain ⟨-, hten⟩ := List.append_inj' hcloses htail
    obtain ⟨rfl, hrest⟩ := List.cons.inj hten
    obtain ⟨-, hlast⟩ := List.append_inj' hrest rfl
    obtain rfl := List.singleton_inj.1 hlast
    exact hmove
  · intro hmove
    exact ⟨earlier, first, between, last, rfl, hlength, hmove⟩

/-- The test of the helper, on the closes it leaves. -/
theorem hasPriorImpulse_eq_true_iff {closes : List ℚ} {lookback : ℤ} :
    hasPriorImpulse closes lookback = .ok true ↔
      lookback < closes.length ∧ PriorImpulse (sliceTo closes lookback) := by
  rw [hasPriorImpulse]
  split
  next hshort => exact iff_of_false (by simp) fun h ↦ absurd h.1 hshort.not_gt
  next hlong =>
    rw [and_iff_right (not_le.1 hlong)]
    dsimp only
    split
    next hfew =>
      refine iff_of_false (by simp) ?_
      rintro ⟨earlier, first, between, last, hcloses, hlength, -⟩
      rw [hcloses] at hfew
      simp only [List.length_append, List.length_cons, List.length_nil] at hfew
      omega
    next hmany =>
      obtain ⟨earlier, first, between, last, hcloses, hlength⟩ := exists_last_ten (not_lt.1 hmany)
      have hten : sliceFrom (earlier ++ first :: (between ++ [last])) 10 =
          first :: (between ++ [last]) := by
        have hstart : sliceStart (earlier ++ first :: (between ++ [last])).length 10 =
            earlier.length := by
          simp [sliceStart, hlength]
        rw [sliceFrom, hstart, List.drop_left]
      have hlast : lastItem (first :: (between ++ [last])) = .ok last := by
        rw [lastItem, ← List.cons_append, List.getLast?_concat]
      rw [hcloses, hten, hlast, priorImpulse_append_iff hlength]
      show (floatDiv |last - first| first >>= fun move ↦ .ok (decide (3 < move * 100))) = .ok true ↔
        3 < |last - first| / first * 100
      rw [floatDiv]
      split
      next hzero =>
        refine iff_of_false (fun h ↦ by cases h) ?_
        rw [hzero, div_zero, zero_mul]
        norm_num
      next =>
        show Except.ok (decide _) = .ok true ↔ _
        rw [Except.ok.injEq, decide_eq_true_iff]

section Lookback

variable (argrelextrema : Extrema) (polyfit : Polyfit) (ohlcv : List OHLCVData)
  (lookback order : ℤ)

/-- The classification is reached: there are enough candles, and two lines through those of the
window. -/
def TrendlinesExist : Prop :=
  lookback ≤ ohlcv.length ∧
    ∃ lines, trendlines argrelextrema polyfit (sliceFrom ohlcv lookback) order = .ok (some lines)

/-- The classification is called with `pre_impulse = True`. -/
def PassesImpulse : Prop :=
  ∃ lines arguments, classifyCall argrelextrema polyfit ohlcv lookback order =
    .ok (some (lines, arguments)) ∧ arguments.preImpulse = true

/-- The classification is told of an impulse exactly when there was one before the window. -/
def ImpulseIsPassed : Prop :=
  PassesImpulse argrelextrema polyfit ohlcv lookback order ↔
    PriorImpulse (closesBefore ohlcv lookback)

variable {argrelextrema polyfit ohlcv lookback order}

/-- The arguments tell of an impulse when the helper finds one. -/
theorem exists_classifyArguments_iff {lines : Trendlines} {closes : List ℚ} :
    (∃ arguments, classifyArguments lines closes lookback = .ok arguments ∧
      arguments.preImpulse = true) ↔ hasPriorImpulse closes lookback = .ok true := by
  constructor
  · rintro ⟨arguments, hok, himpulse⟩
    obtain ⟨found, hfound, hok⟩ := bind_eq_ok_iff.1 hok
    obtain rfl := Except.ok.inj hok
    obtain rfl : found = true := himpulse
    exact hfound
  · intro h
    exact ⟨_, bind_eq_ok_iff.2 ⟨true, h, rfl⟩, rfl⟩

/-- What the classification is told is what the helper finds in the window. -/
theorem passesImpulse_iff (h : TrendlinesExist argrelextrema polyfit ohlcv lookback order) :
    PassesImpulse argrelextrema polyfit ohlcv lookback order ↔
      hasPriorImpulse ((sliceFrom ohlcv lookback).map (·.close)) lookback = .ok true := by
  obtain ⟨hlen, lines, hlines⟩ := h
  rw [← @exists_classifyArguments_iff lookback lines, PassesImpulse, classifyCall,
    if_neg hlen.not_gt]
  constructor
  · rintro ⟨lines', arguments, hcall, himpulse⟩
    obtain ⟨found, hfound, hcall⟩ := bind_eq_ok_iff.1 hcall
    obtain rfl := Except.ok.inj (hfound.symm.trans hlines)
    obtain ⟨arguments', hok, hcall⟩ := bind_eq_ok_iff.1 hcall
    obtain ⟨-, rfl⟩ := Prod.mk.inj (Option.some.inj (Except.ok.inj hcall))
    exact ⟨arguments', hok, himpulse⟩
  · rintro ⟨arguments, hok, himpulse⟩
    exact ⟨lines, arguments, bind_eq_ok_iff.2 ⟨some lines, hlines,
      bind_eq_ok_iff.2 ⟨arguments, hok, rfl⟩⟩, himpulse⟩

/-- With a lookback of zero or more, the window leaves the helper nothing. -/
theorem not_passesImpulse (h : TrendlinesExist argrelextrema polyfit ohlcv lookback order)
    (hlookback : 0 ≤ lookback) : ¬PassesImpulse argrelextrema polyfit ohlcv lookback order := by
  rw [passesImpulse_iff h, hasPriorImpulse_eq_true_iff]
  rintro ⟨hlong, earlier, first, between, last, hcloses, -⟩
  rw [List.length_map, sliceFrom, List.length_drop] at hlong
  rcases hlookback.eq_or_lt with rfl | hpos
  · -- `closes[:-0]` is empty
    have hempty : sliceTo ((sliceFrom ohlcv 0).map (·.close)) 0 = [] := rfl
    rw [hempty] at hcloses
    exact absurd hcloses.symm (by simp)
  · -- the window has exactly `lookback` candles
    rw [sliceStart, if_pos hpos] at hlong
    have hlen := h.1
    omega

/-- With a negative lookback the helper reads the front of the window. -/
theorem passesImpulse_iff_of_neg (h : TrendlinesExist argrelextrema polyfit ohlcv lookback order)
    (hlookback : lookback < 0) : PassesImpulse argrelextrema polyfit ohlcv lookback order ↔
      PriorImpulse (closesBefore (sliceFrom ohlcv lookback) lookback) := by
  rw [passesImpulse_iff h, hasPriorImpulse_eq_true_iff, and_iff_right (by omega), sliceTo,
    closesBefore, sliceTo, List.length_map, List.map_take]

/-- **Where the impulse is passed on**: where there was none, for a lookback of zero or more; for a
negative one, where the front of the window moved as the candles before it did. -/
theorem impulseIsPassed_iff (h : TrendlinesExist argrelextrema polyfit ohlcv lookback order) :
    ImpulseIsPassed argrelextrema polyfit ohlcv lookback order ↔
      (0 ≤ lookback → ¬PriorImpulse (closesBefore ohlcv lookback)) ∧
      (lookback < 0 → (PriorImpulse (closesBefore (sliceFrom ohlcv lookback) lookback) ↔
        PriorImpulse (closesBefore ohlcv lookback))) := by
  rw [ImpulseIsPassed]
  rcases lt_or_ge lookback 0 with hneg | hnonneg
  · rw [passesImpulse_iff_of_neg h hneg]
    exact ⟨fun hiff ↦ ⟨fun hle ↦ absurd hneg hle.not_gt, fun _ ↦ hiff⟩, fun hboth ↦ hboth.2 hneg⟩
  · rw [iff_false_left (not_passesImpulse h hnonneg)]
    exact ⟨fun hnone ↦ ⟨fun _ ↦ hnone, fun hneg ↦ absurd hneg hnonneg.not_gt⟩,
      fun hboth ↦ hboth.1 hnonneg⟩

end Lookback

/-! ### A flag that is missed -/

/-- The line of least squares; there must be two different `x`. -/
def leastSquares : Polyfit := fun xs ys ↦
  let n : ℚ := xs.length
  let sumX := xs.sum
  let sumY := ys.sum
  let sumXY := (xs.zipWith (· * ·) ys).sum
  let sumXX := (xs.map fun x ↦ x * x).sum
  let spread := n * sumXX - sumX * sumX
  if spread = 0 then .error (.other "LinAlgError")
  else
    let slope := (n * sumXY - sumX * sumY) / spread
    .ok (slope, (sumY - slope * sumX) / n)

/-- Ten candles that rise from 100 to 118, and sixty that stay there. -/
def flagAfterImpulse : List OHLCVData :=
  (List.range 70).map fun (i : ℕ) ↦
    let close : ℚ := 100 + 2 * (min i 9 : ℕ)
    ⟨⟨i, none⟩, close, close + 1, close - 1, close, 0⟩

/-- On the level candles alone there is no impulse, and none is passed. -/
theorem impulseIsPassed_iff_level :
    let level := flagAfterImpulse.drop 10
    ImpulseIsPassed clippedExtrema leastSquares level 60 5 ↔
      ((0 : ℤ) ≤ 60 → ¬PriorImpulse (closesBefore level 60)) ∧
      ((60 : ℤ) < 0 → (PriorImpulse (closesBefore (sliceFrom level 60) 60) ↔
        PriorImpulse (closesBefore level 60))) := by
  intro level
  exact impulseIsPassed_iff ⟨by decide, ⟨0, 119, 0, 117⟩, by decide +kernel⟩

/-- **A missed flag.** The ten candles before the window rise by eighteen per cent; the
classification is told of no impulse and nothing is detected, where it would report a flag. -/
theorem flagAfterImpulse_is_missed :
    TrendlinesExist clippedExtrema leastSquares flagAfterImpulse 60 5 ∧
      PriorImpulse (closesBefore flagAfterImpulse 60) ∧
      ¬ImpulseIsPassed clippedExtrema leastSquares flagAfterImpulse 60 5 ∧
      detectChartPatterns clippedExtrema leastSquares flagAfterImpulse = .ok [] ∧
      classifyPattern 0 0 (isConverging 0 0) (isParallel 0 0) true =
        some ("Bear Flag", false, 0.6) := by
  have htrend : TrendlinesExist clippedExtrema leastSquares flagAfterImpulse 60 5 :=
    ⟨by decide, ⟨0, 119, 0, 117⟩, by decide +kernel⟩
  have hprior : PriorImpulse (closesBefore flagAfterImpulse 60) :=
    ⟨[], 100, [102, 104, 106, 108, 110, 112, 114, 116], 118, by decide +kernel, rfl,
      by decide +kernel⟩
  refine ⟨htrend, hprior, fun h ↦ ?_, by decide +kernel, by decide +kernel⟩
  exact not_passesImpulse htrend (by decide) (h.2 hprior)

end InvestmentAssistant
