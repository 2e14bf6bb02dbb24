import Mathlib.Tactic
import InvestmentAssistant.PatternRecognition.IkiDetector
import InvestmentAssistant.StrategyGenerator.SlTpGeometry

/-!
# What the IKI detector finds

A start has a pattern when the three phases succeed one after the other (`IsIki`); what `findPhases`
searches for is exactly that (`findPhases_eq_some_iff`), and no pattern is refused by its record
(`pattern?_eq`). Keeping the latest pattern of each direction then comes down to the greatest
start (`filter_foldl_keepLatest`).

The prices the phases read of a reflected series are the reflected prices of the other direction, so
the phases are the same (`isIki_mirror`).
-/

namespace InvestmentAssistant

open Decimal

namespace Iki

/-! ### The criteria -/

/-- A pattern that starts at `s`: the first candle `j` that is twice the average true range away,
the first `k` behind it that came back at least 38.2 percent of the move, but no more than 61.8
percent, and some `m` behind that one that got away from the correction by the average true
range. -/
structure IsIki (ohlcv : List OHLCVData) (bullish : Bool) (atr : ℚ) (s j k m : ℕ) : Prop where
  impulse : (s + 2 ≤ j ∧ j < s + 10) ∧ 2 * atr ≤ move ohlcv bullish s j
  impulse_first : ∀ i, s + 2 ≤ i → i < j → move ohlcv bullish s i < 2 * atr
  correction : (j < k ∧ k ≤ j + 14) ∧
    fiboRetracementMin * move ohlcv bullish s j ≤ retrace ohlcv bullish j k
  correction_first : ∀ i, j < i → i < k →
    retrace ohlcv bullish j i < fiboRetracementMin * move ohlcv bullish s j
  shallow : retrace ohlcv bullish j k ≤ fiboRetracementMax * move ohlcv bullish s j
  second : (k < m ∧ m ≤ k + 9) ∧ atr ≤ secondMove ohlcv bullish k m
  inside : m < ohlcv.length

variable {ohlcv : List OHLCVData} {bullish : Bool} {atr impulseThreshold : ℚ} {s j k m : ℕ}

theorem mem_clippedRange {start stop i : ℕ} :
    i ∈ clippedRange ohlcv start stop ↔ (start ≤ i ∧ i < stop) ∧ i < ohlcv.length := by
  rw [clippedRange, List.mem_range'_1]
  omega

/-- The first candle of a clipped range that meets a condition. -/
theorem find?_clippedRange_eq_some_iff {start stop : ℕ} {p : ℕ → Prop} [DecidablePred p] :
    (clippedRange ohlcv start stop).find? (fun i ↦ p i) = some j ↔
      ((start ≤ j ∧ j < stop) ∧ j < ohlcv.length) ∧ p j ∧ ∀ i, start ≤ i → i < j → ¬ p i := by
  rw [← mem_clippedRange, clippedRange, List.find?_range'_eq_some, decide_eq_true_iff,
    and_left_comm]
  refine and_congr_right fun _ ↦ and_congr_right fun _ ↦ ?_
  simp only [Bool.not_eq_true', decide_eq_false_iff_not]

/-- The correction is the first candle that came back far enough, unless it came back too far. -/
theorem findCorrectionEnd_eq (ks : List ℕ) :
    findCorrectionEnd ohlcv bullish s j ks =
      (ks.find? fun k ↦ fiboRetracementMin ≤ retraceRatio ohlcv bullish s j k).filter
        fun k ↦ retraceRatio ohlcv bullish s j k ≤ fiboRetracementMax := by
  have hbounds : fiboRetracementMin ≤ fiboRetracementMax := by decide +kernel
  induction ks with
  | nil => rfl
  | cons k ks ih =>
    rw [findCorrectionEnd]
    by_cases hmin : fiboRetracementMin ≤ retraceRatio ohlcv bullish s j k
    · have hfind : (k :: ks).find?
          (fun k ↦ decide (fiboRetracementMin ≤ retraceRatio ohlcv bullish s j k)) = some k :=
        List.find?_cons_of_pos (decide_eq_true hmin)
      rw [hfind]
      by_cases hmax : retraceRatio ohlcv bullish s j k ≤ fiboRetracementMax
      · rw [if_pos ⟨hmin, hmax⟩, Option.filter_some, if_pos (decide_eq_true hmax)]
      · rw [if_neg fun h ↦ hmax h.2, if_pos (not_le.1 hmax), Option.filter_some,
          if_neg (by simpa using hmax)]
    · have hfind : (k :: ks).find?
          (fun k ↦ decide (fiboRetracementMin ≤ retraceRatio ohlcv bullish s j k)) =
          ks.find? fun k ↦ decide (fiboRetracementMin ≤ retraceRatio ohlcv bullish s j k) :=
        List.find?_cons_of_neg (by simpa using hmin)
      have hdeep : ¬ fiboRetracementMax < retraceRatio ohlcv bullish s j k := fun h ↦
        hmin (hbounds.trans h.le)
      rw [hfind, if_neg fun h ↦ hmin h.1, if_neg hdeep]
      exact ih

/-- The size of an impulse is the move to its end. -/
theorem impulseSize_eq (h : 0 < move ohlcv bullish s j) :
    impulseSize ohlcv bullish s j = move ohlcv bullish s j := by
  cases bullish with
  | true => exact abs_of_pos h
  | false => exact (abs_sub_comm _ _).trans (abs_of_pos h)

theorem retraceRatio_eq (h : 0 < move ohlcv bullish s j) :
    retraceRatio ohlcv bullish s j k = retrace ohlcv bullish j k / move ohlcv bullish s j := by
  rw [retraceRatio, impulseSize_eq h, if_pos h]

theorem findImpulseEnd_eq_some_iff :
    findImpulseEnd ohlcv bullish impulseThreshold s = some j ↔
      ((s + 2 ≤ j ∧ j < s + 10) ∧ j < ohlcv.length) ∧
        impulseThreshold ≤ move ohlcv bullish s j ∧
        ∀ i, s + 2 ≤ i → i < j → move ohlcv bullish s i < impulseThreshold := by
  rw [findImpulseEnd, find?_clippedRange_eq_some_iff]
  simp only [not_le]

theorem findSecondImpulse_eq_some_iff :
    findSecondImpulse ohlcv bullish (atrImpulseMultiplier * atr) k = some m ↔
      ((k + 1 ≤ m ∧ m < k + 10) ∧ m < ohlcv.length) ∧ atr ≤ secondMove ohlcv bullish k m ∧
        ∀ i, k + 1 ≤ i → i < m → secondMove ohlcv bullish k i < atr := by
  have hhalf : atrImpulseMultiplier * atr * 0.5 = atr := by
    rw [atrImpulseMultiplier]
    ring
  rw [findSecondImpulse, find?_clippedRange_eq_some_iff, hhalf]
  simp only [not_le]

/-- The correction of an impulse that went somewhere, without the quotient. -/
theorem findCorrectionEnd_eq_some_iff (hmove : 0 < move ohlcv bullish s j) :
    findCorrectionEnd ohlcv bullish s j (clippedRange ohlcv (j + 1) (j + 15)) = some k ↔
      (((j + 1 ≤ k ∧ k < j + 15) ∧ k < ohlcv.length) ∧
        fiboRetracementMin * move ohlcv bullish s j ≤ retrace ohlcv bullish j k ∧
        ∀ i, j + 1 ≤ i → i < k →
          retrace ohlcv bullish j i < fiboRetracementMin * move ohlcv bullish s j) ∧
      retrace ohlcv bullish j k ≤ fiboRetracementMax * move ohlcv bullish s j := by
  rw [findCorrectionEnd_eq, Option.filter_eq_some_iff, find?_clippedRange_eq_some_iff]
  simp only [retraceRatio_eq hmove, le_div_iff₀ hmove, div_le_iff₀ hmove, decide_eq_true_eq, not_le]

/-- **What the phases are.** -/
theorem findPhases_eq_some_iff (hatr : 0 < atr) :
    findPhases ohlcv bullish (atrImpulseMultiplier * atr) s = some ⟨j, k, m⟩ ↔
      IsIki ohlcv bullish atr s j k m ∧
        ∀ i, k < i → i < m → secondMove ohlcv bullish k i < atr := by
  have hthreshold : 0 < atrImpulseMultiplier * atr := mul_pos (by decide) hatr
  rw [findPhases, Option.bind_eq_some_iff]
  constructor
  · rintro ⟨j', hj, h⟩
    obtain ⟨k', hk, h⟩ := Option.bind_eq_some_iff.1 h
    obtain ⟨m', hm, heq⟩ := Option.map_eq_some_iff.1 h
    obtain ⟨rfl, rfl, rfl⟩ := Phases.mk.inj heq
    obtain ⟨hjmem, hmove, hjfirst⟩ := findImpulseEnd_eq_some_iff.1 hj
    obtain ⟨⟨hkmem, hback, hkfirst⟩, hshallow⟩ :=
      (findCorrectionEnd_eq_some_iff (hthreshold.trans_le hmove)).1 hk
    obtain ⟨hmmem, hsecond, hmfirst⟩ := findSecondImpulse_eq_some_iff.1 hm
    exact ⟨⟨⟨hjmem.1, hmove⟩, hjfirst, ⟨⟨by omega, by omega⟩, hback⟩, hkfirst, hshallow,
      ⟨⟨by omega, by omega⟩, hsecond⟩, hmmem.2⟩, hmfirst⟩
  · rintro ⟨h, hmfirst⟩
    obtain ⟨hkmem, hback⟩ := h.correction
    obtain ⟨hmmem, hsecond⟩ := h.second
    have hinside := h.inside
    have hmove : 0 < move ohlcv bullish s j := hthreshold.trans_le h.impulse.2
    refine ⟨j, findImpulseEnd_eq_some_iff.2 ⟨⟨h.impulse.1, by omega⟩, h.impulse.2,
      h.impulse_first⟩, Option.bind_eq_some_iff.2 ⟨k, ?_, Option.map_eq_some_iff.2 ⟨m, ?_, rfl⟩⟩⟩
    · exact (findCorrectionEnd_eq_some_iff hmove).2 ⟨⟨⟨⟨by omega, by omega⟩, by omega⟩, hback,
        h.correction_first⟩, h.shallow⟩
    · exact findSecondImpulse_eq_some_iff.2 ⟨⟨⟨by omega, by omega⟩, hinside⟩, hsecond, hmfirst⟩

/-- A start has a pattern. -/
def HasIki (ohlcv : List OHLCVData) (bullish : Bool) (atr : ℚ) (s : ℕ) : Prop :=
  ∃ j k m, IsIki ohlcv bullish atr s j k m

/-- **The phases are found exactly where there is a pattern.** -/
theorem exists_findPhases_iff (hatr : 0 < atr) :
    (∃ phases, findPhases ohlcv bullish (atrImpulseMultiplier * atr) s = some phases) ↔
      HasIki ohlcv bullish atr s := by
  constructor
  · rintro ⟨⟨j, k, m⟩, hphases⟩
    exact ⟨j, k, m, ((findPhases_eq_some_iff hatr).1 hphases).1⟩
  · rintro ⟨j, k, m, h⟩
    -- the first candle that will do comes no later than any that does
    have hsome : (findSecondImpulse ohlcv bullish (atrImpulseMultiplier * atr) k).isSome := by
      have hhalf : atrImpulseMultiplier * atr * 0.5 = atr := by
        rw [atrImpulseMultiplier]
        ring
      rw [findSecondImpulse, List.find?_isSome]
      refine ⟨m, mem_clippedRange.2 ⟨⟨h.second.1.1, ?_⟩, h.inside⟩, ?_⟩
      · have hle := h.second.1.2
        omega
      · rw [hhalf]
        exact decide_eq_true h.second.2
    obtain ⟨first, hfirst⟩ := Option.isSome_iff_exists.1 hsome
    obtain ⟨hmem, hsecond, hbefore⟩ := findSecondImpulse_eq_some_iff.1 hfirst
    have hle : first ≤ k + 9 := by omega
    exact ⟨⟨j, k, first⟩, (findPhases_eq_some_iff hatr).2 ⟨⟨h.impulse, h.impulse_first,
      h.correction, h.correction_first, h.shallow, ⟨⟨hmem.1.1, hle⟩, hsecond⟩, hmem.2⟩, hbefore⟩⟩

/-! ### The patterns -/

/-- The threshold of a series. -/
def threshold (ohlcv : List OHLCVData) (atrPeriod : ℕ) : ℚ :=
  atrImpulseMultiplier * Iki.calculateAtr ohlcv atrPeriod

/-- The pattern that starts at a candle. -/
def pattern? (ohlcv : List OHLCVData) (bullish : Bool) (impulseThreshold : ℚ) (s : ℕ) :
    Option PatternDetection :=
  (findPhases ohlcv bullish impulseThreshold s).bind fun phases ↦
    (fields ohlcv bullish impulseThreshold s phases).validate.toOption

/-- The patterns that start at a candle, the bullish one first. -/
def patternsAt (ohlcv : List OHLCVData) (impulseThreshold : ℚ) (s : ℕ) : List PatternDetection :=
  (pattern? ohlcv true impulseThreshold s).toList ++
    (pattern? ohlcv false impulseThreshold s).toList

/-- A second move of at least half the threshold gives a confidence within `[0, 1]`. -/
theorem inUnit_confidence (hatr : 0 < atr) (h : IsIki ohlcv bullish atr s j k m) :
    InUnit (fields ohlcv bullish (atrImpulseMultiplier * atr) s ⟨j, k, m⟩).confidence := by
  have hthreshold : 0 < atrImpulseMultiplier * atr := mul_pos (by decide) hatr
  have hnonneg : 0 ≤ secondMove ohlcv bullish k m / (atrImpulseMultiplier * atr) :=
    div_nonneg (hatr.le.trans h.second.2) hthreshold.le
  have hpos : 0 ≤ confidence ohlcv bullish (atrImpulseMultiplier * atr) ⟨j, k, m⟩ :=
    le_min zero_le_one (by linarith)
  refine ⟨?_, ?_⟩
  · exact (hasDecimals_zero 2).le_roundTo hpos
  · exact (hasDecimals_one 2).roundTo_le (min_le_left _ _)

/-- **No pattern is refused by its record.** -/
theorem pattern?_eq (hatr : 0 < atr) :
    (pattern? ohlcv bullish (atrImpulseMultiplier * atr) s).map (·.toPatternFields) =
        (findPhases ohlcv bullish (atrImpulseMultiplier * atr) s).map
          (fields ohlcv bullish (atrImpulseMultiplier * atr) s) ∧
      findIki ohlcv bullish (atrImpulseMultiplier * atr) s =
        .ok (pattern? ohlcv bullish (atrImpulseMultiplier * atr) s) := by
  rw [pattern?, findIki]
  rcases hphases : findPhases ohlcv bullish (atrImpulseMultiplier * atr) s with - | ⟨j, k, m⟩
  · exact ⟨rfl, rfl⟩
  · have hunit := inUnit_confidence hatr ((findPhases_eq_some_iff hatr).1 hphases).1
    have hstars : 1 ≤ 1 ∧ 1 ≤ 3 := by decide
    have hvalid : (fields ohlcv bullish (atrImpulseMultiplier * atr) s ⟨j, k, m⟩).validate =
        .ok ⟨_, hunit, inUnit_zero, hstars⟩ :=
      dif_pos ⟨hunit, inUnit_zero, hstars⟩
    rw [Option.bind_some, hvalid]
    refine ⟨rfl, ?_⟩
    show some <$> (fields ohlcv bullish (atrImpulseMultiplier * atr) s ⟨j, k, m⟩).validate = _
    rw [hvalid]
    rfl

/-! ### The latest of each direction -/

/-- A list of patterns with at most one of each direction. -/
def OnePerDirection (seen : List PatternDetection) : Prop :=
  ∀ b, (seen.filter fun p ↦ p.bullish = b).length ≤ 1

theorem filter_keepLatest {seen : List PatternDetection} (hseen : OnePerDirection seen)
    (pattern : PatternDetection) (b : Bool) :
    (keepLatest seen pattern).filter (fun p ↦ p.bullish = b) =
      if pattern.bullish = b then [pattern] else seen.filter fun p ↦ p.bullish = b := by
  induction seen with
  | nil =>
    rw [keepLatest, List.filter_cons]
    simp only [decide_eq_true_eq, List.filter_nil]
  | cons q seen ih =>
    have htail : OnePerDirection seen := fun b ↦
      ((List.sublist_cons_self q seen).filter _).length_le.trans (hseen b)
    rw [keepLatest]
    by_cases hq : q.bullish = pattern.bullish
    · rw [if_pos hq, List.filter_cons, List.filter_cons]
      by_cases hb : pattern.bullish = b
      · -- the pattern takes the place of the only one of its direction
        have hone := hseen b
        rw [List.filter_cons, if_pos (decide_eq_true (hq.trans hb)), List.length_cons] at hone
        have hnil := List.length_eq_zero_iff.1 (Nat.le_zero.1 (Nat.le_of_succ_le_succ hone))
        simp [hb, hnil]
      · simp [hq, hb]
    · rw [if_neg hq, List.filter_cons, List.filter_cons, ih htail]
      by_cases hb : pattern.bullish = b
      · have hne : ¬ q.bullish = b := fun h ↦ hq (h.trans hb.symm)
        simp [hb, hne]
      · simp [hb]

/-- **Of each direction the last pattern is kept.** -/
theorem filter_foldl_keepLatest (results : List PatternDetection) (b : Bool) :
    (results.foldl keepLatest []).filter (fun p ↦ p.bullish = b) =
      (results.filter fun p ↦ p.bullish = b).getLast?.toList := by
  induction results using List.reverseRecOn generalizing b with
  | nil => rfl
  | append_singleton results pattern ih =>
    have hseen : OnePerDirection (results.foldl keepLatest []) := by
      intro b
      rw [ih b]
      exact Option.length_toList_le
    rw [List.foldl_append, List.foldl_cons, List.foldl_nil, filter_keepLatest hseen,
      List.filter_append, ih b]
    by_cases hb : pattern.bullish = b
    · simp [hb]
    · simp [hb]

/-! ### The scan -/

/-- The starts that are scanned. -/
def InWindow (ohlcv : List OHLCVData) (atrPeriod s : ℕ) : Prop :=
  max atrPeriod (ohlcv.length - 60) ≤ s ∧ s < ohlcv.length - 10

/-- The series is long enough for a scan and moves at all. -/
def Scannable (ohlcv : List OHLCVData) (atrPeriod : ℕ) : Prop :=
  atrPeriod + 20 ≤ ohlcv.length ∧ 0 < Iki.calculateAtr ohlcv atrPeriod

/-- The list of the starts that are scanned. -/
def window (ohlcv : List OHLCVData) (atrPeriod : ℕ) : List ℕ :=
  List.range' (max atrPeriod (ohlcv.length - 60))
    (ohlcv.length - 10 - max atrPeriod (ohlcv.length - 60))

theorem mem_window {atrPeriod : ℕ} : s ∈ window ohlcv atrPeriod ↔ InWindow ohlcv atrPeriod s := by
  rw [window, List.mem_range'_1, InWindow]
  omega

/-- The latest pattern of a direction. -/
def latest? (ohlcv : List OHLCVData) (atrPeriod : ℕ) (bullish : Bool) : Option PatternDetection :=
  ((window ohlcv atrPeriod).filterMap
    (pattern? ohlcv bullish (threshold ohlcv atrPeriod))).getLast?

theorem exists_phases_of_pattern? (hatr : 0 < atr) {p : PatternDetection}
    (h : pattern? ohlcv bullish (atrImpulseMultiplier * atr) s = some p) :
    ∃ phases, findPhases ohlcv bullish (atrImpulseMultiplier * atr) s = some phases ∧
      p.toPatternFields = fields ohlcv bullish (atrImpulseMultiplier * atr) s phases := by
  have hfields := (@pattern?_eq ohlcv bullish atr s hatr).1
  rw [h] at hfields
  obtain ⟨phases, hphases, heq⟩ := Option.map_eq_some_iff.1 hfields.symm
  exact ⟨phases, hphases, heq.symm⟩

/-- A pattern found for a direction is of the direction. -/
theorem filter_toList_pattern? (hatr : 0 < atr) (b : Bool) :
    (pattern? ohlcv bullish (atrImpulseMultiplier * atr) s).toList.filter (fun p ↦ p.bullish = b) =
      if bullish = b then (pattern? ohlcv bullish (atrImpulseMultiplier * atr) s).toList
      else [] := by
  rcases h : pattern? ohlcv bullish (atrImpulseMultiplier * atr) s with - | p
  · simp
  · obtain ⟨phases, -, hfields⟩ := exists_phases_of_pattern? hatr h
    have hside : p.bullish = bullish := congrArg PatternFields.bullish hfields
    rw [Option.toList_some, List.filter_cons, hside]
    simp

/-- The patterns of a direction among those of all starts. -/
theorem filter_flatten_patterns (hatr : 0 < atr) (starts : List ℕ) (b : Bool) :
    (starts.map (patternsAt ohlcv (atrImpulseMultiplier * atr))).flatten.filter
        (fun p ↦ p.bullish = b) =
      starts.filterMap (pattern? ohlcv b (atrImpulseMultiplier * atr)) := by
  induction starts with
  | nil => rfl
  | cons i starts ih =>
    rw [List.map_cons, List.flatten_cons, List.filter_append, patternsAt, List.filter_append, ih,
      filter_toList_pattern? hatr, filter_toList_pattern? hatr, List.filterMap_cons]
    cases b with
    | true => cases pattern? ohlcv true (atrImpulseMultiplier * atr) i <;> rfl
    | false => cases pattern? ohlcv false (atrImpulseMultiplier * atr) i <;> rfl

/-- **What the detector returns**: of each direction the latest pattern. -/
theorem exists_detectIkiPattern (ohlcv : List OHLCVData) (atrPeriod : ℕ) :
    ∃ result, detectIkiPattern ohlcv atrPeriod = .ok result ∧
      (¬ Scannable ohlcv atrPeriod → result = []) ∧
      (Scannable ohlcv atrPeriod → ∀ b, result.filter (fun p ↦ p.bullish = b) =
        (latest? ohlcv atrPeriod b).toList) := by
  by_cases hshort : ohlcv.length < atrPeriod + 20
  · refine ⟨[], if_pos hshort, fun _ ↦ rfl, fun h ↦ ?_⟩
    exact absurd hshort (not_lt.2 h.1)
  by_cases hflat : Iki.calculateAtr ohlcv atrPeriod ≤ 0
  · refine ⟨[], (if_neg hshort).trans (if_pos hflat), fun _ ↦ rfl, fun h ↦ ?_⟩
    exact absurd hflat (not_le.2 h.2)
  have hatr := not_le.1 hflat
  have hscan : ((window ohlcv atrPeriod).mapM fun i ↦ do
      let bullishIki ← findIki ohlcv true (threshold ohlcv atrPeriod) i
      let bearishIki ← findIki ohlcv false (threshold ohlcv atrPeriod) i
      pure (bullishIki.toList ++ bearishIki.toList)) =
      .ok ((window ohlcv atrPeriod).map (patternsAt ohlcv (threshold ohlcv atrPeriod))) := by
    refine mapM_eq_ok_iff.2 (List.forall₂_map_right_iff.2 (List.forall₂_same.2 fun i _ ↦ ?_))
    rw [threshold, (pattern?_eq hatr).2, (pattern?_eq hatr).2]
    rfl
  refine ⟨((window ohlcv atrPeriod).map
      (patternsAt ohlcv (threshold ohlcv atrPeriod))).flatten.foldl keepLatest [], ?_,
    fun h ↦ absurd ⟨not_lt.1 hshort, hatr⟩ h, fun _ b ↦ ?_⟩
  · rw [detectIkiPattern, if_neg hshort]
    refine (if_neg hflat).trans ?_
    exact congrArg (fun results ↦ results >>= fun results ↦
      pure (results.flatten.foldl keepLatest [])) hscan
  · rw [filter_foldl_keepLatest]
    exact congrArg (fun patterns ↦ patterns.getLast?.toList) (filter_flatten_patterns hatr _ b)

/-- The latest pattern starts at the greatest start that has one. -/
theorem getLast?_filterMap_range' {β : Type} {f : ℕ → Option β} {first n : ℕ} {y : β}
    (h : ((List.range' first n).filterMap f).getLast? = some y) :
    ∃ s ∈ List.range' first n, f s = some y ∧
      ∀ t ∈ List.range' first n, (∃ z, f t = some z) → t ≤ s := by
  rw [List.getLast?_filterMap, List.findSome?_eq_some_iff] at h
  obtain ⟨later, s, before, hsplit, hs, hlater⟩ := h
  have hrange : List.range' first n = before.reverse ++ s :: later.reverse := by
    rw [← List.reverse_reverse (List.range' first n), hsplit]
    simp
  have hsorted : (before.reverse ++ s :: later.reverse).Pairwise (· < ·) := by
    rw [← hrange]
    exact List.pairwise_lt_range'
  refine ⟨s, by simp [hrange], hs, fun t ht hz ↦ ?_⟩
  obtain ⟨z, hz⟩ := hz
  rw [hrange] at ht
  rcases List.mem_append.1 ht with ht | ht
  · exact ((List.pairwise_append.1 hsorted).2.2 t ht s (List.mem_cons_self ..)).le
  rcases List.mem_cons.1 ht with rfl | ht
  · exact le_rfl
  · rw [hlater t (List.mem_reverse.1 ht)] at hz
    cases hz

/-! ### The reflected series -/

section Mirror

variable (centre : ℚ)

theorem highs_mirror {i : ℕ} (h : i < ohlcv.length) :
    highs (ohlcv.map (OHLCVData.mirror centre)) i = centre - lows ohlcv i := by
  simp [highs, lows, h, OHLCVData.mirror]

theorem lows_mirror {i : ℕ} (h : i < ohlcv.length) :
    lows (ohlcv.map (OHLCVData.mirror centre)) i = centre - highs ohlcv i := by
  simp [highs, lows, h, OHLCVData.mirror]

/-- The moves of the other direction are those of the reflected series. -/
theorem move_mirror (hs : s < ohlcv.length) (hj : j < ohlcv.length) :
    move (ohlcv.map (OHLCVData.mirror centre)) (!bullish) s j = move ohlcv bullish s j := by
  cases bullish with
  | true =>
    show highs _ s - lows _ j = highs ohlcv j - lows ohlcv s
    rw [highs_mirror centre hs, lows_mirror centre hj]
    ring
  | false =>
    show highs _ j - lows _ s = highs ohlcv s - lows ohlcv j
    rw [highs_mirror centre hj, lows_mirror centre hs]
    ring

theorem impulseEndPrice_mirror (hj : j < ohlcv.length) :
    impulseEndPrice (ohlcv.map (OHLCVData.mirror centre)) (!bullish) j =
      centre - impulseEndPrice ohlcv bullish j := by
  cases bullish with
  | true => exact lows_mirror centre hj
  | false => exact highs_mirror centre hj

theorem correctionPrice_mirror (hk : k < ohlcv.length) :
    correctionPrice (ohlcv.map (OHLCVData.mirror centre)) (!bullish) k =
      centre - correctionPrice ohlcv bullish k := by
  cases bullish with
  | true => exact highs_mirror centre hk
  | false => exact lows_mirror centre hk

theorem retrace_mirror (hj : j < ohlcv.length) (hk : k < ohlcv.length) :
    retrace (ohlcv.map (OHLCVData.mirror centre)) (!bullish) j k = retrace ohlcv bullish j k := by
  have hend := @impulseEndPrice_mirror ohlcv bullish j centre hj
  cases bullish with
  | true =>
    show highs _ k - impulseEndPrice _ (!true) j = impulseEndPrice ohlcv true j - lows ohlcv k
    rw [highs_mirror centre hk, hend]
    ring
  | false =>
    show impulseEndPrice _ (!false) j - lows _ k = highs ohlcv k - impulseEndPrice ohlcv false j
    rw [lows_mirror centre hk, hend]
    ring

theorem secondMove_mirror (hk : k < ohlcv.length) (hm : m < ohlcv.length) :
    secondMove (ohlcv.map (OHLCVData.mirror centre)) (!bullish) k m =
      secondMove ohlcv bullish k m := by
  have hprice := @correctionPrice_mirror ohlcv bullish k centre hk
  cases bullish with
  | true =>
    show correctionPrice _ (!true) k - lows _ m = highs ohlcv m - correctionPrice ohlcv true k
    rw [lows_mirror centre hm, hprice]
    ring
  | false =>
    show highs _ m - correctionPrice _ (!false) k = correctionPrice ohlcv false k - lows ohlcv m
    rw [highs_mirror centre hm, hprice]
    ring

/-- **The phases of the other direction are those of the reflected series.** -/
theorem isIki_mirror (h : IsIki ohlcv bullish atr s j k m) :
    IsIki (ohlcv.map (OHLCVData.mirror centre)) (!bullish) atr s j k m := by
  have hm := h.inside
  obtain ⟨hjmem, hmove⟩ := h.impulse
  obtain ⟨hkmem, hback⟩ := h.correction
  obtain ⟨hmmem, hsecond⟩ := h.second
  have hk : k < ohlcv.length := by omega
  have hj : j < ohlcv.length := by omega
  have hs : s < ohlcv.length := by omega
  have hmoves : ∀ i ≤ j, move (ohlcv.map (OHLCVData.mirror centre)) (!bullish) s i =
      move ohlcv bullish s i := fun i hi ↦ move_mirror centre hs (hi.trans_lt hj)
  have hretraces : ∀ i ≤ k, retrace (ohlcv.map (OHLCVData.mirror centre)) (!bullish) j i =
      retrace ohlcv bullish j i := fun i hi ↦ retrace_mirror centre hj (hi.trans_lt hk)
  refine ⟨⟨hjmem, ?_⟩, fun i hlo hhi ↦ ?_, ⟨hkmem, ?_⟩, fun i hlo hhi ↦ ?_, ?_, ⟨hmmem, ?_⟩, ?_⟩
  · rw [hmoves j le_rfl]
    exact hmove
  · rw [hmoves i hhi.le]
    exact h.impulse_first i hlo hhi
  · rw [hmoves j le_rfl, hretraces k le_rfl]
    exact hback
  · rw [hmoves j le_rfl, hretraces i hhi.le]
    exact h.correction_first i hlo hhi
  · rw [hmoves j le_rfl, hretraces k le_rfl]
    exact h.shallow
  · rw [secondMove_mirror centre hk hm]
    exact hsecond
  · rw [List.length_map]
    exact hm

theorem ohlcv_mirror_mirror (ohlcv : List OHLCVData) :
    (ohlcv.map (OHLCVData.mirror centre)).map (OHLCVData.mirror centre) = ohlcv := by
  rw [List.map_map]
  refine (List.map_congr_left fun c _ ↦ ?_).trans (List.map_id ohlcv)
  simp [OHLCVData.mirror]

theorem hasIki_mirror_iff : HasIki (ohlcv.map (OHLCVData.mirror centre)) (!bullish) atr s ↔
    HasIki ohlcv bullish atr s := by
  constructor
  · rintro ⟨j, k, m, h⟩
    have hback := isIki_mirror centre h
    rw [ohlcv_mirror_mirror, Bool.not_not] at hback
    exact ⟨j, k, m, hback⟩
  · rintro ⟨j, k, m, h⟩
    exact ⟨j, k, m, isIki_mirror centre h⟩

theorem calculateAtr_map_mirror (ohlcv : List OHLCVData) (period : ℕ) :
    Iki.calculateAtr (ohlcv.map (OHLCVData.mirror centre)) period =
      Iki.calculateAtr ohlcv period := by
  rw [Iki.calculateAtr, Iki.calculateAtr, trueRanges_mirror, List.length_map]

end Mirror

/-! ### The result -/

/-- `p` is the pattern of the phases that start at `s`, the latest start of its direction. -/
structure IsReported (ohlcv : List OHLCVData) (atrPeriod : ℕ) (p : PatternDetection) (s : ℕ)
    (phases : Phases) : Prop where
  window : InWindow ohlcv atrPeriod s
  isIki : IsIki ohlcv p.bullish (Iki.calculateAtr ohlcv atrPeriod) s phases.impulseEnd
    phases.correctionEnd phases.secondEnd
  second_first : ∀ i, phases.correctionEnd < i → i < phases.secondEnd →
    secondMove ohlcv p.bullish phases.correctionEnd i < Iki.calculateAtr ohlcv atrPeriod
  latest : ∀ t, InWindow ohlcv atrPeriod t →
    HasIki ohlcv p.bullish (Iki.calculateAtr ohlcv atrPeriod) t → t ≤ s
  fields_eq : p.toPatternFields =
    fields ohlcv p.bullish (threshold ohlcv atrPeriod) s phases

/-- The result of the detector: at most one pattern of each direction, one where some start has a
pattern, and each the latest. -/
structure IsDetection (ohlcv : List OHLCVData) (atrPeriod : ℕ) (result : List PatternDetection) :
    Prop where
  one : OnePerDirection result
  exists_iff : ∀ b, (∃ p ∈ result, p.bullish = b) ↔ Scannable ohlcv atrPeriod ∧
    ∃ s, InWindow ohlcv atrPeriod s ∧ HasIki ohlcv b (Iki.calculateAtr ohlcv atrPeriod) s
  reported : ∀ p ∈ result, ∃ s phases, IsReported ohlcv atrPeriod p s phases

variable {atrPeriod : ℕ}

theorem exists_pattern?_iff (hatr : 0 < atr) :
    (∃ p, pattern? ohlcv bullish (atrImpulseMultiplier * atr) s = some p) ↔
      HasIki ohlcv bullish atr s := by
  rw [← exists_findPhases_iff hatr]
  have hfields := (@pattern?_eq ohlcv bullish atr s hatr).1
  constructor
  · rintro ⟨p, hp⟩
    rw [hp] at hfields
    obtain ⟨phases, hphases, -⟩ := Option.map_eq_some_iff.1 hfields.symm
    exact ⟨phases, hphases⟩
  · rintro ⟨phases, hphases⟩
    rw [hphases] at hfields
    obtain ⟨p, hp, -⟩ := Option.map_eq_some_iff.1 hfields
    exact ⟨p, hp⟩

/-- The latest pattern of a direction is reported from its start. -/
theorem exists_isReported (hatr : 0 < Iki.calculateAtr ohlcv atrPeriod) {b : Bool}
    {p : PatternDetection} (h : latest? ohlcv atrPeriod b = some p) :
    p.bullish = b ∧ ∃ s phases, IsReported ohlcv atrPeriod p s phases := by
  obtain ⟨s, hs, hp, hlatest⟩ := getLast?_filterMap_range' h
  obtain ⟨⟨j, k, m⟩, hphases, hfields⟩ := exists_phases_of_pattern? hatr hp
  have hside : p.bullish = b := congrArg PatternFields.bullish hfields
  obtain ⟨hiki, hfirst⟩ := (findPhases_eq_some_iff hatr).1 hphases
  subst hside
  refine ⟨rfl, s, ⟨j, k, m⟩, mem_window.1 hs, hiki, hfirst, fun t ht hhas ↦ ?_, hfields⟩
  exact hlatest t (mem_window.2 ht) ((exists_pattern?_iff hatr).2 hhas)

theorem exists_latest?_iff (hatr : 0 < Iki.calculateAtr ohlcv atrPeriod) {b : Bool} :
    (∃ p, latest? ohlcv atrPeriod b = some p) ↔
      ∃ s, InWindow ohlcv atrPeriod s ∧
        HasIki ohlcv b (Iki.calculateAtr ohlcv atrPeriod) s := by
  constructor
  · rintro ⟨p, hp⟩
    obtain ⟨rfl, s, phases, h⟩ := exists_isReported hatr hp
    exact ⟨s, h.window, phases.impulseEnd, phases.correctionEnd, phases.secondEnd, h.isIki⟩
  · rintro ⟨s, hs, hhas⟩
    obtain ⟨p, hp⟩ := (exists_pattern?_iff hatr).2 hhas
    have hmem : p ∈ (window ohlcv atrPeriod).filterMap
        (pattern? ohlcv b (threshold ohlcv atrPeriod)) :=
      List.mem_filterMap.2 ⟨s, mem_window.2 hs, hp⟩
    exact ⟨_, List.getLast?_eq_some_getLast (List.ne_nil_of_mem hmem)⟩

/-- **The detector detects.** -/
theorem exists_isDetection (ohlcv : List OHLCVData) (atrPeriod : ℕ) :
    ∃ result, detectIkiPattern ohlcv atrPeriod = .ok result ∧
      IsDetection ohlcv atrPeriod result := by
  obtain ⟨result, hresult, hnot, hfilter⟩ := exists_detectIkiPattern ohlcv atrPeriod
  refine ⟨result, hresult, ?_⟩
  by_cases hscan : Scannable ohlcv atrPeriod
  · have hmem : ∀ b p, p ∈ result ∧ p.bullish = b ↔ latest? ohlcv atrPeriod b = some p := by
      intro b p
      have hiff : p ∈ result.filter (fun p ↦ p.bullish = b) ↔ p ∈ result ∧ p.bullish = b := by
        rw [List.mem_filter, decide_eq_true_iff]
      rw [← hiff, hfilter hscan b, Option.mem_toList]
    refine ⟨fun b ↦ ?_, fun b ↦ ?_, fun p hp ↦ ?_⟩
    · rw [hfilter hscan b]
      exact Option.length_toList_le
    · rw [and_iff_right hscan, ← exists_latest?_iff hscan.2]
      exact exists_congr fun p ↦ hmem b p
    · exact (exists_isReported hscan.2 ((hmem p.bullish p).1 ⟨hp, rfl⟩)).2
  · rw [hnot hscan]
    refine ⟨fun b ↦ Nat.zero_le 1, fun b ↦ ?_, fun p hp ↦ absurd hp List.not_mem_nil⟩
    refine iff_of_false ?_ fun h ↦ hscan h.1
    rintro ⟨p, hp, -⟩
    exact absurd hp List.not_mem_nil

section Reflection

variable (centre : ℚ)

theorem inWindow_mirror_iff : InWindow (ohlcv.map (OHLCVData.mirror centre)) atrPeriod s ↔
    InWindow ohlcv atrPeriod s := by
  rw [InWindow, InWindow, List.length_map]

theorem scannable_mirror_iff : Scannable (ohlcv.map (OHLCVData.mirror centre)) atrPeriod ↔
    Scannable ohlcv atrPeriod := by
  rw [Scannable, Scannable, List.length_map, calculateAtr_map_mirror]

/-- A pattern and one of the other direction in the reflected series are reported from the same
candles. -/
theorem IsReported.mirror {p p' : PatternDetection} {phases phases' : Phases} {s' : ℕ}
    (hatr : 0 < Iki.calculateAtr ohlcv atrPeriod) (h : IsReported ohlcv atrPeriod p s phases)
    (h' : IsReported (ohlcv.map (OHLCVData.mirror centre)) atrPeriod p' s' phases')
    (hside : p'.bullish = !p.bullish) :
    s' = s ∧ phases' = phases ∧ p'.confidence = p.confidence := by
  have hwindow := (inWindow_mirror_iff centre).1 h'.window
  have hwindow' := (@inWindow_mirror_iff ohlcv s atrPeriod centre).2 h.window
  have hiki := h'.isIki
  have hlatest := h'.latest
  have hfirst := h'.second_first
  rw [hside, calculateAtr_map_mirror] at hiki hlatest hfirst
  -- both starts are the greatest
  obtain rfl : s' = s := by
    refine le_antisymm (h.latest s' hwindow ?_) (hlatest s hwindow' ?_)
    · exact (hasIki_mirror_iff centre).1 ⟨_, _, _, hiki⟩
    · exact (hasIki_mirror_iff centre).2 ⟨_, _, _, h.isIki⟩
  obtain ⟨j, k, m⟩ := phases
  obtain ⟨j', k', m'⟩ := phases'
  have hm := h.isIki.inside
  have hk : k < ohlcv.length := by
    have hkm := h.isIki.second.1.1
    dsimp only at hkm hm
    omega
  -- and the phases are found by one search
  have hsame : Phases.mk j' k' m' = ⟨j, k, m⟩ := by
    have hfound := (findPhases_eq_some_iff hatr).2 ⟨hiki, hfirst⟩
    have hfound' : findPhases (ohlcv.map (OHLCVData.mirror centre)) (!p.bullish)
        (atrImpulseMultiplier * Iki.calculateAtr ohlcv atrPeriod) s' = some ⟨j, k, m⟩ := by
      refine (findPhases_eq_some_iff hatr).2 ⟨isIki_mirror centre h.isIki, fun i hlo hhi ↦ ?_⟩
      rw [secondMove_mirror centre hk (hhi.trans hm)]
      exact h.second_first i hlo hhi
    exact Option.some.inj (hfound.symm.trans hfound')
  refine ⟨rfl, hsame, ?_⟩
  have hconfidence := congrArg PatternFields.confidence h'.fields_eq
  have hconfidence' := congrArg PatternFields.confidence h.fields_eq
  rw [hconfidence, hconfidence', hsame, hside]
  refine congrArg (roundTo 2) ?_
  rw [confidence, confidence, threshold, calculateAtr_map_mirror, secondMove_mirror centre hk hm,
    threshold]

end Reflection

/-- **What the IKI detector finds.** On every series and for every period the detector returns, with
at most one pattern of each direction, and one exactly when the series can be scanned and some start
in the window has a pattern; the pattern is that of the greatest such start. The patterns of the
reflected series are those of the other direction, from the same candles. -/
theorem detectIkiPattern_spec (ohlcv : List OHLCVData) (atrPeriod : ℕ) :
    ∃ result, detectIkiPattern ohlcv atrPeriod = .ok result ∧
      IsDetection ohlcv atrPeriod result ∧
      ∀ centre, ∃ result',
        detectIkiPattern (ohlcv.map (OHLCVData.mirror centre)) atrPeriod = .ok result' ∧
        (∀ b, (∃ p' ∈ result', p'.bullish = !b) ↔ ∃ p ∈ result, p.bullish = b) ∧
        ∀ p ∈ result, ∀ p' ∈ result', p'.bullish = !p.bullish →
          p'.confidence = p.confidence ∧ ∃ s phases, IsReported ohlcv atrPeriod p s phases ∧
            IsReported (ohlcv.map (OHLCVData.mirror centre)) atrPeriod p' s phases := by
  obtain ⟨result, hresult, hdetection⟩ := exists_isDetection ohlcv atrPeriod
  refine ⟨result, hresult, hdetection, fun centre ↦ ?_⟩
  obtain ⟨result', hresult', hdetection'⟩ :=
    exists_isDetection (ohlcv.map (OHLCVData.mirror centre)) atrPeriod
  refine ⟨result', hresult', fun b ↦ ?_, fun p hp p' hp' hside ↦ ?_⟩
  · rw [hdetection'.exists_iff, hdetection.exists_iff, scannable_mirror_iff,
      calculateAtr_map_mirror]
    simp only [inWindow_mirror_iff, hasIki_mirror_iff]
  · obtain ⟨hscan, -⟩ := (hdetection.exists_iff p.bullish).1 ⟨p, hp, rfl⟩
    obtain ⟨s, phases, h⟩ := hdetection.reported p hp
    obtain ⟨s', phases', h'⟩ := hdetection'.reported p' hp'
    obtain ⟨rfl, rfl, hconfidence⟩ := h.mirror centre hscan.2 h' hside
    exact ⟨hconfidence, s', phases', h, h'⟩

/-- A candle at one price. -/
def flatCandle (price : ℚ) : OHLCVData :=
  ⟨⟨0, none⟩, price, price, price, price, 0⟩

/-- A rise from 100 to 110 at candle 16, back to 105, up again, and then quiet; 33 candles. -/
def shortSeries : List OHLCVData :=
  (List.replicate 16 100 ++ [110, 105] ++ (List.replicate 8 [110, 109]).flatten.take 15).map
    flatCandle

/-- Start 14 of the short series meets the criteria, and nothing is detected: for the period 14 at
least 34 candles are asked for. -/
theorem detectIkiPattern_shortSeries :
    shortSeries.length = 33 ∧ InWindow shortSeries 14 14 ∧
      HasIki shortSeries true (Iki.calculateAtr shortSeries 14) 14 ∧
      0 < Iki.calculateAtr shortSeries 14 ∧ detectIkiPattern shortSeries 14 = .ok [] := by
  refine ⟨by decide, by rw [InWindow]; decide, ⟨16, 17, 18, ?_⟩, by decide +kernel, rfl⟩
  refine ⟨by decide +kernel, fun i hlo hhi ↦ ?_, by decide +kernel, fun i hlo hhi ↦ ?_,
    by decide +kernel, by decide +kernel, by decide⟩
  · exact absurd hhi (not_lt.2 hlo)
  · exact absurd hhi (not_lt.2 hlo)

end Iki

end InvestmentAssistant
