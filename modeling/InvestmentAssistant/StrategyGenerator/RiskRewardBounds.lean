import InvestmentAssistant.StrategyGenerator.SlTpGeometry

/-!
# The documented risk/reward bounds

`calculate_sl_tp` documents a first target at least as far from the entry as the stop loss, and a
second one at least twice as far. A target taken from the levels keeps the bound. A fallback target
lies at a multiple of the average true range, while the stop loss follows the nearest level against
the trade, however far that is: `meetsRiskReward_iff` says where the bounds hold.

Both bounds stand or fall with the first one. As for the geometry, the long side is proved, and the
short side is its mirror.
-/

namespace InvestmentAssistant

/-- The bounds of the docstring, `R:R >= 1:1` for the first target and `R:R >= 1:2` for the
second. -/
structure SlTp.MeetsRiskReward (entryPrice : ℚ) (levels : SlTp) : Prop where
  tp1 : |entryPrice - levels.stopLoss| ≤ |levels.tp1 - entryPrice|
  tp2 : 2 * |entryPrice - levels.stopLoss| ≤ |levels.tp2 - entryPrice|

/-- The levels a stop loss is put behind. -/
def adverseLevels (entryPrice : ℚ) (direction : Direction) (srLevels : List SrLevel) : List ℚ :=
  match direction with
  | .long => supportsBelow entryPrice srLevels
  | .short => resistancesAbove entryPrice srLevels

/-- The levels a target is looked for among. -/
def targetLevels (entryPrice : ℚ) (direction : Direction) (srLevels : List SrLevel) : List ℚ :=
  match direction with
  | .long => resistancesAbove entryPrice srLevels
  | .short => supportsBelow entryPrice srLevels

/-- Nothing stands against the trade; or a level against it is within two and a half average true
ranges; or a level in its favour is at least as far away as the stop loss behind some level. -/
def RiskIsCovered (entryPrice : ℚ) (direction : Direction) (srLevels : List SrLevel) (atr : ℚ) :
    Prop :=
  adverseLevels entryPrice direction srLevels = [] ∨
  (∃ p ∈ adverseLevels entryPrice direction srLevels, |entryPrice - p| ≤ 2.5 * atr) ∨
  ∃ p ∈ adverseLevels entryPrice direction srLevels,
    ∃ t ∈ targetLevels entryPrice direction srLevels, |entryPrice - p| + atr / 2 ≤ |t - entryPrice|

section Long

variable {entryPrice atr risk : ℚ} {srLevels : List SrLevel}

theorem lt_of_mem_supportsBelow {p : ℚ} (h : p ∈ supportsBelow entryPrice srLevels) :
    p < entryPrice := by
  obtain ⟨level, hlevel, rfl⟩ := List.mem_map.1 h
  have hkept := (List.mem_filter.1 hlevel).2
  exact of_decide_eq_true (Bool.and_eq_true_iff.1 hkept).2

theorem lt_of_mem_resistancesAbove {t : ℚ} (h : t ∈ resistancesAbove entryPrice srLevels) :
    entryPrice < t := by
  obtain ⟨level, hlevel, rfl⟩ := List.mem_map.1 h
  have hkept := (List.mem_filter.1 hlevel).2
  exact of_decide_eq_true (Bool.and_eq_true_iff.1 hkept).2

/-- The second target is looked for once the first one is found, and reaches its own minimum. -/
theorem pickTargets_snd {reachesTp1 reachesTp2 : ℚ → Bool} {targets : List ℚ} {u : ℚ}
    (h : (pickTargets reachesTp1 reachesTp2 targets).2 = some u) :
    (∃ t, (pickTargets reachesTp1 reachesTp2 targets).1 = some t) ∧ reachesTp2 u = true := by
  induction targets with
  | nil => exact nomatch h
  | cons t targets ih =>
    rw [pickTargets_cons] at h ⊢
    cases ht : reachesTp1 t with
    | true =>
      rw [ht, if_pos rfl] at h
      exact ⟨⟨t, rfl⟩, List.find?_some h⟩
    | false =>
      rw [ht, if_neg Bool.false_ne_true] at h
      exact ih h

/-- The guard that puts the second target beyond the first never brings it closer. -/
theorem le_guarded_tp2 {x tp1 tp2 : ℚ} (hrisk : 0 < risk) (h : x ≤ tp2) :
    x ≤ if tp2 ≤ tp1 then tp1 + risk else tp2 := by
  split
  · linarith
  · exact h

/-- **The targets of a long trade keep their bounds exactly when one of the levels reaches the first
minimum, or the fallback does.** -/
theorem calculateTp_long_bounds_iff (hrisk : 0 < risk) :
    (entryPrice + risk ≤ (calculateTp entryPrice .long srLevels risk atr).1 ∧
      entryPrice + 2 * risk ≤ (calculateTp entryPrice .long srLevels risk atr).2) ↔
    risk ≤ 3 * atr ∨ ∃ t ∈ resistancesAbove entryPrice srLevels, entryPrice + risk ≤ t := by
  simp only [calculateTp]
  set targets := (resistancesAbove entryPrice srLevels).insertionSort (· ≤ ·)
  have hmem (t : ℚ) : t ∈ targets ↔ t ∈ resistancesAbove entryPrice srLevels :=
    (List.perm_insertionSort _ _).mem_iff
  set found := pickTargets _ _ targets with hfound
  have hfst : found.1 = targets.find? fun t ↦ entryPrice + risk ≤ t := pickTargets_fst _ _ _
  rcases htp1 : found.1 with - | t
  · -- both targets are fallbacks
    have htp2 : found.2 = none := by
      rcases h : found.2 with - | u
      · rfl
      · obtain ⟨⟨t, ht⟩, -⟩ := pickTargets_snd (hfound ▸ h)
        exact absurd (htp1.symm.trans ht) (by simp)
    have hnone : ¬∃ t ∈ resistancesAbove entryPrice srLevels, entryPrice + risk ≤ t := by
      rintro ⟨t, ht, hle⟩
      have hfalse := List.find?_eq_none.1 (hfst.symm.trans htp1) t ((hmem t).2 ht)
      exact hfalse (decide_eq_true hle)
    rw [htp2, or_iff_left hnone]
    simp only [Option.getD_none, atrMultiplierTpFallback]
    refine ⟨fun h ↦ ?_, fun h ↦ ?_⟩
    · linarith [h.1]
    · have hmax := le_max_left (entryPrice + atr * 3 * 2) (entryPrice + atr * 3 + risk)
      exact ⟨by linarith, le_guarded_tp2 hrisk (by linarith)⟩
  · have hreaches : entryPrice + risk ≤ t :=
      of_decide_eq_true (reachesTp1_of_pickTargets (hfound ▸ htp1))
    have hfar : ∃ t ∈ resistancesAbove entryPrice srLevels, entryPrice + risk ≤ t :=
      ⟨t, (hmem t).1 (List.mem_of_find?_eq_some (hfst.symm.trans htp1)), hreaches⟩
    refine iff_of_true ⟨hreaches, ?_⟩ (.inr hfar)
    -- the second target is a level, its fallback or put beyond the first one
    rcases htp2 : found.2 with - | u
    · have hmax := le_max_right (entryPrice + atr * atrMultiplierTpFallback * 2) (t + risk)
      exact le_guarded_tp2 hrisk (by linarith : entryPrice + 2 * risk ≤ max _ (t + risk))
    · have hu : entryPrice + risk * 2 ≤ u := of_decide_eq_true (pickTargets_snd (hfound ▸ htp2)).2
      exact le_guarded_tp2 hrisk (by linarith : entryPrice + 2 * risk ≤ u)

/-- The risk of a long trade is covered by a target, or by the fallback. -/
theorem riskIsCovered_long_iff (hatr : 0 < atr) :
    RiskIsCovered entryPrice .long srLevels atr ↔
      entryPrice - calculateSl entryPrice .long srLevels atr ≤ 3 * atr ∨
      ∃ t ∈ resistancesAbove entryPrice srLevels,
        entryPrice + (entryPrice - calculateSl entryPrice .long srLevels atr) ≤ t := by
  rw [RiskIsCovered, adverseLevels, targetLevels, calculateSl]
  rcases hmax : (supportsBelow entryPrice srLevels).max? with - | nearest
  · have hfallback : entryPrice - (entryPrice - atr * atrMultiplierSl) ≤ 3 * atr := by
      show entryPrice - (entryPrice - atr * 1.5) ≤ 3 * atr
      linarith
    exact iff_of_true (.inl (List.max?_eq_none_iff.1 hmax)) (.inl hfallback)
  · obtain ⟨hmem, hle⟩ := List.max?_eq_some_iff.1 hmax
    have hne : supportsBelow entryPrice srLevels ≠ [] := List.ne_nil_of_mem hmem
    have hdist {p : ℚ} (hp : p ∈ supportsBelow entryPrice srLevels) :
        |entryPrice - p| = entryPrice - p :=
      abs_of_pos (sub_pos.2 (lt_of_mem_supportsBelow hp))
    have hgain {t : ℚ} (ht : t ∈ resistancesAbove entryPrice srLevels) :
        |t - entryPrice| = t - entryPrice :=
      abs_of_pos (sub_pos.2 (lt_of_mem_resistancesAbove ht))
    rw [or_iff_right hne]
    dsimp only
    -- the nearest support is the one that counts
    constructor
    · rintro (⟨p, hp, hnear⟩ | ⟨p, hp, t, ht, hfar⟩)
      · left
        rw [hdist hp] at hnear
        linarith [hle p hp]
      · right
        rw [hdist hp, hgain ht] at hfar
        exact ⟨t, ht, by linarith [hle p hp]⟩
    · rintro (hnear | ⟨t, ht, hfar⟩)
      · left
        refine ⟨nearest, hmem, ?_⟩
        rw [hdist hmem]
        linarith
      · right
        refine ⟨nearest, hmem, t, ht, ?_⟩
        rw [hdist hmem, hgain ht]
        linarith

theorem meetsRiskReward_long_iff (hatr : 0 < atr) :
    (exactSlTp entryPrice .long srLevels atr).MeetsRiskReward entryPrice ↔
      RiskIsCovered entryPrice .long srLevels atr := by
  have horder := @longOrder_exactSlTp entryPrice atr srLevels hatr
  have hrisk : |entryPrice - calculateSl entryPrice .long srLevels atr| =
      entryPrice - calculateSl entryPrice .long srLevels atr :=
    abs_of_pos (sub_pos.2 horder.stopLoss_lt)
  have hbounds := @calculateTp_long_bounds_iff entryPrice atr
    (entryPrice - calculateSl entryPrice .long srLevels atr) srLevels
    (sub_pos.2 horder.stopLoss_lt)
  rw [riskIsCovered_long_iff hatr, ← hbounds]
  have htp1 := horder.lt_tp1
  have htp2 := htp1.trans horder.tp1_lt
  simp only [exactSlTp, hrisk] at htp1 htp2 ⊢
  constructor
  · rintro ⟨h1, h2⟩
    rw [hrisk, abs_of_pos (sub_pos.2 htp1)] at h1
    rw [hrisk, abs_of_pos (sub_pos.2 htp2)] at h2
    exact ⟨by linarith, by linarith⟩
  · rintro ⟨h1, h2⟩
    refine ⟨?_, ?_⟩
    · rw [hrisk, abs_of_pos (sub_pos.2 htp1)]
      linarith
    · rw [hrisk, abs_of_pos (sub_pos.2 htp2)]
      linarith

end Long

/-! ### The short side -/

section Short

variable {entryPrice atr : ℚ} {srLevels : List SrLevel}

theorem meetsRiskReward_mirror (centre : ℚ) (levels : SlTp) :
    (levels.mirror centre).MeetsRiskReward (centre - entryPrice) ↔
      levels.MeetsRiskReward entryPrice := by
  constructor
  · rintro ⟨h1, h2⟩
    simp only [SlTp.mirror, abs_mirror_sub] at h1 h2
    exact ⟨h1, h2⟩
  · rintro ⟨h1, h2⟩
    refine ⟨?_, ?_⟩ <;> simpa only [SlTp.mirror, abs_mirror_sub]

theorem riskIsCovered_mirror (centre : ℚ) :
    RiskIsCovered (centre - entryPrice) .long (srLevels.map (SrLevel.mirror centre)) atr ↔
      RiskIsCovered entryPrice .short srLevels atr := by
  simp only [RiskIsCovered, adverseLevels, targetLevels, supportsBelow_mirror,
    resistancesAbove_mirror, List.map_eq_nil_iff, List.mem_map,
    exists_exists_and_eq_and, abs_mirror_sub]

/-- **The documented bounds hold exactly where the risk is covered.** -/
theorem meetsRiskReward_iff {ohlcv : List OHLCVData} (hatr : 0 < calculateAtr ohlcv)
    (direction : Direction) (entryPrice : ℚ) (srLevels : List SrLevel) :
    (exactSlTp entryPrice direction srLevels (calculateAtr ohlcv)).MeetsRiskReward entryPrice ↔
      RiskIsCovered entryPrice direction srLevels (calculateAtr ohlcv) := by
  cases direction with
  | long => exact meetsRiskReward_long_iff hatr
  | short =>
    have hmirror := exactSlTp_short_mirror 0 (0 - entryPrice) (srLevels.map (SrLevel.mirror 0))
      (calculateAtr ohlcv)
    rw [map_mirror_mirror, sub_sub_cancel] at hmirror
    have hcentre := @meetsRiskReward_mirror (0 - entryPrice) 0
      (exactSlTp (0 - entryPrice) .long (srLevels.map (SrLevel.mirror 0)) (calculateAtr ohlcv))
    rw [sub_sub_cancel] at hcentre
    rw [hmirror, hcentre, meetsRiskReward_long_iff hatr, riskIsCovered_mirror]

/-- Two candles of average true range 2, a support ten below the entry and a resistance above. -/
theorem meetsRiskReward_iff_twoCandles :
    let ohlcv : List OHLCVData :=
      [⟨⟨0, none⟩, 100, 101, 99, 100, 0⟩, ⟨⟨3600000000, none⟩, 100, 101, 99, 100, 0⟩]
    let srLevels : List SrLevel := [(90, false), (112, true)]
    (exactSlTp 100 .long srLevels (calculateAtr ohlcv)).MeetsRiskReward 100 ↔
      RiskIsCovered 100 .long srLevels (calculateAtr ohlcv) := by
  intro ohlcv srLevels
  exact @meetsRiskReward_iff ohlcv (by decide +kernel) .long 100 srLevels

/-- Without the resistance the first target is three average true ranges away, the stop loss five
and a half. -/
theorem not_meetsRiskReward_distantSupport :
    let ohlcv : List OHLCVData :=
      [⟨⟨0, none⟩, 100, 101, 99, 100, 0⟩, ⟨⟨3600000000, none⟩, 100, 101, 99, 100, 0⟩]
    let srLevels : List SrLevel := [(90, false)]
    0 < calculateAtr ohlcv ∧
      exactSlTp 100 .long srLevels (calculateAtr ohlcv) = ⟨89, 106, 117⟩ ∧
      ¬(exactSlTp 100 .long srLevels (calculateAtr ohlcv)).MeetsRiskReward 100 := by
  intro ohlcv srLevels
  have hlevels : exactSlTp 100 .long srLevels (calculateAtr ohlcv) = ⟨89, 106, 117⟩ := by
    decide +kernel
  refine ⟨by decide +kernel, hlevels, fun h ↦ ?_⟩
  have htp1 := h.tp1
  rw [hlevels] at htp1
  norm_num at htp1

end Short

end InvestmentAssistant
