import InvestmentAssistant.StrategyGenerator.ReportBuilder

/-!
# The filter on the risk/reward ratio

A report keeps a strategy when its ratio, as it is reported, is at most one, or when it has none.
The reported ratio has two decimals, so in exact arithmetic the risk may exceed the reward by half a
hundredth of it; and a reward that is next to nothing gives no ratio at all. `build_report_filter`
says which strategies are kept, by the reported ratio and by the levels, and that a report gives a
reason exactly when it has no strategy.
-/

namespace InvestmentAssistant

open Decimal

/-- A ratio is reported as at most one up to half a hundredth more; the tie goes to the even one. -/
theorem roundTo_two_le_one_iff {x : ℚ} : roundTo 2 x ≤ 1 ↔ x ≤ 1.005 := by
  constructor
  · intro h
    by_contra! hlt
    have habove := (abs_le.1 (abs_roundHalfEven_sub_le (x * 10 ^ 2))).1
    rw [← roundTo_mul_pow] at habove
    norm_num at hlt habove
    linarith
  · intro h
    have htie : roundTo 2 1.005 = 1 := by decide +kernel
    exact (roundTo_mono 2 h).trans_eq htie

namespace StrategyFields

/-- The levels of a strategy as a report gives them, with the entry first. -/
structure HasLevels (s : StrategyFields) (entryPrice stopLoss tp1 : ℚ) : Prop where
  entryPrice : s.entryPrice = some entryPrice
  stopLoss : s.stopLoss = some stopLoss
  tp1 : s.tp1 = some tp1

/-- What lets a strategy through: no ratio, or one that is reported as at most one. -/
def RatioAtMostOne (s : StrategyFields) : Prop :=
  ∀ ratio, s.riskRewardRatio = some ratio → ratio ≤ 1

/-- The same by the levels, in exact arithmetic: no reward to speak of and no ratio, or a ratio of
at most one to two decimals. -/
def PassesFilter (s : StrategyFields) : Prop :=
  ∃ entryPrice stopLoss tp1, s.HasLevels entryPrice stopLoss tp1 ∧
    (|tp1 - entryPrice| < rewardEpsilon ∧ s.riskRewardRatio = none ∨
      rewardEpsilon ≤ |tp1 - entryPrice| ∧
        |entryPrice - stopLoss| ≤ 1.005 * |tp1 - entryPrice| ∧
        s.riskRewardRatio = some (roundTo 2 (|entryPrice - stopLoss| / |tp1 - entryPrice|)))

end StrategyFields

/-- A kept ratio is a missing one or one of at most one. -/
theorem mem_favourableStrategies {built : List StrategyEntry} {s : StrategyEntry} (hs : s ∈ built) :
    s ∈ favourableStrategies built ↔ s.RatioAtMostOne := by
  rw [favourableStrategies, List.mem_filter, and_iff_right hs, StrategyFields.RatioAtMostOne]
  cases s.riskRewardRatio with
  | none => simp
  | some ratio => simp

/-- The ratio of three known levels. -/
theorem calculateRiskReward_all_iff (entryPrice stopLoss tp1 : ℚ) :
    ((calculateRiskReward (some entryPrice) (some stopLoss) (some tp1)).all fun ratio ↦
      decide (ratio ≤ 1)) = true ↔
    |tp1 - entryPrice| < rewardEpsilon ∨
      rewardEpsilon ≤ |tp1 - entryPrice| ∧
        |entryPrice - stopLoss| ≤ 1.005 * |tp1 - entryPrice| := by
  simp only [calculateRiskReward]
  split
  · next hsmall => exact iff_of_true rfl (.inl hsmall)
  · next hlarge =>
    have hreward : rewardEpsilon ≤ |tp1 - entryPrice| := not_lt.1 hlarge
    have hpos : 0 < |tp1 - entryPrice| :=
      lt_of_lt_of_le (by rw [rewardEpsilon]; norm_num) hreward
    rw [Option.all_some, decide_eq_true_iff, roundTo_two_le_one_iff, div_le_iff₀ hpos]
    exact ⟨fun h ↦ .inr ⟨hreward, h⟩, fun h ↦ (h.resolve_left hlarge).2⟩

namespace StrategyInputs

variable {inputs : StrategyInputs} {direction : Direction}

/-- Every strategy that is built has its levels, and the ratio computed from them. -/
theorem hasLevels_of_mem_buildStrategies {built : List StrategyEntry}
    (h : inputs.buildStrategies direction = .ok built) {s : StrategyEntry} (hs : s ∈ built) :
    ∃ entryPrice stopLoss tp1, s.HasLevels entryPrice stopLoss tp1 ∧
      s.riskRewardRatio = calculateRiskReward (some entryPrice) (some stopLoss) (some tp1) := by
  obtain ⟨entry, -, hentry⟩ := exists_mem_of_forall₂ (mapM_eq_ok_iff.1 h) hs
  rw [StrategyFields.validate] at hentry
  split at hentry
  · obtain rfl := Except.ok.inj hentry
    exact ⟨_, _, _, ⟨rfl, rfl, rfl⟩, rfl⟩
  · cases hentry

/-- The filter keeps what passes it. -/
theorem mem_favourableStrategies_iff {built : List StrategyEntry}
    (h : inputs.buildStrategies direction = .ok built) {s : StrategyEntry} (hs : s ∈ built) :
    s ∈ favourableStrategies built ↔ s.PassesFilter := by
  obtain ⟨entryPrice, stopLoss, tp1, hlevels, hratio⟩ := hasLevels_of_mem_buildStrategies h hs
  rw [favourableStrategies, List.mem_filter, and_iff_right hs, hratio, calculateRiskReward_all_iff]
  constructor
  · rintro (hsmall | ⟨hreward, hrisk⟩)
    · refine ⟨entryPrice, stopLoss, tp1, hlevels, .inl ⟨hsmall, ?_⟩⟩
      rw [hratio]
      exact if_pos hsmall
    · refine ⟨entryPrice, stopLoss, tp1, hlevels, .inr ⟨hreward, hrisk, ?_⟩⟩
      rw [hratio]
      exact if_neg hreward.not_gt
  · rintro ⟨entryPrice', stopLoss', tp1', hlevels', h⟩
    obtain rfl := Option.some.inj (hlevels.entryPrice.symm.trans hlevels'.entryPrice)
    obtain rfl := Option.some.inj (hlevels.stopLoss.symm.trans hlevels'.stopLoss)
    obtain rfl := Option.some.inj (hlevels.tp1.symm.trans hlevels'.tp1)
    rcases h with ⟨hsmall, -⟩ | ⟨hreward, hrisk, -⟩
    · exact .inl hsmall
    · exact .inr ⟨hreward, hrisk⟩

end StrategyInputs

/-- **The strategies of a report, and its reason.** Of the strategies that are built for a direction
the report keeps, in their order, exactly those whose reported ratio is missing or at most one,
which are those that pass the filter by their levels; and it gives a reason if and only if it has no
strategy. -/
theorem build_report_filter (now : DateTime) (symbol : String) (timeframe : Timeframe)
    (inputs : StrategyInputs) (movingAverages : List MovingAverage) (pivotPoints : List PivotPoints)
    (timeframeContext : Option AnalysisTimeframeContext)
    (patternScannerResults : List PatternScannerResult) (longTermTrend : Option LongTermTrend)
    (direction : Option Direction) (instrumentType : Option InstrumentType) :
    ∃ report, buildReport now symbol timeframe inputs movingAverages pivotPoints timeframeContext
        patternScannerResults longTermTrend direction instrumentType = .ok report ∧
      (∀ side, direction = some side → ∃ built, inputs.buildStrategies side = .ok built ∧
        report.strategies.Sublist built ∧
        (∀ s ∈ built, s ∈ report.strategies ↔ s.RatioAtMostOne) ∧
        ∀ s ∈ built, s ∈ report.strategies ↔ s.PassesFilter) ∧
      (report.strategySkipReason.isSome ↔ report.strategies = []) := by
  cases direction with
  | none => exact ⟨_, rfl, fun side h ↦ (nomatch h), iff_of_true rfl rfl⟩
  | some direction =>
    obtain ⟨built, hbuilt⟩ : ∃ s, inputs.buildStrategies direction = .ok s :=
      exists_mapM_eq_ok fun entry _ ↦ inputs.exists_validate_strategy direction entry
    rw [buildReport, strategiesAndReason, hbuilt]
    refine ⟨_, rfl, fun side hside ↦ ?_, ?_⟩
    · obtain rfl := Option.some.inj hside
      exact ⟨built, hbuilt, List.filter_sublist, fun s hs ↦ mem_favourableStrategies hs,
        fun s hs ↦ StrategyInputs.mem_favourableStrategies_iff hbuilt hs⟩
    · dsimp only
      split
      · next hempty => exact iff_of_true rfl hempty
      · next hkept => exact iff_of_false Bool.false_ne_true hkept

/-- The report of a long analysis of candles and patterns, without anything else. -/
def plainReport (ohlcv : List OHLCVData) (patterns : List PatternDetection) :
    Except PyException AnalysisReport :=
  buildReport ⟨0, none⟩ "EURUSD" .h1 ⟨ohlcv, [], none, patterns, none⟩ [] [] none [] none
    (some .long) none

/-- The levels and the ratio of the first strategy of a report. -/
def firstLevels (report : Except PyException AnalysisReport) :
    Option (Option ℚ × Option ℚ × Option ℚ × Option ℚ) :=
  report.toOption.bind fun report ↦ report.strategies.head?.map fun s ↦
    (s.entryPrice, s.stopLoss, s.tp1, s.riskRewardRatio)

/-- **Two strategies that are kept.** Behind a support at 974.88 the risk of a trade at 1000 is
30.12, its reward 30. Where the market did not move at all, there is no reward. -/
theorem build_report_keeps_unfavourable :
    let candle (high low : ℚ) : OHLCVData := ⟨⟨0, none⟩, 1000, high, low, 1000, 0⟩
    let support : PatternDetection :=
      { patternType := "S/R Level (support)"
        confidence := 1
        description := "Support at 974.88 (2 touches, 2.5% from current price)"
        bullish := true
        category := .supportResistance
        confidence_inUnit := inUnit_one
        relevanceScore_inUnit := inUnit_zero }
    firstLevels (plainReport [candle 1005 995, candle 1005 995] [support]) =
        some (some 1000, some 969.88, some 1030, some 1) ∧
      ¬|(1000 : ℚ) - 969.88| ≤ |(1030 : ℚ) - 1000| ∧
      firstLevels (plainReport [candle 1000 1000, candle 1000 1000] []) =
        some (some 1000, some 1000, some 1000, none) ∧
      ¬|(1000 : ℚ) - 1000| ≠ 0 := by
  intro candle support
  refine ⟨by decide +kernel, by norm_num, by decide +kernel, by norm_num⟩

end InvestmentAssistant
