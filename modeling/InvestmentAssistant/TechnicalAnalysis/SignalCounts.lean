import Mathlib.Data.List.Count
import InvestmentAssistant.SignalAggregation.Aggregator
import InvestmentAssistant.TechnicalAnalysis.Summary

/-!
# Counting signals

Two numbers are drawn from the signals of an analysis: the summary rates the shares of buys and
sells, and the aggregator averages the scores when there is no summary. Both depend on the signals
only through how often each type occurs: the summary through the buys and the sells
(`overallSummary_calculateSummaries`), the average through their `balance`, in which a strong signal
counts twice (`sum_signalScore`).

So rating and average agree when the balance is what the rating stands for
(`rating_eq_average_iff`).
-/

namespace InvestmentAssistant

/-- The signals of the indicators and both signals of each moving average. -/
def taSignals (indicators : List IndicatorValue) (movingAverages : List MovingAverage) :
    List SignalType :=
  indicators.map (·.signal) ++ movingAverages.flatMap fun ma ↦ [ma.smaSignal, ma.emaSignal]

/-- The buys, strong or not. -/
def buys (signals : List SignalType) : ℕ :=
  signals.count .buy + signals.count .strongBuy

/-- The sells, strong or not. -/
def sells (signals : List SignalType) : ℕ :=
  signals.count .sell + signals.count .strongSell

/-- Buys less sells, with strong signals counted twice. -/
def balance (signals : List SignalType) : ℤ :=
  2 * signals.count .strongBuy + signals.count .buy - signals.count .sell -
    2 * signals.count .strongSell

/-- The rating of the buys and sells is their average. -/
def RatedAsAveraged (signals : List SignalType) : Prop :=
  if 75 * signals.length ≤ 100 * buys signals then ∀ s ∈ signals, s = .strongBuy
  else if 55 * signals.length ≤ 100 * buys signals then balance signals = signals.length
  else if 75 * signals.length ≤ 100 * sells signals then ∀ s ∈ signals, s = .strongSell
  else if 55 * signals.length ≤ 100 * sells signals then balance signals = -signals.length
  else balance signals = 0

instance (signals : List SignalType) : Decidable (RatedAsAveraged signals) := by
  unfold RatedAsAveraged
  infer_instance

variable {signals : List SignalType}

/-! ### Counts -/

/-- Every signal is of one of the five types. -/
theorem length_eq_sum_count (signals : List SignalType) :
    signals.length = signals.count .buy + signals.count .strongBuy +
      (signals.count .sell + signals.count .strongSell) + signals.count .neutral := by
  induction signals with
  | nil => rfl
  | cons s signals ih => cases s <;> simp [ih] <;> omega

theorem length_eq_counts (signals : List SignalType) :
    signals.length = buys signals + sells signals + signals.count .neutral :=
  length_eq_sum_count signals

/-- All signals are of one type. -/
theorem count_eq_length_iff {s : SignalType} :
    signals.count s = signals.length ↔ ∀ t ∈ signals, t = s := by
  rw [List.count_eq_length]
  exact forall₂_congr fun t _ ↦ eq_comm

/-- The running counts are the counts. -/
theorem foldl_tally (signals : List SignalType) :
    signals.foldl (fun c s ↦ tally s c) {} =
      { buy := buys signals, sell := sells signals, neutral := signals.count .neutral } := by
  simp only [buys, sells]
  induction signals using List.reverseRecOn with
  | nil => rfl
  | append_singleton signals s ih =>
    rw [List.foldl_concat, ih]
    cases s <;> simp [tally, List.count_append] <;> omega

theorem tallyIndicators_eq (indicators : List IndicatorValue) :
    tallyIndicators indicators =
      (indicators.map (·.signal)).foldl (fun c s ↦ tally s c) {} := by
  rw [List.foldl_map]
  rfl

theorem tallyMovingAverages_eq (movingAverages : List MovingAverage) :
    tallyMovingAverages movingAverages =
      (movingAverages.flatMap fun ma ↦ [ma.smaSignal, ma.emaSignal]).foldl (fun c s ↦ tally s c)
        {} := by
  rw [List.foldl_flatMap]
  rfl

/-- The overall summary rates all signals together. -/
theorem overallSummary_calculateSummaries (indicators : List IndicatorValue)
    (movingAverages : List MovingAverage) :
    (calculateSummaries indicators movingAverages).overallSummary =
      overallSignal (buys (taSignals indicators movingAverages))
        (sells (taSignals indicators movingAverages))
        (taSignals indicators movingAverages).length := by
  rw [length_eq_counts]
  simp only [calculateSummaries, Tally.total, tallyIndicators_eq, tallyMovingAverages_eq,
    foldl_tally,
    taSignals, buys, sells, List.count_append]
  congr 1 <;> omega

/-! ### Scores -/

/-- Twice the sum of the scores is the balance. -/
theorem sum_signalScore (signals : List SignalType) :
    (signals.map signalScore).sum * 2 = balance signals := by
  unfold balance
  induction signals with
  | nil => simp
  | cons s signals ih =>
    rw [List.map_cons, List.sum_cons, add_mul, ih]
    cases s <;> simp [signalScore] <;> ring

theorem taScores_eq (a : SignalAggregator) :
    a.taScores = (taSignals a.indicators a.movingAverages).map signalScore := by
  rw [SignalAggregator.taScores, taSignals, List.map_append, List.map_map, List.map_flatMap]
  rfl

/-- The balance is at most twice the number of signals, either way. -/
theorem abs_balance_le (signals : List SignalType) : |balance signals| ≤ 2 * signals.length := by
  have hlength := length_eq_sum_count signals
  rw [balance, abs_le]
  omega

/-- Only strong buys have the greatest balance. -/
theorem balance_eq_two_mul_iff :
    balance signals = 2 * signals.length ↔ ∀ s ∈ signals, s = .strongBuy := by
  have hlength := length_eq_sum_count signals
  rw [← count_eq_length_iff, balance]
  omega

/-- Only strong sells have the least balance. -/
theorem balance_eq_neg_two_mul_iff :
    balance signals = -(2 * signals.length) ↔ ∀ s ∈ signals, s = .strongSell := by
  have hlength := length_eq_sum_count signals
  rw [← count_eq_length_iff, balance]
  omega

/-- The average of the scores, `0` when there are none. -/
def averageScore (signals : List SignalType) : ℚ :=
  if signals = [] then 0 else (signals.map signalScore).sum / signals.length

/-- The average, as the balance of a number of signals. -/
theorem averageScore_mul (signals : List SignalType) :
    averageScore signals * (2 * signals.length) = balance signals := by
  unfold averageScore
  split
  · next h =>
    simp [h, balance]
  · next h =>
    have hne : (signals.length : ℚ) ≠ 0 := by
      exact_mod_cast (List.length_pos_of_ne_nil h).ne'
    rw [← sum_signalScore]
    field_simp

/-- The average lies within the scale. -/
theorem abs_averageScore_le (signals : List SignalType) : |averageScore signals| ≤ 1 := by
  rcases signals.eq_nil_or_concat with rfl | ⟨init, s, hconcat⟩
  · simp [averageScore]
  have hpos : (0 : ℚ) < 2 * signals.length := by
    have h : 0 < signals.length := by simp [hconcat]
    exact_mod_cast Nat.mul_pos two_pos h
  have hbalance : (|balance signals| : ℚ) ≤ 2 * signals.length := by
    exact_mod_cast abs_balance_le signals
  rw [← averageScore_mul, abs_mul, abs_of_pos hpos] at hbalance
  exact le_of_mul_le_mul_right (by rwa [one_mul]) hpos

/-- Without a summary, the technical signal is the average. -/
theorem normalizeTaSignal_of_no_summary {a : SignalAggregator} (h : a.signalSummary = none) :
    a.normalizeTaSignal = averageScore (taSignals a.indicators a.movingAverages) := by
  rw [SignalAggregator.normalizeTaSignal, h]
  simp only [taScores_eq, averageScore, List.map_eq_nil_iff, List.length_map]

/-- A share of at least `p` per cent, in whole numbers. -/
theorem share_le_iff {p k n : ℕ} (hn : 0 < n) : (p : ℚ) / 100 ≤ (k : ℚ) / n ↔ p * n ≤ 100 * k := by
  have hpos : (0 : ℚ) < n := by exact_mod_cast hn
  rw [div_le_div_iff₀ (by norm_num) hpos, mul_comm (k : ℚ)]
  exact_mod_cast Iff.rfl

/-- **The rating is the average** exactly when the balance is what the rating stands for. -/
theorem rating_eq_average_iff (signals : List SignalType) :
    averageScore signals =
        signalScore (overallSignal (buys signals) (sells signals) signals.length) ↔
      RatedAsAveraged signals := by
  rcases signals.eq_nil_or_concat with rfl | ⟨init, s, hconcat⟩
  · decide +kernel
  have hn : 0 < signals.length := by simp [hconcat]
  have hpos : (0 : ℚ) < 2 * signals.length := by exact_mod_cast Nat.mul_pos two_pos hn
  -- an average is decided by the balance
  have haverage (x : ℚ) (b : ℤ) (hx : x * (2 * signals.length) = b) :
      averageScore signals = x ↔ balance signals = b := by
    rw [← mul_left_inj' hpos.ne', averageScore_mul, hx]
    exact_mod_cast Iff.rfl
  have h75 (k : ℕ) : (0.75 : ℚ) ≤ (k : ℚ) / signals.length ↔ 75 * signals.length ≤ 100 * k := by
    rw [← share_le_iff hn]
    norm_num
  have h55 (k : ℕ) : (0.55 : ℚ) ≤ (k : ℚ) / signals.length ↔ 55 * signals.length ≤ 100 * k := by
    rw [← share_le_iff hn]
    norm_num
  rw [overallSignal, if_neg hn.ne', RatedAsAveraged]
  dsimp only
  simp only [h75, h55]
  split
  · rw [← balance_eq_two_mul_iff]
    exact haverage _ _ (by push_cast [signalScore]; ring)
  split
  · exact haverage _ _ (by push_cast [signalScore]; ring)
  split
  · rw [← balance_eq_neg_two_mul_iff]
    exact haverage _ _ (by push_cast [signalScore]; ring)
  split
  · exact haverage _ _ (by push_cast [signalScore]; ring)
  · exact haverage _ _ (by push_cast [signalScore]; ring)

end InvestmentAssistant
