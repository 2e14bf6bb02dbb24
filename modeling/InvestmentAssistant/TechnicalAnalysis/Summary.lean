import InvestmentAssistant.Core.Mirror

/-!
# The signal summary

`calculateSummaries` tallies the moving-average and the indicator signals into buy, sell and
neutral, and rates each group and both together by the share of buys, then of sells.

The buy branches are tried before the sell branches, so the verdict is symmetric only because the
two can never both apply: within a total, a buy share of 55% leaves less than 55% for sells
(`overallSignal_mirror`). With that, the mirror image of a market has the mirrored summary
(`calculateSummaries_mirror`).
-/

namespace InvestmentAssistant

/-- The running counts of one group of signals. -/
structure Tally where
  buy : ℕ := 0
  sell : ℕ := 0
  neutral : ℕ := 0
  deriving DecidableEq, Repr

namespace Tally

/-- The number of signals counted. -/
def total (c : Tally) : ℕ :=
  c.buy + c.sell + c.neutral

/-- Swap the buys and the sells. -/
def mirror (c : Tally) : Tally :=
  ⟨c.sell, c.buy, c.neutral⟩

@[simp] theorem mirror_total (c : Tally) : c.mirror.total = c.total := by
  simp only [total, mirror]
  omega

end Tally

/-- `_tally`: count one signal. -/
def tally (signal : SignalType) (c : Tally) : Tally :=
  if signal = .buy ∨ signal = .strongBuy then { c with buy := c.buy + 1 }
  else if signal = .sell ∨ signal = .strongSell then { c with sell := c.sell + 1 }
  else { c with neutral := c.neutral + 1 }

/-- `_overall_signal`: the verdict on a group of `total` signals. -/
def overallSignal (buy sell total : ℕ) : SignalType :=
  if total = 0 then .neutral
  else
    let buyPct : ℚ := buy / total
    let sellPct : ℚ := sell / total
    if 0.75 ≤ buyPct then .strongBuy
    else if 0.55 ≤ buyPct then .buy
    else if 0.75 ≤ sellPct then .strongSell
    else if 0.55 ≤ sellPct then .sell
    else .neutral

/-- Both signals of every moving average, tallied. -/
def tallyMovingAverages (movingAverages : List MovingAverage) : Tally :=
  movingAverages.foldl (fun c ma ↦ tally ma.emaSignal (tally ma.smaSignal c)) {}

/-- The signals of the indicators, tallied. -/
def tallyIndicators (indicators : List IndicatorValue) : Tally :=
  indicators.foldl (fun c ind ↦ tally ind.signal c) {}

/-- `calculate_summaries`. -/
def calculateSummaries (indicators : List IndicatorValue)
    (movingAverages : List MovingAverage) : SignalSummary :=
  let ma := tallyMovingAverages movingAverages
  let ind := tallyIndicators indicators
  let all : Tally := ⟨ma.buy + ind.buy, ma.sell + ind.sell, ma.neutral + ind.neutral⟩
  { maSummary := overallSignal ma.buy ma.sell ma.total
    maBuyCount := ma.buy
    maSellCount := ma.sell
    maNeutralCount := ma.neutral
    indicatorsSummary := overallSignal ind.buy ind.sell ind.total
    indicatorsBuyCount := ind.buy
    indicatorsSellCount := ind.sell
    indicatorsNeutralCount := ind.neutral
    overallSummary := overallSignal all.buy all.sell all.total
    overallBuyCount := all.buy
    overallSellCount := all.sell
    overallNeutralCount := all.neutral }

/-! ### Mirror symmetry -/

theorem tally_mirror (signal : SignalType) (c : Tally) :
    tally signal.mirror c.mirror = (tally signal c).mirror := by
  cases signal <;> rfl

theorem tallyMovingAverages_mirror (movingAverages : List MovingAverage) :
    tallyMovingAverages (movingAverages.map .mirror) =
      (tallyMovingAverages movingAverages).mirror := by
  rw [tallyMovingAverages, tallyMovingAverages, List.foldl_map]
  change List.foldl _ (Tally.mirror {}) movingAverages = _
  refine List.foldl_hom Tally.mirror fun c ma ↦ ?_
  rw [MovingAverage.mirror_emaSignal, MovingAverage.mirror_smaSignal, tally_mirror, tally_mirror]

theorem tallyIndicators_mirror (indicators : List IndicatorValue) :
    tallyIndicators (indicators.map .mirror) = (tallyIndicators indicators).mirror := by
  rw [tallyIndicators, tallyIndicators, List.foldl_map]
  change List.foldl _ (Tally.mirror {}) indicators = _
  exact List.foldl_hom Tally.mirror fun c ind ↦ tally_mirror ind.signal c

/-- **The verdict is symmetric.** The order of the branches does not matter: buys and sells share
one total, so at most one side reaches 55%. -/
theorem overallSignal_mirror {buy sell total : ℕ} (h : buy + sell ≤ total) :
    overallSignal sell buy total = (overallSignal buy sell total).mirror := by
  unfold overallSignal
  split_ifs with h0
  · rfl
  have hpos : (0 : ℚ) < total := by exact_mod_cast Nat.pos_of_ne_zero h0
  -- the two shares together are at most one
  have hshare : (buy : ℚ) / total + sell / total ≤ 1 := by
    rw [← add_div, div_le_one hpos]
    exact_mod_cast h
  dsimp only
  split_ifs <;> first | rfl | (exfalso; linarith)

theorem Tally.overallSignal_mirror (c : Tally) :
    overallSignal c.mirror.buy c.mirror.sell c.mirror.total =
      (overallSignal c.buy c.sell c.total).mirror := by
  rw [Tally.mirror_total]
  have hle : c.buy + c.sell ≤ c.total := Nat.le_add_right _ _
  exact InvestmentAssistant.overallSignal_mirror hle

/-- **The summary of the mirror image** is the mirror image of the summary. -/
theorem calculateSummaries_mirror (indicators : List IndicatorValue)
    (movingAverages : List MovingAverage) :
    calculateSummaries (indicators.map .mirror) (movingAverages.map .mirror) =
      (calculateSummaries indicators movingAverages).mirror := by
  simp only [calculateSummaries, SignalSummary.mirror, tallyMovingAverages_mirror,
    tallyIndicators_mirror, Tally.overallSignal_mirror, SignalSummary.mk.injEq, true_and]
  set ma := tallyMovingAverages movingAverages
  set ind := tallyIndicators indicators
  exact ⟨rfl, rfl, rfl, rfl, rfl, rfl,
    Tally.overallSignal_mirror ⟨ma.buy + ind.buy, ma.sell + ind.sell, ma.neutral + ind.neutral⟩,
    rfl, rfl, rfl⟩

end InvestmentAssistant
