import InvestmentAssistant.Core.Models

/-!
# The mirror image of a market

Turning a market upside down swaps buying and selling everywhere and keeps how strong a signal is.
Each data model has its `mirror`; what carries no side — a name, a value, a period, a confidence —
is unchanged. In particular an ADX value is its own mirror image. Prices are reflected in half a
`centre`, so that what was below the market is above it.
-/

namespace InvestmentAssistant

/-- Swap buy and sell, keep the strength. -/
def SignalType.mirror : SignalType → SignalType
  | .strongSell => .strongBuy
  | .sell => .buy
  | .neutral => .neutral
  | .buy => .sell
  | .strongBuy => .strongSell

/-- The other side of the trade. -/
def Direction.opposite : Direction → Direction
  | .long => .short
  | .short => .long

theorem Direction.eq_opposite_of_ne {d e : Direction} (h : e ≠ d) : e = d.opposite := by
  cases d <;> cases e <;> first | rfl | exact absurd rfl h

/-- An indicator keeps its name and value. -/
def IndicatorValue.mirror (i : IndicatorValue) : IndicatorValue :=
  { i with signal := i.signal.mirror }

/-- A moving average keeps its period and values. -/
def MovingAverage.mirror (m : MovingAverage) : MovingAverage :=
  { m with smaSignal := m.smaSignal.mirror, emaSignal := m.emaSignal.mirror }

/-- A pattern changes its side only. -/
def PatternDetection.mirror (p : PatternDetection) : PatternDetection :=
  { p with bullish := !p.bullish }

/-- A fundamental score changes its sign, within the same bounds. -/
def FundamentalData.mirror (f : FundamentalData) : FundamentalData :=
  { f with
    score := -f.score
    score_mem := ⟨neg_le_neg f.score_mem.2, neg_le.1 f.score_mem.1⟩ }

/-- A candle with its prices reflected; its high is where its low was. -/
def OHLCVData.mirror (centre : ℚ) (c : OHLCVData) : OHLCVData :=
  { c with
    open_ := centre - c.open_
    high := centre - c.low
    low := centre - c.high
    close := centre - c.close }

/-- A summary swaps its buy and sell counts and mirrors its three verdicts. -/
def SignalSummary.mirror (s : SignalSummary) : SignalSummary where
  maSummary := s.maSummary.mirror
  maBuyCount := s.maSellCount
  maSellCount := s.maBuyCount
  maNeutralCount := s.maNeutralCount
  indicatorsSummary := s.indicatorsSummary.mirror
  indicatorsBuyCount := s.indicatorsSellCount
  indicatorsSellCount := s.indicatorsBuyCount
  indicatorsNeutralCount := s.indicatorsNeutralCount
  overallSummary := s.overallSummary.mirror
  overallBuyCount := s.overallSellCount
  overallSellCount := s.overallBuyCount
  overallNeutralCount := s.overallNeutralCount

@[simp] theorem IndicatorValue.mirror_value (i : IndicatorValue) : i.mirror.value = i.value := rfl

@[simp] theorem MovingAverage.mirror_smaSignal (m : MovingAverage) :
    m.mirror.smaSignal = m.smaSignal.mirror := rfl

@[simp] theorem MovingAverage.mirror_emaSignal (m : MovingAverage) :
    m.mirror.emaSignal = m.emaSignal.mirror := rfl

@[simp] theorem PatternDetection.mirror_bullish (p : PatternDetection) :
    p.mirror.bullish = !p.bullish := rfl

@[simp] theorem PatternDetection.mirror_reliability (p : PatternDetection) :
    p.mirror.reliability = p.reliability := rfl

@[simp] theorem FundamentalData.mirror_score (f : FundamentalData) :
    f.mirror.score = -f.score := rfl

end InvestmentAssistant
