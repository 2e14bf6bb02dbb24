import Mathlib.Algebra.Order.Ring.Rat
import Mathlib.Tactic
import InvestmentAssistant.Core.Errors

/-!
# The data models

The records the analysis exchanges, with the source's fields and defaults. Prices, scores and
confidences are exact rationals: a finite float is one, and nothing here depends on the rounding of
the individual operations.

Bounds that the source declares on a field are carried by the record (`PatternDetection`,
`FundamentalData`), so a value outside them cannot be built; where the source builds such a record
from a computed number, the model goes through `PatternFields.validate`, which fails as the declared
validation does.

A timestamp is a `DateTime`: a wall-clock reading together with its offset from UTC, when it has
one. The reading is what a time zone-less column stores; the instant is what the candle is about.
-/

namespace InvestmentAssistant

/-! ### Enumerations -/

/-- Direction and strength of a single technical signal. -/
inductive SignalType
  | strongSell
  | sell
  | neutral
  | buy
  | strongBuy
  deriving DecidableEq, Repr

/-- The time frames of the public interface. -/
inductive Timeframe
  | m15
  | h1
  | h4
  | d1
  deriving DecidableEq, Repr

/-- The instrument classes. -/
inductive InstrumentType
  | forex
  | commodity
  | index
  deriving DecidableEq, Repr

/-- The side of a trade. -/
inductive Direction
  | long
  | short
  deriving DecidableEq, Repr

/-- The detector family a pattern comes from. -/
inductive PatternCategory
  | candlestick
  | chartPattern
  | supportResistance
  | fibonacci
  | iki
  deriving DecidableEq, Repr

/-! ### Timestamps and candles -/

/-- A `datetime`: the wall-clock reading and the offset from UTC, both in microseconds; a naive
`datetime` has no offset. -/
structure DateTime where
  /-- The wall-clock reading. -/
  wall : ℤ
  /-- The offset of the reading from UTC. -/
  utcoffset : Option ℤ := none
  deriving DecidableEq, Repr

namespace DateTime

/-- `replace(tzinfo=None)`: the reading alone. -/
def naive (t : DateTime) : DateTime :=
  ⟨t.wall, none⟩

/-- The instant a reading denotes; a naive one is read as UTC. -/
def instant (t : DateTime) : ℤ :=
  t.wall - t.utcoffset.getD 0

@[simp] theorem naive_wall (t : DateTime) : t.naive.wall = t.wall := rfl

end DateTime

/-- One candle. -/
structure OHLCVData where
  timestamp : DateTime
  open_ : ℚ
  high : ℚ
  low : ℚ
  close : ℚ
  volume : ℚ := 0
  deriving DecidableEq, Repr

/-! ### Technical analysis -/

/-- One indicator with its signal. -/
structure IndicatorValue where
  name : String
  value : Option ℚ := none
  signal : SignalType := .neutral
  deriving DecidableEq, Repr

/-- The simple and exponential moving average of one period. -/
structure MovingAverage where
  period : ℤ
  smaValue : Option ℚ := none
  smaSignal : SignalType := .neutral
  emaValue : Option ℚ := none
  emaSignal : SignalType := .neutral
  deriving DecidableEq, Repr

/-- The counts and summaries of the indicator and moving-average signals. -/
structure SignalSummary where
  maSummary : SignalType := .neutral
  maBuyCount : ℕ := 0
  maSellCount : ℕ := 0
  maNeutralCount : ℕ := 0
  indicatorsSummary : SignalType := .neutral
  indicatorsBuyCount : ℕ := 0
  indicatorsSellCount : ℕ := 0
  indicatorsNeutralCount : ℕ := 0
  overallSummary : SignalType := .neutral
  overallBuyCount : ℕ := 0
  overallSellCount : ℕ := 0
  overallNeutralCount : ℕ := 0
  deriving DecidableEq, Repr

/-- The trend of the weekly candles. -/
structure LongTermTrend where
  signal : SignalType := .neutral
  summary : String := ""
  sourceLabel : String := "weekly"
  deriving DecidableEq, Repr

/-- The methods of calculating pivot points. -/
inductive PivotType
  | classic
  | fibonacci
  | camarilla
  | woodie
  | demark
  deriving DecidableEq, Repr

/-- The pivot point of one method and its supports and resistances. -/
structure PivotPoints where
  type : PivotType
  pp : Option ℚ := none
  s1 : Option ℚ := none
  s2 : Option ℚ := none
  s3 : Option ℚ := none
  r1 : Option ℚ := none
  r2 : Option ℚ := none
  r3 : Option ℚ := none
  deriving DecidableEq, Repr

/-! ### Patterns and fundamentals -/

/-- A number within `[0, 1]`, as confidences and relevance scores are declared. -/
def InUnit (q : ℚ) : Prop :=
  0 ≤ q ∧ q ≤ 1

instance (q : ℚ) : Decidable (InUnit q) :=
  inferInstanceAs (Decidable (_ ∧ _))

theorem inUnit_zero : InUnit 0 :=
  ⟨le_rfl, zero_le_one⟩

theorem inUnit_one : InUnit 1 :=
  ⟨zero_le_one, le_rfl⟩

/-- The fields of a detected pattern, with their defaults. -/
structure PatternFields where
  patternType : String
  confidence : ℚ
  description : String := ""
  location : String := ""
  bullish : Bool := true
  category : PatternCategory := .candlestick
  timeframe : Option Timeframe := none
  detectedAtIndex : Option ℤ := none
  detectedAtTimestamp : String := ""
  relevanceScore : ℚ := 0
  targetPrice : Option ℚ := none
  reliability : ℕ := 1
  deriving DecidableEq

/-- One detected pattern. The declared bounds on `confidence`, `relevance_score` and `reliability`
are part of the record. -/
structure PatternDetection extends PatternFields where
  /-- `confidence` is declared `ge=0, le=1`. -/
  confidence_inUnit : InUnit confidence
  /-- `relevance_score` is declared `ge=0, le=1`. -/
  relevanceScore_inUnit : InUnit relevanceScore := by decide +kernel
  /-- `reliability` is declared `ge=1, le=3`. -/
  reliability_mem : 1 ≤ reliability ∧ reliability ≤ 3 := by decide
  deriving DecidableEq

/-- `PatternDetection(...)`: a pattern is built when the declared bounds hold. -/
def PatternFields.validate (f : PatternFields) : Except PyException PatternDetection :=
  if h : InUnit f.confidence ∧ InUnit f.relevanceScore ∧ 1 ≤ f.reliability ∧ f.reliability ≤ 3 then
    .ok ⟨f, h.1, h.2.1, h.2.2⟩
  else .error .validationError

/-- A validated pattern has the fields it was built from. -/
theorem PatternFields.toPatternFields_of_validate {f : PatternFields} {p : PatternDetection}
    (h : f.validate = .ok p) : p.toPatternFields = f := by
  unfold PatternFields.validate at h
  split at h
  · cases h
    rfl
  · exact nomatch h

/-- A pattern found on several time frames. -/
structure PatternScannerResult where
  patternType : String
  category : PatternCategory := .candlestick
  bullish : Bool := true
  confidence : ℚ
  timeframes : List Timeframe := []
  representativePattern : PatternDetection
  /-- `confidence` is declared `ge=0, le=1`. -/
  confidence_inUnit : InUnit confidence
  deriving DecidableEq

/-- The multiplier of a reliability of one, two or three stars, `1.0` for any other. -/
def reliabilityMultiplier : ℕ → ℚ
  | 1 => 1
  | 2 => 13 / 10
  | 3 => 16 / 10
  | _ => 1

/-- The result of a fundamental analysis; the score is declared within `[-100, 100]`. -/
structure FundamentalData where
  instrumentType : InstrumentType
  score : ℚ := 0
  /-- `score` is declared `ge=-100, le=100`. -/
  score_mem : -100 ≤ score ∧ score ≤ 100 := by norm_num
  deriving DecidableEq

end InvestmentAssistant
