import InvestmentAssistant.Core.Mirror
import InvestmentAssistant.Foundation.ThresholdRules
import InvestmentAssistant.SignalAggregation.Aggregator

/-!
# The ratings of the indicators

`rateSignal` rates what an indicator reads, by the strategy that `signalRatingConfig` names for it:
bands of thresholds, the crossover of two lines, the direction of two movements, or no side at all.

Ten indicators are rated by bands. Each of them has a centre and a sense (`bandScales`): the rating
follows the reading, or it goes against it, and readings at equal distance from the centre have
opposite ratings (`rateSignal_bands`). The other ratings have no side of their own either: with the
lines, the movements or the sign exchanged, they are mirrored.
-/

namespace InvestmentAssistant

open ThresholdRule

/-! ### The strategies -/

/-- The bands of an indicator. The rules are tried in order; `LT` is below, `GT` above. -/
abbrev BandRule := ThresholdRule ℚ SignalType

/-- `SignalRatingConfig.kind`, with the bands where there are any. -/
inductive RatingKind
  | bands (rules : List BandRule)
  | crossover
  | directional
  | histogram
  | neutral

/-- `_rate_bands`. -/
def rateBands (value : Option ℚ) (rules : List BandRule) : SignalType :=
  match value with
  | none => .neutral
  | some value => rate .neutral rules value

/-- `_rate_crossover`. -/
def rateCrossover (macdLine signalLine : Option ℚ) : SignalType :=
  match macdLine, signalLine with
  | some macdLine, some signalLine =>
    if signalLine < macdLine then .buy
    else if macdLine < signalLine then .sell
    else .neutral
  | _, _ => .neutral

/-- `_rate_directional`. -/
def rateDirectional (adxValue plusDi minusDi : Option ℚ) : SignalType :=
  match adxValue, plusDi, minusDi with
  | some adxValue, some plusDi, some minusDi =>
    if adxValue < 20 then .neutral
    else if minusDi < plusDi then if 40 ≤ adxValue then .strongBuy else .buy
    else if plusDi < minusDi then if 40 ≤ adxValue then .strongSell else .sell
    else .neutral
  | _, _, _ => .neutral

/-- `_rate_histogram`. -/
def rateHistogram (histValue prevHist : Option ℚ) : SignalType :=
  match histValue with
  | none => .neutral
  | some histValue =>
    if 0 < histValue then if prevHist.any (· < histValue) then .strongBuy else .buy
    else if histValue < 0 then if prevHist.any (histValue < ·) then .strongSell else .sell
    else .neutral

/-- Buy above zero, sell below. -/
def aboveZero : List BandRule :=
  [⟨.above, 0, .buy⟩, ⟨.below, 0, .sell⟩]

/-- Buy below one threshold, sell above another. -/
def outside (low high : ℚ) : List BandRule :=
  [⟨.below, low, .buy⟩, ⟨.above, high, .sell⟩]

/-- The same, with outer thresholds for strong signals. -/
def farOutside (lowest low highest high : ℚ) : List BandRule :=
  [⟨.below, lowest, .strongBuy⟩, ⟨.below, low, .buy⟩, ⟨.above, highest, .strongSell⟩,
    ⟨.above, high, .sell⟩]

/-- `SIGNAL_RATING_CONFIG`. -/
def signalRatingConfig : List (String × RatingKind) :=
  [("rsi", .bands (farOutside 20 30 80 70)), ("stochastic", .bands (outside 20 80)),
    ("cci", .bands (farOutside (-200) (-100) 200 100)), ("adx", .directional),
    ("awesome_oscillator", .bands aboveZero), ("momentum", .bands aboveZero),
    ("macd_histogram", .histogram), ("williams_r", .bands (outside (-80) (-20))),
    ("ultimate_oscillator", .bands (outside 30 70)), ("macd_crossover", .crossover),
    ("atr", .neutral), ("bull_bear_power", .bands aboveZero), ("stochrsi", .bands (outside 20 80)),
    ("roc", .bands aboveZero)]

/-- The message for an unknown indicator. -/
def unknownSignalType (signalType : String) : PyException :=
  .valueError (s!"Unknown signal_type '{signalType}'. Valid types: " ++
    ", ".intercalate ((signalRatingConfig.map Prod.fst).insertionSort (· ≤ ·)))

/-- A strategy called with a wrong number of values; the message is the interpreter's. -/
def wrongArity (rater : String) : PyException :=
  .typeError (rater ++ "(): wrong number of positional arguments")

/-- `rate_signal`. -/
def rateSignal (signalType : String) (values : List (Option ℚ)) : Except PyException SignalType :=
  match signalRatingConfig.lookup signalType with
  | none => .error (unknownSignalType signalType)
  | some (.bands rules) =>
    match values with
    | [] => .ok (rateBands none rules)
    | [value] => .ok (rateBands value rules)
    | _ => .error (.typeError
        s!"Signal type '{signalType}' (kind=bands) expects 1 value, got {values.length}")
  | some .crossover =>
    match values with
    | [macdLine, signalLine] => .ok (rateCrossover macdLine signalLine)
    | _ => .error (wrongArity "_rate_crossover")
  | some .directional =>
    match values with
    | [adxValue, plusDi, minusDi] => .ok (rateDirectional adxValue plusDi minusDi)
    | _ => .error (wrongArity "_rate_directional")
  | some .histogram =>
    match values with
    | [histValue] => .ok (rateHistogram histValue none)
    | [histValue, prevHist] => .ok (rateHistogram histValue prevHist)
    | _ => .error (wrongArity "_rate_histogram")
  | some .neutral => .ok .neutral

/-! ### Order and mirror image -/

/-- How far a signal is on the side of buying. -/
def SignalType.level : SignalType → ℤ
  | .strongSell => -2
  | .sell => -1
  | .neutral => 0
  | .buy => 1
  | .strongBuy => 2

/-- Signals are ordered from selling to buying. -/
instance : Preorder SignalType where
  le s t := s.level ≤ t.level
  le_refl s := le_refl s.level
  le_trans _ _ _ := Int.le_trans

instance : DecidableLE SignalType :=
  fun s t ↦ inferInstanceAs (Decidable (s.level ≤ t.level))

theorem SignalType.mirror_mirror (s : SignalType) : s.mirror.mirror = s := by
  cases s <;> rfl

/-- A scale of readings: the reading without a side, and whether high readings are for buying. -/
structure BandScale where
  centre : ℚ
  following : Bool

/-- The scale turned around. -/
def BandScale.turn (scale : BandScale) (x : ℚ) : ℚ :=
  2 * scale.centre - x

/-- The scales of the indicators that are rated by bands. -/
def bandScales : List (String × BandScale) :=
  [("rsi", ⟨50, false⟩), ("stochastic", ⟨50, false⟩), ("cci", ⟨0, false⟩),
    ("awesome_oscillator", ⟨0, true⟩), ("momentum", ⟨0, true⟩), ("williams_r", ⟨-50, false⟩),
    ("ultimate_oscillator", ⟨50, false⟩), ("bull_bear_power", ⟨0, true⟩),
    ("stochrsi", ⟨50, false⟩), ("roc", ⟨0, true⟩)]

theorem BandScale.strictAnti_turn (scale : BandScale) : StrictAnti scale.turn :=
  fun _ _ h ↦ sub_lt_sub_left h _

theorem BandScale.involutive_turn (scale : BandScale) : Function.Involutive scale.turn :=
  fun x ↦ sub_sub_cancel _ x

/-- The bands rate in the sense of a scale, and alike on both sides of its centre. -/
structure RatesOn (scale : BandScale) (rules : List BandRule) : Prop where
  ordered : if scale.following then Monotone (rate SignalType.neutral rules)
    else Antitone (rate SignalType.neutral rules)
  mirrored : ∀ x, rate .neutral rules (scale.turn x) = (rate .neutral rules x).mirror

theorem ratesOn_aboveZero : RatesOn ⟨0, true⟩ aboveZero where
  ordered := monotone_rate (by decide)
  mirrored x := by
    have hseparate : Separate [(⟨.below, 0, .sell⟩ : BandRule)] [⟨.above, 0, .buy⟩] := by decide
    -- the rule for buying is tried first, which makes no difference
    have hswap (y : ℚ) : rate .neutral aboveZero y =
        rate .neutral ([(⟨.below, 0, .sell⟩ : BandRule)] ++ [⟨.above, 0, .buy⟩]) y :=
      (rate_append_comm hseparate y).symm
    rw [hswap, hswap]
    exact rate_turn (BandScale.strictAnti_turn _) (BandScale.involutive_turn _)
      SignalType.mirror_mirror rfl hseparate
      (by norm_num [reflect, mapValue, BandScale.turn, ThresholdSide.other, SignalType.mirror]) x

theorem ratesOn_outside {low high centre : ℚ} (hle : low ≤ high)
    (hcentre : 2 * centre = low + high) : RatesOn ⟨centre, false⟩ (outside low high) where
  ordered := by
    refine antitone_rate ?_
    simp only [outside, Descending, Bounds, List.map_cons, List.map_nil, List.forall_mem_cons]
    decide
  mirrored := by
    have hseparate : Separate [(⟨.below, low, .buy⟩ : BandRule)] [⟨.above, high, .sell⟩] := by
      simpa [Separate] using hle
    refine rate_turn (BandScale.strictAnti_turn _) (BandScale.involutive_turn _)
      SignalType.mirror_mirror rfl hseparate ?_
    simp [reflect, mapValue, BandScale.turn, hcentre, ThresholdSide.other, SignalType.mirror]

theorem ratesOn_farOutside {lowest low highest high centre : ℚ} (hlowest : lowest ≤ low)
    (hle : low ≤ high) (hhighest : high ≤ highest) (hcentre : 2 * centre = low + high)
    (hcentre' : 2 * centre = lowest + highest) :
    RatesOn ⟨centre, false⟩ (farOutside lowest low highest high) where
  ordered := by
    refine antitone_rate ?_
    simp only [farOutside, Descending, Bounds, List.map_cons, List.map_nil, List.forall_mem_cons]
    decide
  mirrored := by
    have hseparate : Separate
        [(⟨.below, lowest, .strongBuy⟩ : BandRule), ⟨.below, low, .buy⟩]
        [⟨.above, highest, .strongSell⟩, ⟨.above, high, .sell⟩] := by
      simp only [Separate, List.forall_mem_cons, List.not_mem_nil, false_imp_iff, implies_true,
        and_true, true_and]
      exact ⟨⟨by linarith, by linarith⟩, by linarith, hle⟩
    refine rate_turn (BandScale.strictAnti_turn _) (BandScale.involutive_turn _)
      SignalType.mirror_mirror rfl hseparate ?_
    have hhigh : 2 * centre - low = high := by linarith
    have hhighest' : 2 * centre - lowest = highest := by linarith
    simp [reflect, mapValue, BandScale.turn, hhigh, hhighest', ThresholdSide.other,
      SignalType.mirror]

/-- Each indicator with a scale is rated by bands on that scale. -/
theorem exists_bands_of_mem_bandScales {key : String} {scale : BandScale}
    (h : (key, scale) ∈ bandScales) :
    ∃ rules, signalRatingConfig.lookup key = some (.bands rules) ∧ RatesOn scale rules := by
  simp only [bandScales, List.mem_cons, List.not_mem_nil, or_false, Prod.mk.injEq] at h
  rcases h with ⟨rfl, rfl⟩ | ⟨rfl, rfl⟩ | ⟨rfl, rfl⟩ | ⟨rfl, rfl⟩ | ⟨rfl, rfl⟩ | ⟨rfl, rfl⟩ |
    ⟨rfl, rfl⟩ | ⟨rfl, rfl⟩ | ⟨rfl, rfl⟩ | ⟨rfl, rfl⟩
  · exact ⟨_, rfl, ratesOn_farOutside (by norm_num) (by norm_num) (by norm_num) (by norm_num)
      (by norm_num)⟩
  · exact ⟨_, rfl, ratesOn_outside (by norm_num) (by norm_num)⟩
  · exact ⟨_, rfl, ratesOn_farOutside (by norm_num) (by norm_num) (by norm_num) (by norm_num)
      (by norm_num)⟩
  · exact ⟨_, rfl, ratesOn_aboveZero⟩
  · exact ⟨_, rfl, ratesOn_aboveZero⟩
  · exact ⟨_, rfl, ratesOn_outside (by norm_num) (by norm_num)⟩
  · exact ⟨_, rfl, ratesOn_outside (by norm_num) (by norm_num)⟩
  · exact ⟨_, rfl, ratesOn_aboveZero⟩
  · exact ⟨_, rfl, ratesOn_outside (by norm_num) (by norm_num)⟩
  · exact ⟨_, rfl, ratesOn_aboveZero⟩

/-- **Ratings by bands.** Each of the ten indicators rated by bands has a rating for every reading;
the rating follows the reading or goes against it, and readings at equal distance from the centre of
the scale have opposite ratings. -/
theorem rateSignal_bands {key : String} {scale : BandScale} (h : (key, scale) ∈ bandScales) :
    ∃ rating : ℚ → SignalType, (∀ x, rateSignal key [some x] = .ok (rating x)) ∧
      (if scale.following then Monotone rating else Antitone rating) ∧
      ∀ x, rating (scale.turn x) = (rating x).mirror := by
  obtain ⟨rules, hrules, hrates⟩ := exists_bands_of_mem_bandScales h
  refine ⟨rate .neutral rules, fun x ↦ ?_, hrates.ordered, hrates.mirrored⟩
  rw [rateSignal, hrules]
  rfl

/-- The relative strength goes against the reading. -/
theorem rateSignal_bands_rsi :
    ∃ rating : ℚ → SignalType, (∀ x, rateSignal "rsi" [some x] = .ok (rating x)) ∧
      Antitone rating ∧ ∀ x, rating (BandScale.turn ⟨50, false⟩ x) = (rating x).mirror :=
  rateSignal_bands (List.mem_cons_self ..)

theorem rateCrossover_swap (x y : Option ℚ) :
    rateCrossover y x = (rateCrossover x y).mirror := by
  cases x <;> cases y <;> try rfl
  next x y =>
    rw [rateCrossover, rateCrossover]
    rcases lt_trichotomy x y with h | rfl | h
    · rw [if_pos h, if_neg h.asymm, if_pos h]
      rfl
    · simp only [lt_irrefl, if_false, SignalType.mirror]
    · rw [if_neg h.asymm, if_pos h, if_pos h]
      rfl

theorem rateDirectional_swap (adx x y : Option ℚ) :
    rateDirectional adx y x = (rateDirectional adx x y).mirror := by
  cases adx <;> cases x <;> cases y <;> try rfl
  next adx x y =>
    rw [rateDirectional, rateDirectional]
    split
    · rfl
    · rcases lt_trichotomy x y with h | rfl | h
      · rw [if_pos h, if_neg h.asymm, if_pos h]
        split <;> rfl
      · simp only [lt_irrefl, if_false, SignalType.mirror]
      · rw [if_neg h.asymm, if_pos h, if_pos h]
        split <;> rfl

end InvestmentAssistant
