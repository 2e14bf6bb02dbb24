import InvestmentAssistant.PatternRecognition.Fibonacci
import InvestmentAssistant.PatternRecognition.SupportResistance
import InvestmentAssistant.PatternRecognition.SwingPoints
import InvestmentAssistant.StrategyGenerator.PriceExtraction

/-!
# From a detected level to the decoded price

A level travels from its detector to the entry and the stop-loss calculation inside the description
of its pattern: printed with two decimals, searched for and read back. Both decoders find the
printed number, whatever the price and whatever else the description says, so they return the level
rounded to two decimals (`decoded_of_atText`). The level itself has four, so a price around one — a
currency pair — does not survive, and may be decoded to the other side of the close.

`level_round_trip_iff` is the exact condition. The bounce off a moving average prints its price
without a keyword, so neither decoder finds it.
-/

namespace InvestmentAssistant

open Decimal KeywordSearch CharClass

/-- A decoded price stands for a level: equal to four decimals, and on the same side of the
close. -/
structure DecodesTo (close level price : ℚ) : Prop where
  value : roundTo 4 price = roundTo 4 level
  side : cmp price close = cmp level close

/-- Both decoders give back the level of a detection, the second one with its side. -/
structure RoundTrips (close : ℚ) (d : LevelDetection) : Prop where
  entry : ∃ price, extractPriceFromDescription d.pattern.description = some price ∧
    DecodesTo close d.level price
  slTp : ∃ price, extractSrPrices [d.pattern] = [(price, !d.pattern.bullish)] ∧
    DecodesTo close d.level price

/-! ### The printed price -/

/-- The description of `d` prints the level after a first keyword `at`. -/
def AtText (d : LevelDetection) : Prop :=
  ∃ lead rest, Quiet priceRe lead ∧ (∀ c ∈ rest.head?, isDecimalDigit c = false) ∧
    d.pattern.description.toList =
      lead ++ ("at".toList ++ ' ' :: ((formatFixed 2 d.level).toList ++ rest))

/-- **Both decoders return the level rounded to two decimals.** -/
theorem decoded_of_atText {d : LevelDetection} (hpos : 0 < d.level) (h : AtText d) :
    extractPriceFromDescription d.pattern.description = some (roundTo 2 d.level) ∧
      extractSrPrices [d.pattern] = [(roundTo 2 d.level, !d.pattern.bullish)] := by
  obtain ⟨lead, rest, hlead, hrest, htext⟩ := h
  obtain ⟨hentry, hsr⟩ := search_of_text hpos.le hlead hrest htext
  obtain ⟨number, hnumber, hvalue⟩ := Option.map_eq_some_iff.1 hsr
  refine ⟨hentry, ?_⟩
  rw [extractSrPrices, List.filterMap_cons, hnumber, Option.map_some, hvalue]
  rfl

theorem atText_of_cluster {d : LevelDetection} {isResistance : Bool} {tail : String}
    (h : d.pattern.description =
      levelTypeCapitalized isResistance ++ " at " ++ formatFixed 2 d.level ++ (" (" ++ tail)) :
    AtText d := by
  refine ⟨(levelTypeCapitalized isResistance).toList ++ [' '], " (".toList ++ tail.toList,
    ?_, ?_, ?_⟩
  · cases isResistance <;> decide
  · rintro c ⟨rfl⟩
    decide
  · rw [h]
    simp [String.toList_append]

theorem atText_of_retracement {d : LevelDetection} {isUptrend active : Bool} {level : ℚ}
    (h : d.pattern.description = (if isUptrend then "Uptrend" else "Downtrend") ++
      " retracement " ++ levelPercent level ++ "% at " ++ formatFixed 2 d.level ++
        (if active then " (ACTIVE)" else "")) :
    AtText d := by
  refine ⟨(if isUptrend then "Uptrend" else "Downtrend").toList ++ " retracement ".toList ++
    ((levelPercent level).toList ++ "% ".toList), (if active then " (ACTIVE)" else "").toList,
    ?_, ?_, ?_⟩
  · have hlead : Quiet priceRe ((if isUptrend then "Uptrend" else "Downtrend").toList ++
        " retracement ".toList) := by
      cases isUptrend <;> decide
    have hpercent : Quiet priceRe ("% ".toList) := by decide
    exact hlead.append ((quiet_formatFixed 1 _).append hpercent)
  · cases active
    · exact fun c hc ↦ nomatch hc
    · rintro c ⟨rfl⟩
      decide
  · rw [h]
    simp [String.toList_append]

/-- A bounce prints its average without a keyword: neither decoder finds a price. -/
theorem not_decoded_of_ema {d : LevelDetection} {period : ℕ} {bullish : Bool}
    (h : d.pattern.description = "Price near EMA " ++ toString period ++ " (" ++
      formatFixed 2 d.level ++ "), potential " ++ (if bullish then "support" else "resistance")) :
    extractPriceFromDescription d.pattern.description = none := by
  have hlead : Quiet priceRe "Price near EMA ".toList := by decide
  have hopen : Quiet priceRe " (".toList := by decide
  have htail : Quiet priceRe
      ("), potential ".toList ++ (if bullish then "support" else "resistance").toList) := by
    cases bullish <;> decide
  have hquiet := (((hlead.append (quiet_toString period)).append hopen).append
    (quiet_formatFixed 2 d.level)).append htail
  rw [extractPriceFromDescription, h]
  simp only [String.toList_append]
  -- no part of the text opens a match, so the whole does not
  rw [← List.append_assoc] at hquiet
  rw [search_eq_none_of_quiet hquiet]
  rfl

/-! ### The exact condition -/

/-- The two-decimal price stands for the level exactly when four decimals of the level are two, and
that number is on the level's side of the close. -/
theorem decodesTo_roundTo_two_iff {close level : ℚ} :
    DecodesTo close level (roundTo 2 level) ↔
      HasDecimals 2 (roundTo 4 level) ∧ cmp (roundTo 4 level) close = cmp level close := by
  have hiff : roundTo 4 (roundTo 2 level) = roundTo 4 level ↔ HasDecimals 2 (roundTo 4 level) :=
    roundTo_roundTo_eq_iff (by norm_num)
  have hfix : roundTo 4 (roundTo 2 level) = roundTo 2 level :=
    roundTo_eq_self_iff.2 ((hasDecimals_roundTo 2 level).mono (by norm_num))
  constructor
  · rintro ⟨hvalue, hside⟩
    refine ⟨hiff.1 hvalue, ?_⟩
    rwa [← hvalue, hfix]
  · rintro ⟨hdecimals, hside⟩
    have hvalue := hiff.2 hdecimals
    refine ⟨hvalue, ?_⟩
    rwa [← hfix, hvalue]

/-- A detection whose text prints the level after the keyword round-trips when its two-decimal price
stands for the level. -/
theorem roundTrips_iff_of_atText {close : ℚ} {d : LevelDetection} (hpos : 0 < d.level)
    (h : AtText d) : RoundTrips close d ↔ DecodesTo close d.level (roundTo 2 d.level) := by
  obtain ⟨hentry, hsr⟩ := decoded_of_atText hpos h
  constructor
  · rintro ⟨⟨price, hprice, hd⟩, -⟩
    rw [hentry] at hprice
    rwa [Option.some.inj hprice]
  · intro hd
    exact ⟨⟨_, hentry, hd⟩, ⟨_, hsr, hd⟩⟩

/-- **Exactly when a level survives the round trip through its description.** For every detection
with a positive level, and every close it is compared with: it is not a bounce off a moving average,
the level is a whole number of hundredths to four decimals, and a retracement level, which is
printed unrounded, lies on the same side of the close as that number. -/
theorem level_round_trip_iff {argrelextrema : Extrema} {ohlcv : List OHLCVData}
    {detections : List LevelDetection}
    (hcall : (∃ order clusterTolerancePct, supportResistanceDetections argrelextrema ohlcv order
        clusterTolerancePct = .ok detections) ∨
      ∃ proximityPct, fibonacciDetections argrelextrema ohlcv proximityPct = .ok detections)
    {d : LevelDetection} (hd : d ∈ detections) (hpos : 0 < d.level) (close : ℚ) :
    RoundTrips close d ↔ d.source ≠ .ema ∧ HasDecimals 2 (roundTo 4 d.level) ∧
      (d.source = .retracement → cmp (roundTo 4 d.level) close = cmp d.level close) := by
  rcases hcall with ⟨order, tol, hcall⟩ | ⟨prox, hcall⟩
  · cases supportResistanceText_of_mem hcall hd with
    | cluster hsource hlevel htext =>
      obtain ⟨isResistance, tail, htext⟩ := htext
      -- a clustered level is its own rounding, so the side takes care of itself
      have hfix : roundTo 4 d.level = d.level := roundTo_eq_self_iff.2 hlevel
      rw [roundTrips_iff_of_atText hpos (atText_of_cluster htext), decodesTo_roundTo_two_iff,
        hsource, hfix]
      exact ⟨fun h ↦ ⟨by decide, h.1, fun _ ↦ rfl⟩, fun h ↦ ⟨h.2.1, rfl⟩⟩
    | ema hsource htext =>
      obtain ⟨period, bullish, htext⟩ := htext
      constructor
      · rintro ⟨⟨price, hprice, -⟩, -⟩
        rw [not_decoded_of_ema htext] at hprice
        cases hprice
      · exact fun h ↦ absurd hsource h.1
  · obtain ⟨hsource, isUptrend, active, level, htext⟩ := retracementText_of_mem hcall hd
    rw [roundTrips_iff_of_atText hpos (atText_of_retracement htext), decodesTo_roundTo_two_iff,
      hsource]
    exact ⟨fun h ↦ ⟨by decide, h.1, fun _ ↦ h.2⟩, fun h ↦ ⟨h.2.1, h.2.2 rfl⟩⟩

/-! ### A currency pair -/

/-- Candles that all span the same range and close at its top. -/
def rangeCandles (low high : ℚ) (n : ℕ) : List OHLCVData :=
  (List.range n).map fun i ↦ ⟨⟨i, none⟩, low, high, low, high, 0⟩

/-- The detection on eleven such candles, whose price is printed as `text`. -/
def rangeDetection (level : ℚ) (text : String) : LevelDetection where
  source := .cluster
  level := level
  pattern :=
    { patternType := "S/R Level (resistance)"
      confidence := 1
      description := "Resistance at " ++ text ++ " (22 touches, 0.0% from current price)"
      location := "price_" ++ text
      bullish := false
      category := .supportResistance
      detectedAtIndex := some 10
      confidence_inUnit := by decide }

/-- A level of whole hundredths survives, as the equivalence says. -/
theorem level_round_trip_hundred : RoundTrips 100 (rangeDetection 100 "100.00") :=
  have hcall : supportResistanceDetections clippedExtrema (rangeCandles 100 100 11) 5 (1 / 2) =
      .ok [rangeDetection 100 "100.00"] := by
    decide +kernel
  (level_round_trip_iff (.inl ⟨5, 1 / 2, hcall⟩) (List.mem_singleton_self _) (by decide)
    100).2 ⟨by decide, by decide +kernel, fun h ↦ nomatch h⟩

/-- A pair trading between 1.0850 and 1.0858: its only level lies below its close of 1.0858, and the
decoded price, 1.09, above it. -/
theorem decoded_level_crosses_close :
    supportResistanceDetections clippedExtrema
        (rangeCandles (10850 / 10000) (10858 / 10000) 11) 5 (1 / 2) =
        .ok [rangeDetection (10854 / 10000) "1.09"] ∧
      extractPriceFromDescription
        (rangeDetection (10854 / 10000) "1.09").pattern.description = some (109 / 100) ∧
      ¬ RoundTrips (10858 / 10000) (rangeDetection (10854 / 10000) "1.09") := by
  refine ⟨by decide +kernel, by decide +kernel, ?_⟩
  rintro ⟨⟨price, hprice, hd⟩, -⟩
  have hdecoded : extractPriceFromDescription
      (rangeDetection (10854 / 10000) "1.09").pattern.description = some (109 / 100) := by
    decide +kernel
  obtain rfl := Option.some.inj (hdecoded.symm.trans hprice)
  exact absurd hd.side (by decide +kernel)

end InvestmentAssistant
