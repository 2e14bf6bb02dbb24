import Mathlib.Data.List.TakeWhile
import InvestmentAssistant.PatternRecognition.RelevanceScorer
import InvestmentAssistant.SignalAggregation.Aggregator

/-!
# What a relevance score depends on

A pattern found within the candles gets a score between zero and one without the clamp, and more
than zero before it is rounded: its recency is at least one part in the number of candles. So the
aggregator takes a scored pattern for an unscored one only when its score rounds to zero. The score
grows with the confidence, with the index of the candle and with the closeness of the level to the
current price, and rounding keeps that order.

A clustered level writes its price with two decimals into its location, and that is the price its
closeness is measured from (`levelPrice_of_location`).
-/

namespace InvestmentAssistant

open Decimal CharClass

/-! ### The price of a level -/

section LevelPrice

/-- A printed number is a run of digits and points. -/
theorem digitsAndPoints_fixedText (d n : ℕ) : digitsAndPoints (fixedText d n) =
    some (fixedText d n) := by
  have hall : ∀ c ∈ fixedText d n, (isDecimalDigit c || c == '.') = true := by
    intro c hc
    rw [fixedText, List.mem_append, List.mem_cons] at hc
    rcases hc with hc | rfl | hc
    · rw [isDecimalDigit_of_mem_toDigits hc, Bool.true_or]
    · rfl
    · rw [isDecimalDigit_of_mem_fracDigits hc, Bool.true_or]
  have hne : fixedText d n ≠ [] := by simp [fixedText]
  rw [digitsAndPoints, List.takeWhile_eq_self_iff.2 hall, if_neg hne]

/-- A printed number has one point and digits before it, so `float` reads it. -/
theorem floatOfRun_fixedText (d n : ℕ) :
    floatOfRun (fixedText d n) = some ((n : ℚ) / 10 ^ d) := by
  have hwhole : '.' ∉ Nat.toDigits 10 (n / 10 ^ d) := fun h ↦
    ne_point_of_isDecimalDigit (isDecimalDigit_of_mem_toDigits h) rfl
  have hfrac : '.' ∉ fracDigits d n := fun h ↦
    ne_point_of_isDecimalDigit (isDecimalDigit_of_mem_fracDigits h) rfl
  have hcount : (fixedText d n).count '.' ≤ 1 := by
    rw [fixedText, List.count_append, List.count_eq_zero_of_not_mem hwhole, List.count_cons_self,
      List.count_eq_zero_of_not_mem hfrac]
  have hdigit : (fixedText d n).any isDecimalDigit = true := by
    obtain ⟨c, hc⟩ := List.exists_mem_of_ne_nil _ (Nat.toDigits_ne_nil (n := n / 10 ^ d) (b := 10))
    exact List.any_eq_true.2 ⟨c, List.mem_append_left _ hc, isDecimalDigit_of_mem_toDigits hc⟩
  rw [floatOfRun, if_pos ⟨hcount, hdigit⟩, readDecimal_fixedText]

/-- The search ends where it starts when there is a match. -/
theorem findSome?_tails_of_eq_some {f : List Char → Option (List Char)} {text run : List Char}
    (h : f text = some run) : text.tails.findSome? f = some run := by
  cases text with
  | nil => rw [List.tails, List.findSome?_cons, h]
  | cons c rest => rw [List.tails_cons, List.findSome?_cons, h]

/-- **The location of a clustered level** gives its price back, to two decimals. -/
theorem levelPrice_of_location {p : PatternDetection} {x : ℚ} (hx : 0 ≤ x)
    (hcategory : p.category = .supportResistance)
    (hlocation : p.location = "price_" ++ formatFixed 2 x) :
    levelPrice p = some (roundTo 2 x) := by
  have htext : p.location.toList =
      "price_".toList ++ fixedText 2 (roundHalfEven (x * 10 ^ 2)).natAbs := by
    rw [hlocation, String.toList_append, toList_formatFixed hx]
  have hmatch : srPriceAt p.location.toList =
      some (fixedText 2 (roundHalfEven (x * 10 ^ 2)).natAbs) := by
    rw [srPriceAt, htext, if_pos (List.prefix_append _ _)]
    exact digitsAndPoints_fixedText 2 _
  have hvalue := readDecimal_formatFixed (d := 2) hx
  rw [toList_formatFixed hx, readDecimal_fixedText] at hvalue
  rw [levelPrice, hcategory]
  show (p.location.toList.tails.findSome? srPriceAt).bind floatOfRun = _
  rw [findSome?_tails_of_eq_some hmatch, Option.bind_some, floatOfRun_fixedText, hvalue]

end LevelPrice

/-! ### The parts of a score -/

section Parts

variable {totalCandles : ℤ} {currentPrice : ℚ} {p q : PatternDetection}

/-- How far the level of a pattern is from the current price; what has no level counts as at it. -/
def levelDistance (currentPrice : ℚ) (p : PatternDetection) : ℚ :=
  ((levelPrice p).map fun price ↦ |currentPrice - price|).getD 0

/-- A pattern that was found within the candles, or at the last of them. -/
def FoundWithin (totalCandles : ℤ) (p : PatternDetection) : Prop :=
  ∀ i ∈ p.detectedAtIndex, 0 ≤ i ∧ i < totalCandles

instance : Decidable (FoundWithin totalCandles p) :=
  inferInstanceAs (Decidable (∀ i ∈ p.detectedAtIndex, _))

/-- The distance of a clustered level is that of the price it prints. -/
theorem levelDistance_of_location {x : ℚ} (hx : 0 ≤ x) (hcategory : p.category = .supportResistance)
    (hlocation : p.location = "price_" ++ formatFixed 2 x) :
    levelDistance currentPrice p = |currentPrice - roundTo 2 x| := by
  rw [levelDistance, levelPrice_of_location hx hcategory hlocation]
  rfl

theorem detectedIndex_mem (htotal : 0 < totalCandles) (h : FoundWithin totalCandles p) :
    0 ≤ detectedIndex totalCandles p ∧ detectedIndex totalCandles p < totalCandles := by
  rw [detectedIndex]
  rcases hindex : p.detectedAtIndex with - | i
  · rw [Option.getD_none]
    omega
  · exact h i hindex

/-- The same bounds as fractions compute with them. -/
theorem detectedIndex_cast_mem (htotal : 0 < totalCandles) (h : FoundWithin totalCandles p) :
    (0 : ℚ) ≤ detectedIndex totalCandles p ∧
      (detectedIndex totalCandles p + 1 : ℚ) ≤ totalCandles := by
  obtain ⟨hfirst, hlast⟩ := detectedIndex_mem htotal h
  exact ⟨by exact_mod_cast hfirst, by exact_mod_cast Int.add_one_le_iff.2 hlast⟩

/-- **Recency**: the part of the candles up to the one the pattern was found at. -/
theorem recency_eq (htotal : 0 < totalCandles) (h : FoundWithin totalCandles p) :
    recency totalCandles p = (detectedIndex totalCandles p + 1 : ℚ) / totalCandles := by
  have htotal' : (0 : ℚ) < totalCandles := by exact_mod_cast htotal
  have hindex := (detectedIndex_cast_mem htotal h).1
  have hvalue : 1 - ((totalCandles - 1 - detectedIndex totalCandles p : ℤ) : ℚ) / totalCandles =
      (detectedIndex totalCandles p + 1) / totalCandles := by
    push_cast
    field_simp
    ring
  rw [recency, hvalue]
  exact max_eq_right (by positivity)

theorem recency_pos (htotal : 0 < totalCandles) (h : FoundWithin totalCandles p) :
    0 < recency totalCandles p := by
  have htotal' : (0 : ℚ) < totalCandles := by exact_mod_cast htotal
  have hindex := (detectedIndex_cast_mem htotal h).1
  rw [recency_eq htotal h]
  positivity

theorem recency_le_one (htotal : 0 < totalCandles) (h : FoundWithin totalCandles p) :
    recency totalCandles p ≤ 1 := by
  have htotal' : (0 : ℚ) < totalCandles := by exact_mod_cast htotal
  rw [recency_eq htotal h]
  exact (div_le_one htotal').2 (detectedIndex_cast_mem htotal h).2

/-- A pattern found later is more recent. -/
theorem recency_mono (htotal : 0 < totalCandles)
    (h : detectedIndex totalCandles p ≤ detectedIndex totalCandles q) :
    recency totalCandles p ≤ recency totalCandles q := by
  have htotal' : (0 : ℚ) ≤ totalCandles := by exact_mod_cast htotal.le
  refine max_le_max_left 0 (sub_le_sub_left (div_le_div_of_nonneg_right ?_ htotal') 1)
  exact_mod_cast Int.sub_le_sub_left h _

/-- **Proximity** falls with the distance from the current price. -/
theorem calculateProximity_eq (hprice : 0 < currentPrice) :
    calculateProximity p currentPrice =
      max 0 (1 - min 1 (levelDistance currentPrice p / (currentPrice * 0.05))) := by
  have hrange : currentPrice * 0.05 ≠ 0 := by positivity
  rw [calculateProximity, if_neg hprice.not_ge, levelDistance]
  rcases levelPrice p with - | price
  · simp
  · show proximityFromLevel currentPrice price = _
    rw [proximityFromLevel, if_neg hrange]
    rfl

theorem calculateProximity_inUnit (hprice : 0 < currentPrice) :
    InUnit (calculateProximity p currentPrice) := by
  have hdistance : 0 ≤ levelDistance currentPrice p := by
    rw [levelDistance]
    rcases levelPrice p with - | price
    · exact le_rfl
    · exact abs_nonneg _
  have hmin : 0 ≤ min 1 (levelDistance currentPrice p / (currentPrice * 0.05)) :=
    le_min zero_le_one (by positivity)
  rw [calculateProximity_eq hprice]
  exact ⟨le_max_left _ _, max_le zero_le_one (sub_le_self 1 hmin)⟩

/-- A closer level counts for more. -/
theorem calculateProximity_anti (hprice : 0 < currentPrice)
    (h : levelDistance currentPrice q ≤ levelDistance currentPrice p) :
    calculateProximity p currentPrice ≤ calculateProximity q currentPrice := by
  have hrange : 0 ≤ currentPrice * 0.05 := by positivity
  rw [calculateProximity_eq hprice, calculateProximity_eq hprice]
  exact max_le_max_left 0 (sub_le_sub_left
    (min_le_min_left 1 (div_le_div_of_nonneg_right h hrange)) 1)

/-! ### The score -/

theorem relevance_pos (htotal : 0 < totalCandles) (hprice : 0 < currentPrice)
    (h : FoundWithin totalCandles p) : 0 < relevance totalCandles currentPrice p := by
  have hrecency := recency_pos htotal h
  have hproximity := (calculateProximity_inUnit (p := p) hprice).1
  have hconfidence := p.confidence_inUnit.1
  unfold relevance
  positivity

theorem relevance_le_one (htotal : 0 < totalCandles) (hprice : 0 < currentPrice)
    (h : FoundWithin totalCandles p) : relevance totalCandles currentPrice p ≤ 1 := by
  have hrecency := recency_le_one htotal h
  have hproximity := (calculateProximity_inUnit (p := p) hprice).2
  have hconfidence := p.confidence_inUnit.2
  unfold relevance
  linarith

/-- The clamp of `score_patterns` has nothing to do. -/
theorem relevanceScore_scorePattern (htotal : 0 < totalCandles) (hprice : 0 < currentPrice)
    (h : FoundWithin totalCandles p) :
    (scorePattern totalCandles currentPrice p).relevanceScore =
      roundTo 4 (relevance totalCandles currentPrice p) := by
  rw [scorePattern_relevanceScore, max_eq_right (relevance_pos htotal hprice h).le,
    min_eq_right (relevance_le_one htotal hprice h)]

/-- One pattern is at least as confident as another, found no earlier, and no farther from the
current price. -/
structure AtLeastAsRelevant (totalCandles : ℤ) (currentPrice : ℚ) (p q : PatternDetection) :
    Prop where
  confidence_le : p.confidence ≤ q.confidence
  index_le : detectedIndex totalCandles p ≤ detectedIndex totalCandles q
  distance_le : levelDistance currentPrice q ≤ levelDistance currentPrice p

theorem relevance_mono (htotal : 0 < totalCandles) (hprice : 0 < currentPrice)
    (h : AtLeastAsRelevant totalCandles currentPrice p q) :
    relevance totalCandles currentPrice p ≤ relevance totalCandles currentPrice q := by
  have hconfidence := h.confidence_le
  have hrecency := recency_mono htotal h.index_le
  have hproximity := calculateProximity_anti hprice h.distance_le
  unfold relevance
  linarith

/-- Clamping and rounding keep the order of the scores. -/
theorem relevanceScore_mono (htotal : 0 < totalCandles) (hprice : 0 < currentPrice)
    (h : AtLeastAsRelevant totalCandles currentPrice p q) :
    (scorePattern totalCandles currentPrice p).relevanceScore ≤
      (scorePattern totalCandles currentPrice q).relevanceScore := by
  have hclamped : min 1 (max 0 (relevance totalCandles currentPrice p)) ≤
      min 1 (max 0 (relevance totalCandles currentPrice q)) :=
    min_le_min_left 1 (max_le_max_left 0 (relevance_mono htotal hprice h))
  rw [scorePattern_relevanceScore, scorePattern_relevanceScore]
  exact roundTo_mono 4 hclamped

end Parts

/-- **The relevance scores of a list of patterns.** Each is the rounded score without a clamp, is
positive before it is rounded, and is the strength of the pattern unless it rounds to zero; the
scores are in the order of what they are made of; and a clustered level is as near as the price that
its location prints. -/
theorem scorePatterns_bounds {totalCandles : ℤ} {currentPrice : ℚ}
    {patterns : List PatternDetection} (htotal : 0 < totalCandles) (hprice : 0 < currentPrice)
    (hfound : ∀ p ∈ patterns, FoundWithin totalCandles p) :
    scorePatterns patterns totalCandles currentPrice =
      ⟨patterns.map (scorePattern totalCandles currentPrice), .ok ()⟩ ∧
    (∀ p ∈ patterns,
      (0 < relevance totalCandles currentPrice p ∧ relevance totalCandles currentPrice p ≤ 1) ∧
      (scorePattern totalCandles currentPrice p).relevanceScore =
        roundTo 4 (relevance totalCandles currentPrice p) ∧
      InUnit (scorePattern totalCandles currentPrice p).relevanceScore ∧
      (roundTo 4 (relevance totalCandles currentPrice p) ≠ 0 →
        patternStrength (scorePattern totalCandles currentPrice p) =
          roundTo 4 (relevance totalCandles currentPrice p))) ∧
    (∀ p ∈ patterns, ∀ q ∈ patterns, AtLeastAsRelevant totalCandles currentPrice p q →
      (scorePattern totalCandles currentPrice p).relevanceScore ≤
        (scorePattern totalCandles currentPrice q).relevanceScore) ∧
    ∀ p ∈ patterns, ∀ x, 0 ≤ x → p.category = .supportResistance →
      p.location = "price_" ++ formatFixed 2 x →
      levelDistance currentPrice p = |currentPrice - roundTo 2 x| := by
  refine ⟨?_, fun p hp ↦ ?_, fun p _ q _ h ↦ relevanceScore_mono htotal hprice h,
    fun p _ x hx hcategory hlocation ↦ levelDistance_of_location hx hcategory hlocation⟩
  · rcases eq_or_ne patterns [] with rfl | hne
    · rfl
    · rw [scorePatterns, if_neg (not_or.2 ⟨hne, htotal.not_ge⟩)]
  · have hscore := relevanceScore_scorePattern htotal hprice (hfound p hp)
    have hunit := (scorePattern totalCandles currentPrice p).relevanceScore_inUnit
    have hfactor := And.intro (relevance_pos htotal hprice (hfound p hp))
      (relevance_le_one htotal hprice (hfound p hp))
    refine ⟨hfactor, hscore, hunit, fun hne ↦ ?_⟩
    rw [← hscore] at hne ⊢
    exact if_pos (lt_of_le_of_ne hunit.1 hne.symm)

/-- A support of no confidence, ten per cent away, found at the first of two candles or at the
second: the least relevant pattern still has a score, and the later one at least that. -/
theorem scorePatterns_bounds_supports :
    let support (i : ℤ) : PatternDetection :=
      { patternType := "S/R Level (support)"
        confidence := 0
        location := "price_90.00"
        category := .supportResistance
        detectedAtIndex := some i
        confidence_inUnit := inUnit_zero
        relevanceScore_inUnit := inUnit_zero }
    scorePatterns [support 0, support 1] 2 100 =
      ⟨[scorePattern 2 100 (support 0), scorePattern 2 100 (support 1)], .ok ()⟩ ∧
    0 < relevance 2 100 (support 0) ∧
    (scorePattern 2 100 (support 0)).relevanceScore ≤
      (scorePattern 2 100 (support 1)).relevanceScore := by
  intro support
  have hfound : ∀ p ∈ [support 0, support 1], FoundWithin 2 p := by
    rw [List.forall_mem_cons, List.forall_mem_singleton]
    exact ⟨fun i hi ↦ by cases hi; decide, fun i hi ↦ by cases hi; decide⟩
  obtain ⟨hscored, hbounds, hmono, -⟩ :=
    @scorePatterns_bounds 2 100 _ two_pos (by norm_num) hfound
  have hfirst : support 0 ∈ [support 0, support 1] := List.mem_cons_self ..
  have hsecond : support 1 ∈ [support 0, support 1] :=
    List.mem_cons_of_mem _ (List.mem_cons_self ..)
  refine ⟨hscored, (hbounds _ hfirst).1.1, hmono _ hfirst _ hsecond ⟨le_rfl, ?_, le_rfl⟩⟩
  exact Int.zero_le_ofNat 1

end InvestmentAssistant
