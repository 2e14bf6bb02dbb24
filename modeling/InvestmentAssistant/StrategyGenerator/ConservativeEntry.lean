import InvestmentAssistant.StrategyGenerator.EntryCalculator
import InvestmentAssistant.StrategyGenerator.RiskRewardBounds

/-!
# The level of a conservative entry

The stop loss is put behind a level that is marked as standing against the trade: a support for a
long one, a resistance for a short one. The conservative entry is documented to be at the nearest
such level, but takes the nearest level on that side of the price whichever way it is marked, and
reads the price of a level more liberally.

So the two agree unless a pattern that only one of them reads so is the nearest: see
`atNearestMarkedLevel_iff`. A former resistance now below the price is the ordinary example.
-/

namespace InvestmentAssistant

open Decimal KeywordSearch

/-- `a` is at least as near to the market price as `b`, both being on the side of the trade. -/
def NoFarther : Direction → ℚ → ℚ → Prop
  | .long, a, b => b ≤ a
  | .short, a, b => a ≤ b

section NearestLevel

variable {direction : Direction} {a b c : ℚ} {levels others : List ℚ}

theorem NoFarther.refl (a : ℚ) : NoFarther direction a a := by
  cases direction <;> exact le_refl a

theorem NoFarther.trans (hab : NoFarther direction a b) (hbc : NoFarther direction b c) :
    NoFarther direction a c := by
  cases direction with
  | long => exact le_trans hbc hab
  | short => exact le_trans hab hbc

theorem NoFarther.antisymm (hab : NoFarther direction a b) (hba : NoFarther direction b a) :
    a = b := by
  cases direction with
  | long => exact le_antisymm hba hab
  | short => exact le_antisymm hab hba

theorem nearestLevel_eq_none_iff : nearestLevel direction levels = none ↔ levels = [] := by
  cases direction with
  | long => exact List.max?_eq_none_iff
  | short => exact List.min?_eq_none_iff

theorem nearestLevel_eq_some_iff :
    nearestLevel direction levels = some a ↔
      a ∈ levels ∧ ∀ b ∈ levels, NoFarther direction a b := by
  cases direction with
  | long => exact List.max?_eq_some_iff
  | short => exact List.min?_eq_some_iff

/-- **Two lists have the same nearest level** exactly when each has one at least as near as any of
the other. -/
theorem nearestLevel_eq_iff :
    nearestLevel direction levels = nearestLevel direction others ↔
      (∀ a ∈ levels, ∃ b ∈ others, NoFarther direction b a) ∧
        ∀ b ∈ others, ∃ a ∈ levels, NoFarther direction a b := by
  constructor
  · intro h
    rcases hlevels : nearestLevel direction levels with - | best
    · rw [nearestLevel_eq_none_iff.1 hlevels, nearestLevel_eq_none_iff.1 (h.symm.trans hlevels)]
      exact ⟨fun a ha ↦ absurd ha List.not_mem_nil, fun b hb ↦ absurd hb List.not_mem_nil⟩
    · obtain ⟨hmem, hnear⟩ := nearestLevel_eq_some_iff.1 hlevels
      obtain ⟨hmem', hnear'⟩ := nearestLevel_eq_some_iff.1 (h.symm.trans hlevels)
      exact ⟨fun a ha ↦ ⟨best, hmem', hnear a ha⟩, fun b hb ↦ ⟨best, hmem, hnear' b hb⟩⟩
  · rintro ⟨hforth, hback⟩
    rcases hothers : nearestLevel direction others with - | best
    · rw [nearestLevel_eq_none_iff] at hothers ⊢
      refine List.eq_nil_iff_forall_not_mem.2 fun a ha ↦ ?_
      obtain ⟨b, hb, -⟩ := hforth a ha
      exact absurd hb (hothers ▸ List.not_mem_nil)
    · obtain ⟨hmem, hnear⟩ := nearestLevel_eq_some_iff.1 hothers
      obtain ⟨a, ha, hab⟩ := hback best hmem
      obtain ⟨b, hb, hba⟩ := hforth a ha
      -- the level that is as near as the best one is the best one
      obtain rfl : a = best := hab.antisymm ((hnear b hb).trans hba)
      refine nearestLevel_eq_some_iff.2 ⟨ha, fun c hc ↦ ?_⟩
      obtain ⟨d, hd, hdc⟩ := hforth c hc
      exact (hnear d hd).trans hdc

end NearestLevel

/-! ### Two readings of a pattern -/

section Readings

variable (currentPrice : ℚ) (direction : Direction)

/-- The level the entry calculation reads from a pattern, if it is on the side of the trade. -/
def entryLevel (p : PatternDetection) : Option ℚ :=
  (extractPriceFromDescription p.description).filter (favourable currentPrice direction)

/-- The level a stop loss could be put behind, as it is read from one pattern: marked as standing
against the trade, and on its side of the price. -/
def markedLevel (p : PatternDetection) : Option ℚ :=
  ((search srPriceRe p.description.toList).map readDecimal).filter fun price ↦
    p.bullish = decide (direction = .long) && favourable currentPrice direction price

theorem filterMap_entryLevel (patterns : List PatternDetection) :
    patterns.filterMap (entryLevel currentPrice direction) =
      candidateLevels currentPrice direction patterns := by
  rw [candidateLevels, List.filter_filterMap]
  rfl

theorem adverseLevels_eq (srLevels : List SrLevel) :
    adverseLevels currentPrice direction srLevels =
      (srLevels.filter fun level ↦ (!level.2) = decide (direction = .long) &&
        favourable currentPrice direction level.1).map Prod.fst := by
  cases direction with
  | long =>
    show (srLevels.filter _).map Prod.fst = _
    congr 2
    funext level
    cases level.2 <;> rfl
  | short =>
    show (srLevels.filter _).map Prod.fst = _
    congr 2
    funext level
    cases level.2 <;> rfl

theorem filterMap_markedLevel (patterns : List PatternDetection) :
    patterns.filterMap (markedLevel currentPrice direction) =
      adverseLevels currentPrice direction (extractSrPrices patterns) := by
  rw [adverseLevels_eq, extractSrPrices, List.filter_filterMap, List.map_filterMap]
  refine List.filterMap_congr fun p _ ↦ ?_
  rw [markedLevel]
  rcases search srPriceRe p.description.toList with - | number
  · rfl
  · show Option.filter _ (some (readDecimal number)) = (Option.filter _ (some _)).map Prod.fst
    rw [Option.filter_some, Option.filter_some, Bool.not_not]
    split <;> rfl

/-- The conservative entry is at the nearest of the levels a stop loss could be put behind; there is
none when there is no such level. -/
def AtNearestMarkedLevel (srPatterns : List PatternDetection) : Prop :=
  (findConservativeSrEntry currentPrice direction srPatterns).map EntryPoint.price =
    nearestLevel direction
      (adverseLevels currentPrice direction (extractSrPrices srPatterns))

variable {currentPrice direction}

/-- **Where the entry is at the right kind of level.** A pattern that the entry calculation reads
otherwise than the stop loss does — marked the other way, or with its price read differently — must
not be nearer than all that the stop loss reads; nor the other way round. -/
theorem atNearestMarkedLevel_iff (srPatterns : List PatternDetection) :
    AtNearestMarkedLevel currentPrice direction srPatterns ↔
      (∀ p ∈ srPatterns, ∀ a, entryLevel currentPrice direction p = some a →
        markedLevel currentPrice direction p ≠ some a →
        ∃ q ∈ srPatterns, ∃ b, markedLevel currentPrice direction q = some b ∧
          NoFarther direction b a) ∧
      ∀ p ∈ srPatterns, ∀ b, markedLevel currentPrice direction p = some b →
        entryLevel currentPrice direction p ≠ some b →
        ∃ q ∈ srPatterns, ∃ a, entryLevel currentPrice direction q = some a ∧
          NoFarther direction a b := by
  have hprice : (findConservativeSrEntry currentPrice direction srPatterns).map EntryPoint.price =
      nearestLevel direction (srPatterns.filterMap (entryLevel currentPrice direction)) := by
    rw [findConservativeSrEntry, Option.map_map, filterMap_entryLevel]
    exact Option.map_id'
  rw [AtNearestMarkedLevel, hprice, ← filterMap_markedLevel, nearestLevel_eq_iff]
  simp only [List.mem_filterMap]
  constructor
  · rintro ⟨hforth, hback⟩
    refine ⟨fun p hp a ha _ ↦ ?_, fun p hp b hb _ ↦ ?_⟩
    · obtain ⟨b, ⟨q, hq, hb⟩, hba⟩ := hforth a ⟨p, hp, ha⟩
      exact ⟨q, hq, b, hb, hba⟩
    · obtain ⟨a, ⟨q, hq, ha⟩, hab⟩ := hback b ⟨p, hp, hb⟩
      exact ⟨q, hq, a, ha, hab⟩
  · rintro ⟨hforth, hback⟩
    refine ⟨?_, ?_⟩
    · -- a pattern that is read alike is its own match
      rintro a ⟨p, hp, ha⟩
      by_cases hsame : markedLevel currentPrice direction p = some a
      · exact ⟨a, ⟨p, hp, hsame⟩, .refl a⟩
      · obtain ⟨q, hq, b, hb, hba⟩ := hforth p hp a ha hsame
        exact ⟨b, ⟨q, hq, hb⟩, hba⟩
    · rintro b ⟨p, hp, hb⟩
      by_cases hsame : entryLevel currentPrice direction p = some b
      · exact ⟨b, ⟨p, hp, hsame⟩, .refl b⟩
      · obtain ⟨q, hq, a, ha, hab⟩ := hback p hp b hb hsame
        exact ⟨a, ⟨q, hq, ha⟩, hab⟩

/-- A resistance the price has risen above is taken for the support it is nearest to, while the stop
loss of the same trade would go behind the support. -/
theorem formerResistance_not_atNearestMarkedLevel :
    let level (patternType description : String) (bullish : Bool) : PatternDetection :=
      { patternType, description, bullish
        confidence := 1
        category := .supportResistance
        confidence_inUnit := inUnit_one
        relevanceScore_inUnit := inUnit_zero }
    let srPatterns :=
      [level "S/R Level (resistance)" "Resistance at 98.00 (3 touches, 2.0% from current price)"
          false,
        level "S/R Level (support)" "Support at 95.00 (2 touches, 5.0% from current price)" true]
    (findConservativeSrEntry 100 .long srPatterns).map EntryPoint.price = some 98 ∧
      nearestLevel .long (adverseLevels 100 .long (extractSrPrices srPatterns)) = some 95 ∧
      ¬AtNearestMarkedLevel 100 .long srPatterns := by
  intro level srPatterns
  have hentry : (findConservativeSrEntry 100 .long srPatterns).map EntryPoint.price = some 98 := by
    decide +kernel
  have hmarked : nearestLevel .long (adverseLevels 100 .long (extractSrPrices srPatterns)) =
      some 95 := by
    decide +kernel
  refine ⟨hentry, hmarked, fun h ↦ ?_⟩
  have hprices := hentry.symm.trans (h.trans hmarked)
  norm_num at hprices

end Readings

end InvestmentAssistant
