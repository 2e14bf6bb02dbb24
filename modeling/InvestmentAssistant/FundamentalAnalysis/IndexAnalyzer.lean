import InvestmentAssistant.FundamentalAnalysis.ForexAnalyzer

/-!
# The fundamental analysis of a stock index

`analyzeIndex` looks up the region of the index and scores the interest rate, the unemployment and
the inflation of the region by their distance from a neutral value. Each of the three parts is
clamped, and counts for nothing when its reading is missing; the growth of the economy is reported
and not scored.

All three parts go down when their reading goes up, and none goes faster than its weight, so the
score is antitone in the readings, and two sets of readings that are close have scores that are
close (`analyzeIndex_score`). The bounds of the parts add up to less than the bound of the score,
whose clamp has nothing to do.
-/

namespace InvestmentAssistant

open Clamp Decimal Dictionary

/-! ### The analyzer -/

/-- `REGION_INDICATORS`. -/
def regionIndicators : List (String × List (String × String)) :=
  [("US", [("interest_rate", "fed_funds_rate"), ("cpi", "cpi_us"),
      ("unemployment", "unemployment_us"), ("gdp", "gdp_us")]),
    ("EU", [("interest_rate", "ecb_rate"), ("cpi", "cpi_eu")]),
    ("UK", [("interest_rate", "boe_rate"), ("cpi", "cpi_uk")]),
    ("JP", [("interest_rate", "boj_rate"), ("cpi", "cpi_jp")]),
    ("AU", [("interest_rate", "rba_rate"), ("cpi", "cpi_au")]),
    ("CA", [("interest_rate", "boc_rate"), ("cpi", "cpi_ca")]),
    ("PL", [("interest_rate", "pl_rate"), ("cpi", "cpi_pl"),
      ("unemployment", "unemployment_pl"), ("gdp", "gdp_pl")])]

/-- The part of the interest rate, neutral at 3%. -/
def ratePart (rate : ℚ) : ℚ :=
  clamp (-40) 40 (-(rate - 3) * 12)

/-- The part of unemployment, neutral at 5%. -/
def unemploymentPart (unemployment : ℚ) : ℚ :=
  clamp (-20) 20 (-(unemployment - 5) * 6)

/-- The part of inflation: above the target of 2% it counts twice as much as below. -/
def inflationPart (cpiYoy : ℚ) : ℚ :=
  let deviation := cpiYoy - 2
  clamp (-30) 30 (if 0 < deviation then -deviation * 8 else -deviation * 4)

/-- `_score_interest_rate`. -/
def scoreInterestRate : Option ℚ → ℚ × String
  | none => (0, "Brak danych o stopach procentowych")
  | some rate =>
    let stance := if rate < 3 then "luzna" else if 3 < rate then "restrykcyjna" else "neutralna"
    (ratePart rate, s!"Stopa procentowa: {formatFixed 2 rate}% (polityka {stance})")

/-- `_score_unemployment`. -/
def scoreUnemployment : Option ℚ → ℚ × String
  | none => (0, "")
  | some unemployment =>
    let condition := if unemployment < 5 then "silny" else "slaby"
    (unemploymentPart unemployment,
      s!"Bezrobocie: {formatFixed 1 unemployment}% (rynek pracy {condition})")

/-- `_score_inflation`. -/
def scoreInflation : Option ℚ → ℚ × String
  | none => (0, "")
  | some cpiYoy => (inflationPart cpiYoy, s!"Inflacja CPI: {formatFixed 1 cpiYoy}% r/r")

/-- The readings of a region. -/
structure RegionReadings where
  rate : Option ℚ
  cpi : Option ℚ
  unemployment : Option ℚ
  gdp : Option ℚ
  deriving DecidableEq, Repr

/-- The readings of the indicators that a region has. -/
def regionReadings (fetchIndicator : String → Option ℚ) (region : String) : RegionReadings :=
  let regionKeys := (regionIndicators.lookup region).getD []
  { rate := fetchReading fetchIndicator regionKeys "interest_rate"
    cpi := fetchReading fetchIndicator regionKeys "cpi"
    unemployment := fetchReading fetchIndicator regionKeys "unemployment"
    gdp := fetchReading fetchIndicator regionKeys "gdp" }

namespace RegionReadings

/-- The score of the readings before the final clamp. -/
def score (r : RegionReadings) : ℚ :=
  (scoreInterestRate r.rate).1 + (scoreUnemployment r.unemployment).1 + (scoreInflation r.cpi).1

/-- `parts`: what there is to say about the readings. -/
def parts (r : RegionReadings) : List String :=
  (scoreInterestRate r.rate).2 ::
    [(scoreUnemployment r.unemployment).2, (scoreInflation r.cpi).2].filter (· ≠ "")

/-- `indicators`. -/
def indicators (region : String) (r : RegionReadings) : List (String × IndicatorEntry) :=
  dictOf
    [("region", .text region), ("interest_rate", .ofOption r.rate),
      ("inflation_yoy", .ofOption r.cpi), ("unemployment", .ofOption r.unemployment),
      ("gdp", .ofOption r.gdp), ("rate_score", .number (scoreInterestRate r.rate).1),
      ("unemployment_score", .number (scoreUnemployment r.unemployment).1)]

end RegionReadings

/-- The bounds of a score. -/
theorem zero_mem_scoreRange : (-100 : ℚ) ≤ 0 ∧ (0 : ℚ) ≤ 100 := by
  norm_num

theorem clamp_mem_scoreRange (score : ℚ) :
    -100 ≤ clamp (-100) 100 score ∧ clamp (-100) 100 score ≤ 100 :=
  ⟨le_clamp, clamp_le (by norm_num)⟩

/-- The report on an index without a region. -/
def unknownIndexReport (symbol : String) : FundamentalReport where
  instrumentType := .index
  score := 0
  score_mem := zero_mem_scoreRange
  indicators := dictOf [("region", .missing)]
  summary := s!"Nieznany indeks {symbol} - brak mapowania regionu."

/-- The report on an index of a region with these readings. -/
def indexReport (symbol region : String) (r : RegionReadings) : FundamentalReport where
  instrumentType := .index
  score := clamp (-100) 100 r.score
  score_mem := clamp_mem_scoreRange r.score
  indicators := r.indicators region
  summary :=
    s!"Analiza fundamentalna {symbol} (region {region}): " ++
      directionLabel 10 (clamp (-100) 100 r.score) ++ ". " ++
      String.intercalate ". " r.parts ++ "."

/-- `analyze_index`. -/
def analyzeIndex (fetchIndicator : String → Option ℚ) (symbol : String) : FundamentalReport :=
  match indexRegion symbol with
  | none => unknownIndexReport symbol
  | some region => indexReport symbol region (regionReadings fetchIndicator region)

/-! ### The parts -/

section Parts

variable {x y d : ℚ} {a b : Option ℚ}

theorem scoreInterestRate_fst (rate : Option ℚ) :
    (scoreInterestRate rate).1 = contribution ratePart rate := by
  cases rate <;> rfl

theorem scoreUnemployment_fst (unemployment : Option ℚ) :
    (scoreUnemployment unemployment).1 = contribution unemploymentPart unemployment := by
  cases unemployment <;> rfl

theorem scoreInflation_fst (cpiYoy : Option ℚ) :
    (scoreInflation cpiYoy).1 = contribution inflationPart cpiYoy := by
  cases cpiYoy <;> rfl

/-- A part with its weight: it falls as its reading rises, by no more than the weight for each
unit. -/
structure FallsBy (weight : ℚ) (part : ℚ → ℚ) : Prop where
  nonneg : 0 ≤ weight
  anti : ∀ {x y : ℚ}, x ≤ y → part y ≤ part x
  steep : ∀ {x y : ℚ}, x ≤ y → part x - part y ≤ weight * (y - x)

/-- A clamp does not make a part steeper. -/
theorem FallsBy.clamp {weight hi : ℚ} {part : ℚ → ℚ} (h : FallsBy weight part) :
    FallsBy weight fun x ↦ clamp (-hi) hi (part x) where
  nonneg := h.nonneg
  anti hxy := clamp_mono (h.anti hxy)
  steep {x y} hxy := by
    have hclamp := abs_clamp_sub_clamp_le (-hi) hi (part x) (part y)
    have hdiff : 0 ≤ part x - part y := sub_nonneg.2 (h.anti hxy)
    rw [abs_of_nonneg hdiff] at hclamp
    exact (le_abs_self _).trans (hclamp.trans (h.steep hxy))

/-- A change by at most `d` changes the part by at most `d` times the weight. -/
theorem FallsBy.abs_sub_le {weight : ℚ} {part : ℚ → ℚ} (h : FallsBy weight part)
    (hd : |x - y| ≤ d) : |part x - part y| ≤ weight * d := by
  rcases le_total x y with hxy | hxy
  · have hsteep := h.steep hxy
    rw [abs_sub_comm, abs_of_nonneg (sub_nonneg.2 hxy)] at hd
    rw [abs_of_nonneg (sub_nonneg.2 (h.anti hxy))]
    exact hsteep.trans (mul_le_mul_of_nonneg_left hd h.nonneg)
  · have hsteep := h.steep hxy
    rw [abs_of_nonneg (sub_nonneg.2 hxy)] at hd
    rw [abs_sub_comm, abs_of_nonneg (sub_nonneg.2 (h.anti hxy))]
    exact hsteep.trans (mul_le_mul_of_nonneg_left hd h.nonneg)

/-- So it is with what the part contributes, when the same readings are there. -/
theorem FallsBy.abs_contribution_sub_le {weight : ℚ} {part : ℚ → ℚ} (h : FallsBy weight part)
    (hd : 0 ≤ d) (hab : Option.Rel (fun x y ↦ |x - y| ≤ d) a b) :
    |contribution part a - contribution part b| ≤ weight * d := by
  cases hab with
  | none =>
    rw [sub_self, abs_zero]
    exact mul_nonneg h.nonneg hd
  | some hxy => exact h.abs_sub_le hxy

theorem fallsBy_linear {weight : ℚ} (hweight : 0 ≤ weight) (neutral : ℚ) :
    FallsBy weight fun x ↦ -(x - neutral) * weight where
  nonneg := hweight
  anti hxy := mul_le_mul_of_nonneg_right (by linarith) hweight
  steep _ := le_of_eq (by ring)

theorem fallsBy_ratePart : FallsBy 12 ratePart :=
  (fallsBy_linear (by norm_num) 3).clamp

theorem fallsBy_unemploymentPart : FallsBy 6 unemploymentPart :=
  (fallsBy_linear (by norm_num) 5).clamp

/-- Inflation counts by eight above the target and by four below. -/
theorem fallsBy_inflation : FallsBy 8 fun cpiYoy ↦
    if 0 < cpiYoy - 2 then -(cpiYoy - 2) * 8 else -(cpiYoy - 2) * 4 where
  nonneg := by norm_num
  anti hxy := by split_ifs <;> linarith
  steep hxy := by split_ifs <;> linarith

theorem fallsBy_inflationPart : FallsBy 8 inflationPart :=
  fallsBy_inflation.clamp

end Parts

/-! ### The score -/

namespace RegionReadings

variable {r s : RegionReadings} {d e f : ℚ}

/-- The readings rise, and what was missing stays missing. -/
structure Rises (r s : RegionReadings) : Prop where
  rate : Option.Rel (· ≤ ·) r.rate s.rate
  cpi : Option.Rel (· ≤ ·) r.cpi s.cpi
  unemployment : Option.Rel (· ≤ ·) r.unemployment s.unemployment

/-- The readings differ by no more than these three numbers, and what was missing stays missing. -/
structure Near (d e f : ℚ) (r s : RegionReadings) : Prop where
  rate : Option.Rel (fun x y ↦ |x - y| ≤ d) r.rate s.rate
  cpi : Option.Rel (fun x y ↦ |x - y| ≤ e) r.cpi s.cpi
  unemployment : Option.Rel (fun x y ↦ |x - y| ≤ f) r.unemployment s.unemployment

theorem score_eq (r : RegionReadings) : r.score =
    contribution ratePart r.rate + contribution unemploymentPart r.unemployment +
      contribution inflationPart r.cpi := by
  rw [score, scoreInterestRate_fst, scoreUnemployment_fst, scoreInflation_fst]

/-- **Readings that rise lower the score.** -/
theorem score_anti (h : r.Rises s) : s.score ≤ r.score := by
  have hanti {part : ℚ → ℚ} {weight : ℚ} (hpart : FallsBy weight part) {a b : Option ℚ}
      (hab : Option.Rel (· ≤ ·) a b) : contribution part b ≤ contribution part a := by
    cases hab with
    | none => exact le_rfl
    | some hxy => exact hpart.anti hxy
  rw [score_eq, score_eq]
  exact add_le_add (add_le_add (hanti fallsBy_ratePart h.rate)
    (hanti fallsBy_unemploymentPart h.unemployment)) (hanti fallsBy_inflationPart h.cpi)

/-- **Readings that are close have scores that are close.** -/
theorem abs_score_sub_le (hd : 0 ≤ d) (he : 0 ≤ e) (hf : 0 ≤ f) (h : r.Near d e f s) :
    |r.score - s.score| ≤ 12 * d + 8 * e + 6 * f := by
  have hrate := fallsBy_ratePart.abs_contribution_sub_le hd h.rate
  have hcpi := fallsBy_inflationPart.abs_contribution_sub_le he h.cpi
  have hunemployment := fallsBy_unemploymentPart.abs_contribution_sub_le hf h.unemployment
  rw [score_eq, score_eq]
  rw [abs_le] at hrate hcpi hunemployment ⊢
  constructor <;> linarith

theorem abs_ratePart_le (r : RegionReadings) : |contribution ratePart r.rate| ≤ 40 :=
  abs_contribution_le (by norm_num) (fun _ ↦ abs_clamp_le (by norm_num) _) r.rate

theorem abs_inflationPart_le (r : RegionReadings) : |contribution inflationPart r.cpi| ≤ 30 :=
  abs_contribution_le (by norm_num) (fun _ ↦ abs_clamp_le (by norm_num) _) r.cpi

/-- The bounds of the parts are those of the score. -/
theorem abs_score_le (r : RegionReadings) : |r.score| ≤ 90 := by
  have hunemployment : |contribution unemploymentPart r.unemployment| ≤ 20 :=
    abs_contribution_le (by norm_num) (fun _ ↦ abs_clamp_le (by norm_num) _) r.unemployment
  have hrate := r.abs_ratePart_le
  have hcpi := r.abs_inflationPart_le
  rw [score_eq]
  rw [abs_le] at hrate hcpi hunemployment ⊢
  constructor <;> linarith

/-- Without unemployment the score reaches less far. -/
theorem abs_score_le_of_unemployment (h : r.unemployment = none) : |r.score| ≤ 70 := by
  have hrate := r.abs_ratePart_le
  have hcpi := r.abs_inflationPart_le
  have hnone : contribution unemploymentPart r.unemployment = 0 := by rw [h, contribution]; rfl
  rw [score_eq, hnone]
  rw [abs_le] at hrate hcpi ⊢
  constructor <;> linarith

end RegionReadings

section Region

variable {fetchIndicator fetchIndicator' : String → Option ℚ} {symbol region : String}

/-- Every region that an index is mapped to has indicators, and only two of them unemployment. -/
theorem regionIndicators_of_mem_indexRegionMap :
    ∀ e ∈ indexRegionMap, ∃ keys, regionIndicators.lookup e.2 = some keys ∧
      (e.2 ≠ "US" → e.2 ≠ "PL" → keys.lookup "unemployment" = none) := by
  decide

theorem exists_indicators (h : indexRegion symbol = some region) :
    ∃ keys, regionIndicators.lookup region = some keys ∧
      (region ≠ "US" → region ≠ "PL" → keys.lookup "unemployment" = none) :=
  regionIndicators_of_mem_indexRegionMap _ (mem_of_lookup_eq_some h)

theorem unemployment_regionReadings (h : indexRegion symbol = some region) (hus : region ≠ "US")
    (hpl : region ≠ "PL") : (regionReadings fetchIndicator region).unemployment = none := by
  obtain ⟨keys, hkeys, hnone⟩ := exists_indicators h
  show fetchReading fetchIndicator ((regionIndicators.lookup region).getD []) _ = none
  rw [hkeys, Option.getD_some, fetchReading, hnone hus hpl]
  rfl

/-- The readings come from the indicators of the region. -/
theorem regionReadings_congr (h : ∀ keys ∈ regionIndicators.lookup region, ∀ e ∈ keys,
    fetchIndicator e.2 = fetchIndicator' e.2) :
    regionReadings fetchIndicator region = regionReadings fetchIndicator' region := by
  have hreading (key : String) :
      fetchReading fetchIndicator ((regionIndicators.lookup region).getD []) key =
        fetchReading fetchIndicator' ((regionIndicators.lookup region).getD []) key := by
    rw [fetchReading, fetchReading]
    cases hkeys : regionIndicators.lookup region with
    | none => rfl
    | some keys =>
      cases hname : keys.lookup key with
      | none => simp only [Option.getD_some, hname, Option.bind_none]
      | some name =>
        simp only [Option.getD_some, hname, Option.bind_some]
        exact h keys hkeys _ (mem_of_lookup_eq_some hname)
  rw [regionReadings, regionReadings]
  simp only [hreading]

theorem analyzeIndex_eq (h : indexRegion symbol = some region) :
    analyzeIndex fetchIndicator symbol =
      indexReport symbol region (regionReadings fetchIndicator region) := by
  rw [analyzeIndex, h]

theorem score_indexReport (r : RegionReadings) : (indexReport symbol region r).score = r.score := by
  have hbounds := abs_le.1 r.abs_score_le
  exact clamp_eq_self (by linarith) (by linarith)

end Region

/-- **The score of an index.** Without a region it is zero. Otherwise it is the sum of the three
parts, which the final clamp leaves alone, and reaches ±70 where there is no unemployment and ±90
where there is; nothing but the indicators of the region counts; readings that rise lower the score,
and readings that are close have scores that are close. -/
theorem analyzeIndex_score (fetchIndicator : String → Option ℚ) (symbol : String) :
    (indexRegion symbol = none → (analyzeIndex fetchIndicator symbol).score = 0) ∧
    ∀ region, indexRegion symbol = some region →
      let r := regionReadings fetchIndicator region
      (analyzeIndex fetchIndicator symbol).score = r.score ∧ |r.score| ≤ 90 ∧
      (region ≠ "US" → region ≠ "PL" → |r.score| ≤ 70) ∧
      ∀ fetchIndicator',
        let r' := regionReadings fetchIndicator' region
        ((∀ keys ∈ regionIndicators.lookup region, ∀ e ∈ keys,
            fetchIndicator e.2 = fetchIndicator' e.2) →
          analyzeIndex fetchIndicator' symbol = analyzeIndex fetchIndicator symbol) ∧
        (r.Rises r' →
          (analyzeIndex fetchIndicator' symbol).score ≤
            (analyzeIndex fetchIndicator symbol).score) ∧
        ∀ d e f, 0 ≤ d → 0 ≤ e → 0 ≤ f → r.Near d e f r' →
          |(analyzeIndex fetchIndicator symbol).score -
            (analyzeIndex fetchIndicator' symbol).score| ≤ 12 * d + 8 * e + 6 * f := by
  refine ⟨fun hnone ↦ ?_, fun region hregion ↦ ?_⟩
  · rw [analyzeIndex, hnone]
    rfl
  · intro r
    have hscore (fetchIndicator : String → Option ℚ) :
        (analyzeIndex fetchIndicator symbol).score =
          (regionReadings fetchIndicator region).score := by
      rw [analyzeIndex_eq hregion, score_indexReport]
    refine ⟨hscore fetchIndicator, r.abs_score_le, fun hus hpl ↦ ?_, fun fetchIndicator' ↦ ?_⟩
    · exact r.abs_score_le_of_unemployment (unemployment_regionReadings hregion hus hpl)
    · refine ⟨fun hsame ↦ ?_, fun hrises ↦ ?_, fun d e f hd he hf hnear ↦ ?_⟩
      · rw [analyzeIndex_eq hregion, analyzeIndex_eq hregion, regionReadings_congr hsame]
      · rw [hscore, hscore]
        exact RegionReadings.score_anti hrises
      · rw [hscore, hscore]
        exact RegionReadings.abs_score_sub_le hd he hf hnear

end InvestmentAssistant
