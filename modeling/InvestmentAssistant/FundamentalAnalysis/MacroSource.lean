import InvestmentAssistant.FundamentalAnalysis.CommodityAnalyzer
import InvestmentAssistant.FundamentalAnalysis.CpiFallbackSource
import InvestmentAssistant.FundamentalAnalysis.FredCalls
import InvestmentAssistant.FundamentalAnalysis.IndexAnalyzer
import Mathlib.Data.List.ReduceOption

/-!
# The macro source

`MacroDataSource` sends each indicator to one of three sources: the inflation of the United States,
Canada and Switzerland to the CPI fallback, that of Japan to the OECD, everything else to FRED. What
FRED answers is what its calls return (`FredFetch`), and they do not raise. An office that has
failed to parse an answer does, and so does the analysis that has asked for it.

Here the analyzers ask a source that may raise (`analyzeForexFrom` and so on). When no indicator
that an instrument needs raises, they compute what they compute from the readings, and otherwise
they raise as well (`returns_analyzeFrom_iff`).
-/

namespace InvestmentAssistant

open CollectLoop

/-! ### The facade -/

/-- An observation of FRED, by the month of its period. A period is a date, so it has one. -/
def FredObservation.toMacro {F : Type} (observation : FredObservation F) :
    Option (MacroObservation F) :=
  let period := mkDate (Calendar.yearOf observation.period) (Calendar.monthOf observation.period)
  period.toOption.map fun month ↦ ⟨observation.value, month, observation.source, observation.unit⟩

/-- The sources that `MacroDataSource` asks: the calls of the FRED source, the offices behind the
fallback and the OECD; and the days on which the observations of FRED and of the offices are
judged. -/
structure MacroSources where
  fred : ∀ (indicatorName : String) (lookbackDays : ℤ), FredFetch ℚ indicatorName lookbackDays
  bls : Except PyException (Option (MacroObservation ℚ))
  statcan : Except PyException (Option (MacroObservation ℚ))
  bfs : Except PyException (Option (MacroObservation ℚ))
  today : ℤ
  countryToday : ℤ
  jpCpiYoy : Except PyException (Option ℚ)

/-- What a source that may raise answers to an indicator. -/
abbrev MacroIndicatorSource := String → Except PyException (Option ℚ)

namespace MacroSources

/-- The sources of the fallback. -/
def cpi (sources : MacroSources) : CpiSources ℚ
  | .fred indicatorName lookbackDays => do
    return (← (sources.fred indicatorName lookbackDays).answer).bind FredObservation.toMacro
  | .bls => sources.bls
  | .statcan => sources.statcan
  | .bfs => sources.bfs

/-- `FredSource.fetch_indicator`. -/
def fredIndicator (sources : MacroSources) : MacroIndicatorSource := fun indicatorName ↦ do
  return (← (sources.fred indicatorName 365).answer).map FredObservation.value

/-- `MacroDataSource.fetch_indicator`. -/
def fetchIndicator (sources : MacroSources) : MacroIndicatorSource := fun indicatorName ↦
  if indicatorName ∈ ["cpi_us", "cpi_ca", "cpi_ch"] then
    (InvestmentAssistant.fetchIndicator sources.cpi sources.today sources.countryToday
      indicatorName 365).1
  else if indicatorName = "cpi_jp" then sources.jpCpiYoy
  else sources.fredIndicator indicatorName

end MacroSources

/-! ### The analyzers over a source that may raise -/

/-- The reading of an indicator, if there is one of the name. -/
def askReading (fetch : MacroIndicatorSource) (indicators : List (String × String))
    (name : String) : Except PyException (Option ℚ) :=
  match indicators.lookup name with
  | none => .ok none
  | some indicator => fetch indicator

/-- `analyze_forex`. -/
def analyzeForexFrom (fetch : MacroIndicatorSource) (symbol : String) :
    Except PyException FundamentalReport := do
  let (base, quote) ← parsePair symbol
  let baseRate ← askReading fetch currencyRateMap base
  let quoteRate ← askReading fetch currencyRateMap quote
  let baseCpi ← askReading fetch currencyCpiMap base
  let quoteCpi ← askReading fetch currencyCpiMap quote
  return forexReport base quote ⟨baseRate, quoteRate, baseCpi, quoteCpi⟩

/-- `_score_usd_strength`. -/
def askUsdStrength (fetch : MacroIndicatorSource) : Except PyException (ℚ × String) := do
  let fedRate ← fetch "fed_funds_rate"
  return scoreUsdStrength fun _ ↦ fedRate

/-- `_score_rates_environment`. -/
def askRatesEnvironment (fetch : MacroIndicatorSource) : Except PyException (ℚ × String) := do
  let fedRate ← fetch "fed_funds_rate"
  let cpiYoy ← fetch "cpi_us"
  return scoreRatesEnvironment fun name ↦ if name = "fed_funds_rate" then fedRate else cpiYoy

/-- `analyze_commodity`. -/
def analyzeCommodityFrom (get : String → Except PyException (Json ℚ))
    (fetch : MacroIndicatorSource) (symbol : String) : Except PyException FundamentalReport := do
  let cotData := fetchCotReport get (cotSymbol symbol)
  let cot ← scoreCot cotData
  let usd ← askUsdStrength fetch
  let rates ← askRatesEnvironment fetch
  let totalScore := Clamp.clamp (-100) 100 (cot.1 + usd.1 + rates.1)
  let fromCot ← cotIndicators cotData
  return {
    instrumentType := .commodity
    score := totalScore
    score_mem := clamp_mem_scoreRange _
    indicators := commodityIndicators cot.1 usd.1 rates.1 fromCot
    summary :=
      s!"Analiza fundamentalna {symbol}: {directionLabel 10 totalScore}. {cot.2}. {usd.2}. " ++
        rates.2 ++ "." }

/-- `analyze_index`. -/
def analyzeIndexFrom (fetch : MacroIndicatorSource) (symbol : String) :
    Except PyException FundamentalReport := do
  match indexRegion symbol with
  | none => return unknownIndexReport symbol
  | some region =>
    let regionKeys := (regionIndicators.lookup region).getD []
    let rate ← askReading fetch regionKeys "interest_rate"
    let cpi ← askReading fetch regionKeys "cpi"
    let unemployment ← askReading fetch regionKeys "unemployment"
    let gdp ← askReading fetch regionKeys "gdp"
    return indexReport symbol region ⟨rate, cpi, unemployment, gdp⟩

/-- The analyzer of an instrument type. -/
def analyzeFrom (get : String → Except PyException (Json ℚ)) (fetch : MacroIndicatorSource)
    (instrumentType : InstrumentType) (symbol : String) : Except PyException FundamentalReport :=
  match instrumentType with
  | .forex => analyzeForexFrom fetch symbol
  | .commodity => analyzeCommodityFrom get fetch symbol
  | .index => analyzeIndexFrom fetch symbol

/-! ### What is asked for -/

/-- The indicators that an analysis asks for. -/
def neededIndicators (symbol : String) : InstrumentType → List String
  | .forex =>
    match parsePair symbol with
    | .error _ => []
    | .ok (base, quote) =>
      [currencyRateMap.lookup base, currencyRateMap.lookup quote, currencyCpiMap.lookup base,
        currencyCpiMap.lookup quote].reduceOption
  | .commodity => ["fed_funds_rate", "cpi_us"]
  | .index =>
    match indexRegion symbol with
    | none => []
    | some region =>
      let regionKeys := (regionIndicators.lookup region).getD []
      [regionKeys.lookup "interest_rate", regionKeys.lookup "cpi",
        regionKeys.lookup "unemployment", regionKeys.lookup "gdp"].reduceOption

/-- The readings of a source; what raises counts as missing. -/
def MacroIndicatorSource.readings (fetch : MacroIndicatorSource) (indicator : String) : Option ℚ :=
  (fetch indicator).toOption.join

/-! ### When an analysis returns -/

section Returns

variable {get : String → Except PyException (Json ℚ)} {fetch : MacroIndicatorSource}
  {indicators : List (String × String)} {name symbol base quote region : String} {β : Type}

theorem fetch_eq_ok (h : Returns (fetch name)) : fetch name = .ok (fetch.readings name) := by
  obtain ⟨reading, hreading⟩ := h
  rw [MacroIndicatorSource.readings, hreading]
  rfl

/-- A question is one step of an analysis: it raises, or the analysis goes on with the reading. -/
theorem returns_fetch_bind_iff {f : Option ℚ → Except PyException β} :
    Returns (fetch name >>= f) ↔ Returns (fetch name) ∧ Returns (f (fetch.readings name)) := by
  rw [returns_bind_iff]
  constructor
  · rintro ⟨reading, hreading, hf⟩
    have hok := fetch_eq_ok ⟨reading, hreading⟩
    rw [hreading] at hok
    exact ⟨⟨reading, hreading⟩, Except.ok.inj hok ▸ hf⟩
  · rintro ⟨hfetch, hf⟩
    exact ⟨_, fetch_eq_ok hfetch, hf⟩

/-- So it is for an indicator that may not have a name. -/
theorem returns_askReading_bind_iff {f : Option ℚ → Except PyException β} :
    Returns (askReading fetch indicators name >>= f) ↔
      (∀ indicator ∈ indicators.lookup name, Returns (fetch indicator)) ∧
        Returns (f (fetchReading fetch.readings indicators name)) := by
  rw [askReading, fetchReading]
  cases indicators.lookup name with
  | none => simp [returns_bind_iff]
  | some indicator => simp [returns_fetch_bind_iff]

theorem askReading_eq (h : ∀ indicator ∈ indicators.lookup name, Returns (fetch indicator)) :
    askReading fetch indicators name = .ok (fetchReading fetch.readings indicators name) := by
  rw [askReading, fetchReading]
  cases hlookup : indicators.lookup name with
  | none => rfl
  | some indicator => exact fetch_eq_ok (h indicator hlookup)

variable {i₁ i₂ i₃ i₄ : List (String × String)} {n₁ n₂ n₃ n₄ : String}
  {result : Option ℚ → Option ℚ → Option ℚ → Option ℚ → FundamentalReport}

variable (fetch i₁ i₂ i₃ i₄ n₁ n₂ n₃ n₄ result) in
/-- Four questions, and a report. -/
def askFour : Except PyException FundamentalReport := do
  let a ← askReading fetch i₁ n₁
  let b ← askReading fetch i₂ n₂
  let c ← askReading fetch i₃ n₃
  let d ← askReading fetch i₄ n₄
  return result a b c d

variable (i₁ i₂ i₃ i₄ n₁ n₂ n₃ n₄) in
/-- The indicators of four questions. -/
def fourIndicators : List String :=
  [i₁.lookup n₁, i₂.lookup n₂, i₃.lookup n₃, i₄.lookup n₄].reduceOption

theorem forall_fourIndicators_iff {P : String → Prop} :
    (∀ i ∈ fourIndicators i₁ i₂ i₃ i₄ n₁ n₂ n₃ n₄, P i) ↔
      (∀ i ∈ i₁.lookup n₁, P i) ∧ (∀ i ∈ i₂.lookup n₂, P i) ∧ (∀ i ∈ i₃.lookup n₃, P i) ∧
        ∀ i ∈ i₄.lookup n₄, P i := by
  simp only [fourIndicators, List.reduceOption_mem_iff, List.mem_cons, List.not_mem_nil, or_false,
    Option.mem_def]
  constructor
  · exact fun h ↦ ⟨fun i hi ↦ h i (.inl hi.symm), fun i hi ↦ h i (.inr (.inl hi.symm)),
      fun i hi ↦ h i (.inr (.inr (.inl hi.symm))), fun i hi ↦ h i (.inr (.inr (.inr hi.symm)))⟩
  · rintro ⟨h₁, h₂, h₃, h₄⟩ i (h | h | h | h)
    · exact h₁ i h.symm
    · exact h₂ i h.symm
    · exact h₃ i h.symm
    · exact h₄ i h.symm

theorem returns_askFour_iff : Returns (askFour fetch i₁ i₂ i₃ i₄ n₁ n₂ n₃ n₄ result) ↔
    ∀ i ∈ fourIndicators i₁ i₂ i₃ i₄ n₁ n₂ n₃ n₄, Returns (fetch i) := by
  rw [forall_fourIndicators_iff, askFour]
  simp only [returns_askReading_bind_iff]
  exact ⟨fun h ↦ ⟨h.1, h.2.1, h.2.2.1, h.2.2.2.1⟩,
    fun h ↦ ⟨h.1, h.2.1, h.2.2.1, h.2.2.2, returns_ok _⟩⟩

theorem askFour_eq (h : ∀ i ∈ fourIndicators i₁ i₂ i₃ i₄ n₁ n₂ n₃ n₄, Returns (fetch i)) :
    askFour fetch i₁ i₂ i₃ i₄ n₁ n₂ n₃ n₄ result =
      .ok (result (fetchReading fetch.readings i₁ n₁) (fetchReading fetch.readings i₂ n₂)
        (fetchReading fetch.readings i₃ n₃) (fetchReading fetch.readings i₄ n₄)) := by
  obtain ⟨h₁, h₂, h₃, h₄⟩ := forall_fourIndicators_iff.1 h
  rw [askFour, askReading_eq h₁, askReading_eq h₂, askReading_eq h₃, askReading_eq h₄]
  rfl

/-! ### The instrument types -/

theorem neededIndicators_forex (h : parsePair symbol = .ok (base, quote)) :
    neededIndicators symbol .forex =
      fourIndicators currencyRateMap currencyRateMap currencyCpiMap currencyCpiMap
        base quote base quote := by
  rw [neededIndicators, h]
  rfl

theorem analyzeForexFrom_eq_askFour (h : parsePair symbol = .ok (base, quote)) :
    analyzeForexFrom fetch symbol =
      askFour fetch currencyRateMap currencyRateMap currencyCpiMap currencyCpiMap
        base quote base quote
        fun baseRate quoteRate baseCpi quoteCpi ↦
          forexReport base quote ⟨baseRate, quoteRate, baseCpi, quoteCpi⟩ := by
  rw [analyzeForexFrom, h]
  rfl

theorem neededIndicators_index (h : indexRegion symbol = some region) :
    neededIndicators symbol .index =
      let keys := (regionIndicators.lookup region).getD []
      fourIndicators keys keys keys keys "interest_rate" "cpi" "unemployment" "gdp" := by
  rw [neededIndicators, h]
  rfl

theorem analyzeIndexFrom_eq_askFour (h : indexRegion symbol = some region) :
    analyzeIndexFrom fetch symbol =
      let keys := (regionIndicators.lookup region).getD []
      askFour fetch keys keys keys keys "interest_rate" "cpi" "unemployment" "gdp"
        fun rate cpi unemployment gdp ↦
          indexReport symbol region ⟨rate, cpi, unemployment, gdp⟩ := by
  rw [analyzeIndexFrom, h]
  rfl

theorem returns_askUsdStrength_iff :
    Returns (askUsdStrength fetch) ↔ Returns (fetch "fed_funds_rate") := by
  rw [askUsdStrength, returns_fetch_bind_iff]
  exact and_iff_left (returns_ok _)

theorem returns_askRatesEnvironment_iff : Returns (askRatesEnvironment fetch) ↔
    Returns (fetch "fed_funds_rate") ∧ Returns (fetch "cpi_us") := by
  rw [askRatesEnvironment, returns_fetch_bind_iff, returns_fetch_bind_iff]
  exact and_congr_right fun _ ↦ and_iff_left (returns_ok _)

/-- A commodity is analysed when the positioning can be scored and stored and neither of the two
indicators raises. -/
theorem returns_analyzeCommodityFrom_iff : Returns (analyzeCommodityFrom get fetch symbol) ↔
    (∀ indicator ∈ neededIndicators symbol .commodity, Returns (fetch indicator)) ∧
      Returns (analyzeCommodity get fetch.readings symbol) := by
  rw [returns_analyzeCommodity_iff, analyzeCommodityFrom, neededIndicators, List.forall_mem_cons,
    List.forall_mem_singleton, ← returns_askRatesEnvironment_iff]
  simp only [returns_bind_iff]
  constructor
  · rintro ⟨cot, hcot, usd, -, rates, hrates, fromCot, hfromCot, -⟩
    exact ⟨⟨rates, hrates⟩, ⟨cot, hcot⟩, ⟨fromCot, hfromCot⟩⟩
  · rintro ⟨hrates, ⟨cot, hcot⟩, ⟨fromCot, hfromCot⟩⟩
    obtain ⟨usd, husd⟩ := returns_askUsdStrength_iff.2 (returns_askRatesEnvironment_iff.1 hrates).1
    obtain ⟨rates, hrates⟩ := hrates
    exact ⟨cot, hcot, usd, husd, rates, hrates, fromCot, hfromCot, returns_ok _⟩

theorem analyzeCommodityFrom_eq
    (h : ∀ indicator ∈ neededIndicators symbol .commodity, Returns (fetch indicator)) :
    analyzeCommodityFrom get fetch symbol = analyzeCommodity get fetch.readings symbol := by
  rw [neededIndicators, List.forall_mem_cons, List.forall_mem_singleton] at h
  rw [analyzeCommodityFrom, askUsdStrength, askRatesEnvironment, fetch_eq_ok h.1, fetch_eq_ok h.2]
  rfl

/-- The analysis of an instrument from its readings. -/
def analyzeReadings (get : String → Except PyException (Json ℚ)) (readings : String → Option ℚ)
    (instrumentType : InstrumentType) (symbol : String) : Except PyException FundamentalReport :=
  match instrumentType with
  | .forex => analyzeForex readings symbol
  | .commodity => analyzeCommodity get readings symbol
  | .index => .ok (analyzeIndex readings symbol)

variable {instrumentType : InstrumentType}

/-- **An analysis whose indicators do not raise** is that of its readings. -/
theorem analyzeFrom_eq
    (h : ∀ indicator ∈ neededIndicators symbol instrumentType, Returns (fetch indicator)) :
    analyzeFrom get fetch instrumentType symbol =
      analyzeReadings get fetch.readings instrumentType symbol := by
  cases instrumentType with
  | forex =>
    rcases hparse : parsePair symbol with e | ⟨base, quote⟩
    · show analyzeForexFrom fetch symbol = analyzeForex fetch.readings symbol
      rw [analyzeForexFrom, analyzeForex, hparse]
      rfl
    · rw [neededIndicators_forex hparse] at h
      show analyzeForexFrom fetch symbol = analyzeForex fetch.readings symbol
      rw [analyzeForexFrom_eq_askFour hparse, askFour_eq h, analyzeForex_eq hparse]
      rfl
  | commodity => exact analyzeCommodityFrom_eq h
  | index =>
    show analyzeIndexFrom fetch symbol = .ok (analyzeIndex fetch.readings symbol)
    rcases hregion : indexRegion symbol with - | region
    · rw [analyzeIndexFrom, analyzeIndex, hregion]
      rfl
    · rw [neededIndicators_index hregion] at h
      rw [analyzeIndexFrom_eq_askFour hregion, analyzeIndex_eq hregion]
      exact askFour_eq h

/-- **When an analysis returns**: no indicator that it needs raises, and the analysis of the
readings returns. -/
theorem returns_analyzeFrom_iff : Returns (analyzeFrom get fetch instrumentType symbol) ↔
    (∀ indicator ∈ neededIndicators symbol instrumentType, Returns (fetch indicator)) ∧
      Returns (analyzeReadings get fetch.readings instrumentType symbol) := by
  cases instrumentType with
  | forex =>
    show Returns (analyzeForexFrom fetch symbol) ↔ _ ∧ Returns (analyzeForex fetch.readings symbol)
    rcases hparse : parsePair symbol with e | ⟨base, quote⟩
    · rw [analyzeForexFrom, analyzeForex, hparse]
      exact iff_of_false (not_returns_error e) fun h ↦ not_returns_error e h.2
    · rw [analyzeForexFrom_eq_askFour hparse, returns_askFour_iff, neededIndicators_forex hparse,
        analyzeForex_eq hparse, and_iff_left (returns_ok _)]
  | commodity => exact returns_analyzeCommodityFrom_iff
  | index =>
    refine Iff.trans ?_ (and_iff_left (returns_ok _)).symm
    show Returns (analyzeIndexFrom fetch symbol) ↔ _
    rcases hregion : indexRegion symbol with - | region
    · rw [analyzeIndexFrom, neededIndicators, hregion]
      exact iff_of_true (returns_ok _) fun _ h ↦ absurd h List.not_mem_nil
    · rw [analyzeIndexFrom_eq_askFour hregion, neededIndicators_index hregion]
      exact returns_askFour_iff

end Returns

/-! ### What raises in the facade -/

namespace MacroSources

variable {sources : MacroSources} {indicator : String}

/-- The office of an indicator is asked and raises: one of the three behind the fallback, after FRED
had no fresh observation, or the OECD. -/
def OfficeRaises (sources : MacroSources) (indicator : String) : Prop :=
  (∃ office, countryQuery indicator = some office ∧
      FredInsufficient sources.cpi sources.today indicator 365 ∧ ¬ Returns (sources.cpi office)) ∨
    indicator = "cpi_jp" ∧ ¬ Returns sources.jpCpiYoy

/-- FRED does not raise. -/
theorem returns_fred (sources : MacroSources) (indicatorName : String) (lookbackDays : ℤ) :
    Returns (sources.cpi (.fred indicatorName lookbackDays)) := by
  obtain ⟨observation, h⟩ := (sources.fred indicatorName lookbackDays).returns_answer
  exact ⟨observation.bind FredObservation.toMacro, by rw [cpi, h]; rfl⟩

theorem returns_fredIndicator (sources : MacroSources) (indicatorName : String) :
    Returns (sources.fredIndicator indicatorName) := by
  obtain ⟨observation, h⟩ := (sources.fred indicatorName 365).returns_answer
  exact ⟨observation.map FredObservation.value, by rw [fredIndicator, h]; rfl⟩

theorem countryQuery_of_not_mem (h : indicator ∉ ["cpi_us", "cpi_ca", "cpi_ch"]) :
    countryQuery indicator = none := by
  simp only [List.mem_cons, List.not_mem_nil, or_false, not_or] at h
  rw [countryQuery, if_neg h.1, if_neg h.2.1, if_neg h.2.2]

/-- The fallback raises exactly when the office is asked and raises. -/
theorem returns_fallback_iff (h : indicator ∈ ["cpi_us", "cpi_ca", "cpi_ch"]) :
    Returns (InvestmentAssistant.fetchIndicator sources.cpi sources.today sources.countryToday
        indicator 365).1 ↔
      ∀ office, countryQuery indicator = some office →
        FredInsufficient sources.cpi sources.today indicator 365 →
          Returns (sources.cpi office) := by
  obtain ⟨office, hoffice, -⟩ := exists_countryQuery h
  rcases fred_cases sources.cpi sources.today indicator 365 with
    ⟨e, he⟩ | ⟨observation, hobservation, hfresh⟩ | hinsufficient
  · obtain ⟨answer, hanswer⟩ := sources.returns_fred indicator 365
    rw [he] at hanswer
    cases hanswer
  · rw [fetchIndicator_of_fredFresh h hobservation hfresh]
    exact iff_of_true (returns_ok _) fun _ _ hnot ↦ absurd hfresh (hnot.not_fresh hobservation)
  · rw [fetchIndicator_of_fredInsufficient h hoffice hinsufficient]
    have hmap := @returns_map_iff _ _ _ (sources.cpi office) fun answer ↦
      (answer.filter (isObservationFresh cpiMaxAgeDays sources.countryToday)).map
        MacroObservation.value
    refine hmap.trans ⟨fun hreturns office' hoffice' _ ↦ ?_, fun hall ↦ hall office hoffice
      hinsufficient⟩
    obtain rfl := Option.some.inj (hoffice.symm.trans hoffice')
    exact hreturns

/-- **The facade raises exactly when the office of the indicator does.** -/
theorem returns_fetchIndicator_iff :
    Returns (sources.fetchIndicator indicator) ↔ ¬ sources.OfficeRaises indicator := by
  rw [fetchIndicator, OfficeRaises]
  split_ifs with hfallback hjp
  · have hne : indicator ≠ "cpi_jp" := by
      rintro rfl
      exact absurd hfallback (by decide)
    rw [returns_fallback_iff hfallback, or_iff_left fun h ↦ hne h.1]
    simp only [not_exists, not_and, not_not]
  · rw [countryQuery_of_not_mem hfallback, and_iff_right hjp]
    simp
  · rw [countryQuery_of_not_mem hfallback]
    exact iff_of_true (sources.returns_fredIndicator indicator) (by simp [hjp])

/-- Only four indicators have an office. -/
theorem mem_of_officeRaises (h : sources.OfficeRaises indicator) :
    indicator ∈ ["cpi_us", "cpi_ca", "cpi_ch", "cpi_jp"] := by
  rcases h with ⟨office, hoffice, -⟩ | ⟨rfl, -⟩
  · by_contra hnot
    have hfallback : indicator ∉ ["cpi_us", "cpi_ca", "cpi_ch"] := fun hmem ↦
      hnot (List.mem_append_left ["cpi_jp"] hmem)
    rw [countryQuery_of_not_mem hfallback] at hoffice
    cases hoffice
  · decide

end MacroSources

end InvestmentAssistant
