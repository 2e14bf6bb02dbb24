import InvestmentAssistant.FundamentalAnalysis.BfsCpiSource
import InvestmentAssistant.FundamentalAnalysis.CpiDecoders
import InvestmentAssistant.FundamentalAnalysis.MacroSource
import InvestmentAssistant.Orchestration.AnalysisSteps

/-!
# The fundamental analysis endpoint

`analyzeFundamental` classifies the symbol and hands it to the analyzer of its type; step 4 of the
pipeline does the same, and goes on without fundamental data where the endpoint raises.

A known instrument is answered unless an office behind one of the indicators that it needs raises,
or the COT report of a commodity cannot be printed; FRED does not raise. A symbol that is classified
as a currency pair can always be split; one that is classified as an index has a region exactly when
it is written without hyphens, and otherwise is answered as an unknown index
(`analyzeFundamental_agrees`).
-/

namespace InvestmentAssistant

open CollectLoop Transition

/-! ### The endpoint and the step -/

/-- The detail of a request for an instrument that is not recognised. -/
def unknownInstrument (symbol : String) : PyException :=
  .httpException 400 (s!"Nierozpoznany instrument: {symbol}. " ++
    "Podaj symbol forex (np. EURUSD), surowca (np. GOLD) lub indeksu (np. US500).")

/-- `analyze_fundamental`. -/
def analyzeFundamental (get : String → Except PyException (Json ℚ)) (sources : MacroSources)
    (symbol : String) : Except PyException FundamentalReport := do
  validateSymbol symbol
  match classifyInstrument symbol with
  | none => throw (unknownInstrument symbol)
  | some instrumentType => analyzeFrom get sources.fetchIndicator instrumentType symbol

/-- The components of the pipeline with these analyzers. -/
def AnalysisComponents.withAnalyzers (c : AnalysisComponents)
    (get : String → Except PyException (Json ℚ)) (sources : MacroSources) : AnalysisComponents :=
  { c with
    classifyInstrument := InvestmentAssistant.classifyInstrument
    analyzeFundamentals := fun instrumentType symbol ↦
      FundamentalReport.toFundamentalData <$>
        analyzeFrom get sources.fetchIndicator instrumentType symbol }

/-! ### Symbols that are classified -/

section Classified

variable {symbol : String}

theorem length_of_mem_forexPairs : ∀ pair ∈ forexPairs, pair.toList.length = 6 := by
  decide

/-- A symbol that is classified as a pair can be split. -/
theorem exists_parsePair_of_forex (h : classifyInstrument symbol = some .forex) :
    ∃ base quote, parsePair symbol = .ok (base, quote) := by
  have hlength : (cleanSymbol symbol).toList.length = 6 := by
    simp only [classifyInstrument] at h
    split_ifs at h with hpair hcommodity hindex hletters
    · exact length_of_mem_forexPairs _ hpair
    · cases h
    · cases h
    · exact hletters.1
  exact ⟨_, _, parsePair_eq_ok_iff.2 ⟨hlength, rfl⟩⟩

theorem mem_indexSymbols_of_index (h : classifyInstrument symbol = some .index) :
    cleanSymbol symbol ∈ indexSymbols := by
  simp only [classifyInstrument] at h
  split_ifs at h with hpair hcommodity hindex
  · cases h
  · cases h
  · exact hindex
  · cases h

/-- Every index has a region, under a name without hyphens. -/
theorem indexRegionMap_of_mem_indexSymbols :
    ∀ name ∈ indexSymbols, (indexRegionMap.lookup name).isSome = true := by
  decide

theorem not_hyphen_of_mem_indexRegionMap : ∀ e ∈ indexRegionMap, '-' ∉ e.1.toList := by
  decide

theorem hyphen_mem_slashlessSymbol_iff :
    '-' ∈ (slashlessSymbol symbol).toList ↔ '-' ∈ symbol.toList := by
  simp only [slashlessSymbol, removeChar, upper, String.toList_ofList, List.mem_filter,
    List.mem_map, CharClass.toUpper_eq_iff (show Char.isAlpha '-' = false from rfl),
    exists_eq_right]
  exact and_iff_left (by decide)

/-- **A hyphen hides the region of an index.** -/
theorem indexRegion_eq_none_iff (h : classifyInstrument symbol = some .index) :
    indexRegion symbol = none ↔ '-' ∈ symbol.toList := by
  rw [← hyphen_mem_slashlessSymbol_iff]
  constructor
  · intro hnone
    by_contra hhyphen
    have hclean : cleanSymbol symbol = slashlessSymbol symbol := by
      show removeChar '-' (slashlessSymbol symbol) = _
      rw [removeChar, List.filter_eq_self.2 fun c hc ↦
        decide_eq_true (ne_of_mem_of_not_mem hc hhyphen), String.ofList_toList]
    have hsome := indexRegionMap_of_mem_indexSymbols _ (mem_indexSymbols_of_index h)
    rw [hclean] at hsome
    rw [indexRegion] at hnone
    rw [hnone] at hsome
    cases hsome
  · intro hhyphen
    rcases hregion : indexRegion symbol with - | region
    · rfl
    · have hkey := not_hyphen_of_mem_indexRegionMap (slashlessSymbol symbol, region)
        (Dictionary.mem_of_lookup_eq_some hregion)
      exact absurd hhyphen hkey

end Classified

/-! ### The endpoint and the pipeline -/

section Agreement

variable {get : String → Except PyException (Json ℚ)} {fetch : MacroIndicatorSource}
  {sources : MacroSources} {symbol : String} {instrumentType : InstrumentType}
  {report : FundamentalReport}

theorem analyzeFundamental_of_invalid (h : ¬ SymbolValid symbol) :
    analyzeFundamental get sources symbol =
      .error (.httpException 400 "Invalid symbol format") := by
  rw [analyzeFundamental, validateSymbol, if_neg h]
  rfl

theorem analyzeFundamental_of_unknown (h : SymbolValid symbol)
    (hnone : classifyInstrument symbol = none) :
    analyzeFundamental get sources symbol = .error (unknownInstrument symbol) := by
  rw [analyzeFundamental, validateSymbol, if_pos h, hnone]
  rfl

theorem analyzeFundamental_of_classified (h : SymbolValid symbol)
    (htype : classifyInstrument symbol = some instrumentType) :
    analyzeFundamental get sources symbol =
      analyzeFrom get sources.fetchIndicator instrumentType symbol := by
  rw [analyzeFundamental, validateSymbol, if_pos h, htype]
  rfl

/-- From readings, only the analysis of a commodity can fail. -/
theorem returns_analyzeReadings_iff (htype : classifyInstrument symbol = some instrumentType)
    (readings : String → Option ℚ) :
    Returns (analyzeReadings get readings instrumentType symbol) ↔
      (instrumentType = .commodity → Returns (analyzeCommodity get readings symbol)) := by
  cases instrumentType with
  | forex =>
    obtain ⟨base, quote, hparse⟩ := exists_parsePair_of_forex htype
    rw [analyzeReadings, analyzeForex_eq hparse]
    exact iff_of_true (returns_ok _) fun h ↦ by cases h
  | commodity => exact (imp_iff_right rfl).symm
  | index => exact iff_of_true (returns_ok _) fun h ↦ by cases h

/-- A report says what kind of instrument it is about. -/
theorem instrumentType_of_analyzeReadings {readings : String → Option ℚ}
    (h : analyzeReadings get readings instrumentType symbol = .ok report) :
    report.instrumentType = instrumentType := by
  cases instrumentType with
  | forex =>
    simp only [analyzeReadings, analyzeForex, bind_eq_ok_iff] at h
    obtain ⟨⟨base, quote⟩, -, hreport⟩ := h
    rw [← Except.ok.inj hreport]
    rfl
  | commodity =>
    simp only [analyzeReadings, analyzeCommodity, bind_eq_ok_iff] at h
    obtain ⟨⟨score, desc⟩, -, fromCot, -, hreport⟩ := h
    rw [← Except.ok.inj hreport]
  | index =>
    rw [analyzeReadings] at h
    rw [← Except.ok.inj h, analyzeIndex]
    cases indexRegion symbol <;> rfl

/-- Where the analysis raises, the step has no fundamental data. -/
theorem stepFundamentalAnalysis_eq (c : AnalysisComponents) (p : AnalysisPipeline) :
    p.stepFundamentalAnalysis (c.withAnalyzers get sources).calls (some instrumentType) =
      .ok ((analyzeFrom get sources.fetchIndicator instrumentType p.symbol).toOption.map
        FundamentalReport.toFundamentalData) := by
  show Call.recover (some <$> (c.withAnalyzers get sources).raising
    (FundamentalReport.toFundamentalData <$>
      analyzeFrom get sources.fetchIndicator instrumentType p.symbol)) _ = _
  cases analyzeFrom get sources.fetchIndicator instrumentType p.symbol <;> rfl

/-- **The fundamental endpoint and the pipeline step.** Whatever its API answers, a call of FRED
returns, and what it answers is no exception. The endpoint refuses a symbol with 400 when it is not
valid or not recognised. Otherwise it raises exactly when an office behind an indicator that the
instrument needs raises, or the analysis of a commodity does; and where no speculative position of
its COT report is negative, that is when the report cannot be printed. Else it answers with the
analysis of the readings, and with the unknown index exactly for an index that is written with a
hyphen. The step of the pipeline has what the endpoint answers, or nothing. -/
theorem analyzeFundamental_agrees (get : String → Except PyException (Json ℚ))
    (sources : MacroSources) (symbol : String) :
    (∀ configured before s call indicatorName lookbackDays,
      run (fredStep configured) ({} : FredState ℚ) before = some s → s.phase call = .idle →
      ∀ apis, ∃ fetch : FredFetch ℚ indicatorName lookbackDays, fetch.configured = configured ∧
        fetch.before = before ∧ fetch.call = call ∧ fetch.AnsweredBy apis) ∧
    (∀ indicatorName, Returns (sources.cpi (.fred indicatorName 365)) ∧
      Returns (sources.fredIndicator indicatorName)) ∧
    (¬ SymbolValid symbol → analyzeFundamental get sources symbol =
      .error (.httpException 400 "Invalid symbol format")) ∧
    (SymbolValid symbol → classifyInstrument symbol = none →
      analyzeFundamental get sources symbol = .error (unknownInstrument symbol)) ∧
    ∀ instrumentType, SymbolValid symbol → classifyInstrument symbol = some instrumentType →
      (Returns (analyzeFundamental get sources symbol) ↔
        (∀ indicator ∈ neededIndicators symbol instrumentType, ¬ sources.OfficeRaises indicator) ∧
          (instrumentType = .commodity →
            Returns (analyzeCommodity get sources.fetchIndicator.readings symbol))) ∧
      (instrumentType = .commodity →
        (∀ w, cotWeeks (get (cotPath (cotSymbol symbol))) = some w → w.nonCommercial.Nonneg) →
        (Returns (analyzeCommodity get sources.fetchIndicator.readings symbol) ↔
          ∀ w, cotWeeks (get (cotPath (cotSymbol symbol))) = some w → w.Reported → w.Printable)) ∧
      (∀ report, analyzeFundamental get sources symbol = .ok report →
        analyzeReadings get sources.fetchIndicator.readings instrumentType symbol = .ok report ∧
        report.instrumentType = instrumentType) ∧
      (instrumentType = .index → (indexRegion symbol = none ↔ '-' ∈ symbol.toList)) ∧
      ∀ (c : AnalysisComponents) (p : AnalysisPipeline), p.symbol = symbol →
        p.stepFundamentalAnalysis (c.withAnalyzers get sources).calls (some instrumentType) =
          .ok ((analyzeFundamental get sources symbol).toOption.map
            FundamentalReport.toFundamentalData) := by
  refine ⟨fun _ _ _ _ indicatorName lookbackDays hrun hidle apis ↦
      exists_fredFetch hrun hidle indicatorName lookbackDays apis,
    fun indicatorName ↦ ⟨sources.returns_fred indicatorName 365,
      sources.returns_fredIndicator indicatorName⟩,
    analyzeFundamental_of_invalid, analyzeFundamental_of_unknown,
    fun instrumentType hvalid htype ↦ ?_⟩
  rw [analyzeFundamental_of_classified hvalid htype]
  refine ⟨?_, fun _ hnonneg ↦ returns_iff_printable hnonneg, fun report hreport ↦ ?_, ?_, ?_⟩
  · rw [returns_analyzeFrom_iff, returns_analyzeReadings_iff htype]
    simp only [MacroSources.returns_fetchIndicator_iff]
  · have hreturns := (returns_analyzeFrom_iff.1 ⟨report, hreport⟩).1
    have hreadings := (analyzeFrom_eq hreturns).symm.trans hreport
    exact ⟨hreadings, instrumentType_of_analyzeReadings hreadings⟩
  · rintro rfl
    exact indexRegion_eq_none_iff htype
  · rintro c p rfl
    exact stepFundamentalAnalysis_eq c p

end Agreement

/-- A service that has not what it is asked for. -/
def notFound : Except PyException HttpResponse :=
  .ok { statusCode := 404, text := "", contentType := "text/plain" }

/-- FRED has no API key, the offices have no data, and the Canadian one answers with a month of the
year 0. -/
def statcanRaises : MacroSources where
  fred := unconfiguredFetch
  bls := (fetchUsCpiYoy exactRuntime notFound {}).1
  statcan :=
    (fetchCaCpiYoy exactRuntime (answerWith "TIME_PERIOD,OBS_VALUE\n0000-01,1" "text/csv") {}).1
  bfs := (fetchChCpiYoy exactRuntime notFound {}).1
  today := 0
  countryToday := 0
  jpCpiYoy := (fetchJpCpiYoy exactRuntime notFound {}).1

/-- Then the dollar against the Canadian dollar cannot be analysed; the euro against the pound
can. -/
theorem analyzeFundamental_agrees_office :
    let get (_ : String) : Except PyException (Json ℚ) := .error (.other "offline")
    ¬ Returns (analyzeFundamental get statcanRaises "USDCAD") ∧
      Returns (analyzeFundamental get statcanRaises "EURGBP") := by
  intro get
  obtain ⟨-, -, -, -, hcanada⟩ := analyzeFundamental_agrees get statcanRaises "USDCAD"
  obtain ⟨-, -, -, -, hpound⟩ := analyzeFundamental_agrees get statcanRaises "EURGBP"
  constructor
  · intro hreturns
    have hneeded := ((hcanada .forex (by decide) (by decide)).1.1 hreturns).1
    have hstatcan : statcanRaises.statcan = .error (.valueError "year 0 is out of range") := by
      decide +kernel
    refine hneeded "cpi_ca" (by decide) (.inl ⟨.statcan, by decide, ?_, ?_⟩)
    · exact ⟨none, by decide +kernel, fun _ h ↦ by cases h⟩
    · show ¬ Returns statcanRaises.statcan
      rw [hstatcan]
      exact not_returns_error _
  · have hfour : ∀ indicator ∈ neededIndicators "EURGBP" .forex,
        indicator ∉ ["cpi_us", "cpi_ca", "cpi_ch", "cpi_jp"] := by decide
    refine (hpound .forex (by decide) (by decide)).1.2 ⟨fun indicator hmem hraises ↦ ?_,
      fun h ↦ by cases h⟩
    exact hfour indicator hmem (MacroSources.mem_of_officeRaises hraises)

end InvestmentAssistant
