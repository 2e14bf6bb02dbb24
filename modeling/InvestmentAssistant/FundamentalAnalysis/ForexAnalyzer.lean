import InvestmentAssistant.Core.InstrumentClassifier
import InvestmentAssistant.Foundation.Clamp
import InvestmentAssistant.FundamentalAnalysis.FundamentalReport

/-!
# The fundamental analysis of a currency pair

`analyzeForex` compares the interest rates and the inflation rates of the two currencies. Each of
the two differences is weighted and clamped, and counts for nothing when a rate is missing.

A score depends on the symbol through the two currencies alone, and on a currency through its two
rates (`PairReadings`). The inverted pair exchanges the readings, which changes the sign of both
differences; each part of the score is an odd and monotone function of its difference, so the score
of the inverted pair is the opposite one, and the score moves with the rates as it should.

The source of the rates is a function of the indicator's name.
-/

namespace InvestmentAssistant

open Clamp Decimal Dictionary

/-! ### The analyzer -/

/-- `CURRENCY_RATE_MAP`. -/
def currencyRateMap : List (String × String) :=
  [("USD", "fed_funds_rate"), ("EUR", "ecb_rate"), ("GBP", "boe_rate"), ("JPY", "boj_rate"),
    ("AUD", "rba_rate"), ("CAD", "boc_rate"), ("CHF", "snb_rate"), ("NZD", "rbnz_rate")]

/-- `CURRENCY_CPI_MAP`. -/
def currencyCpiMap : List (String × String) :=
  [("USD", "cpi_us"), ("EUR", "cpi_eu"), ("GBP", "cpi_uk"), ("JPY", "cpi_jp"), ("AUD", "cpi_au"),
    ("CAD", "cpi_ca"), ("CHF", "cpi_ch"), ("NZD", "cpi_nz")]

/-- `PAIR_CURRENCIES`. -/
def pairCurrencies : List (String × String × String) :=
  [("EURUSD", "EUR", "USD"), ("GBPUSD", "GBP", "USD"), ("USDJPY", "USD", "JPY"),
    ("USDCHF", "USD", "CHF"), ("AUDUSD", "AUD", "USD"), ("USDCAD", "USD", "CAD"),
    ("EURGBP", "EUR", "GBP"), ("EURJPY", "EUR", "JPY"), ("GBPJPY", "GBP", "JPY"),
    ("NZDUSD", "NZD", "USD"), ("AUDCAD", "AUD", "CAD"), ("AUDCHF", "AUD", "CHF"),
    ("AUDJPY", "AUD", "JPY"), ("CADJPY", "CAD", "JPY"), ("CHFJPY", "CHF", "JPY"),
    ("EURCHF", "EUR", "CHF"), ("EURAUD", "EUR", "AUD"), ("EURCAD", "EUR", "CAD"),
    ("GBPCAD", "GBP", "CAD"), ("GBPCHF", "GBP", "CHF"), ("AUDNZD", "AUD", "NZD"),
    ("NZDJPY", "NZD", "JPY"), ("NZDCAD", "NZD", "CAD"), ("NZDCHF", "NZD", "CHF"),
    ("EURNZD", "EUR", "NZD"), ("GBPNZD", "GBP", "NZD")]

/-- `clean[:3], clean[3:]`. -/
def splitPair (clean : String) : String × String :=
  (String.ofList (clean.toList.take 3), String.ofList (clean.toList.drop 3))

/-- `_parse_pair`. -/
def parsePair (symbol : String) : Except PyException (String × String) :=
  let clean := cleanSymbol symbol
  match pairCurrencies.lookup clean with
  | some pair => .ok pair
  | none =>
    if clean.toList.length = 6 then .ok (splitPair clean)
    else .error (.valueError ("Cannot parse forex pair: " ++ symbol))

/-- The difference of two readings, if both are there. -/
def differential : Option ℚ → Option ℚ → Option ℚ
  | some base, some quote => some (base - quote)
  | _, _ => none

/-- `_compute_rate_differential`. -/
def computeRateDifferential (baseRate quoteRate : Option ℚ) : Option ℚ :=
  differential baseRate quoteRate

/-- `_compute_inflation_differential`. -/
def computeInflationDifferential (baseCpi quoteCpi : Option ℚ) : Option ℚ :=
  differential baseCpi quoteCpi

/-- `rate_score`. -/
def rateScore (rateDiff : ℚ) : ℚ :=
  clamp (-60) 60 (rateDiff * 20)

/-- `inflation_score`. -/
def inflationScore (inflationDiff : ℚ) : ℚ :=
  clamp (-40) 40 (-inflationDiff * 10)

/-- What a component adds to the score; one that is not available adds nothing. -/
def contribution (score : ℚ → ℚ) (diff : Option ℚ) : ℚ :=
  (diff.map score).getD 0

/-- The score before the final clamp. -/
def forexScore (rateDiff inflationDiff : Option ℚ) : ℚ :=
  contribution rateScore rateDiff + contribution inflationScore inflationDiff

/-- `components`. -/
def forexComponents (rateDiff inflationDiff : Option ℚ) : ℕ :=
  rateDiff.toList.length + inflationDiff.toList.length

/-- `_build_forex_summary`. -/
def buildForexSummary (base quote : String) (score : ℚ) (components : ℕ)
    (rateDiff inflationDiff : Option ℚ) : String :=
  if components = 0 then s!"Brak danych makro dla pary {base}/{quote}."
  else
    let parts :=
      (rateDiff.map fun d ↦ s!"roznica stop {base} vs {quote}: {formatSigned 2 d}%").toList ++
        (inflationDiff.map fun d ↦ s!"roznica inflacji: {formatSigned 2 d}pp").toList
    s!"Analiza fundamentalna {base}/{quote}: {directionLabel 10 score} (" ++
      String.intercalate ", " parts ++ ")."

/-- The readings of a pair: the interest rate and the inflation rate of its two currencies. -/
structure PairReadings where
  baseRate : Option ℚ
  quoteRate : Option ℚ
  baseCpi : Option ℚ
  quoteCpi : Option ℚ
  deriving DecidableEq, Repr

/-- What `fetch_indicator` gives for the indicator of a currency, if there is one. -/
def fetchReading (fetchIndicator : String → Option ℚ) (indicators : List (String × String))
    (currency : String) : Option ℚ :=
  (indicators.lookup currency).bind fetchIndicator

/-- The four readings of a pair. -/
def pairReadings (fetchIndicator : String → Option ℚ) (base quote : String) : PairReadings where
  baseRate := fetchReading fetchIndicator currencyRateMap base
  quoteRate := fetchReading fetchIndicator currencyRateMap quote
  baseCpi := fetchReading fetchIndicator currencyCpiMap base
  quoteCpi := fetchReading fetchIndicator currencyCpiMap quote

namespace PairReadings

/-- `rate_diff`. -/
def rateDiff (r : PairReadings) : Option ℚ :=
  computeRateDifferential r.baseRate r.quoteRate

/-- `inflation_diff`. -/
def inflationDiff (r : PairReadings) : Option ℚ :=
  computeInflationDifferential r.baseCpi r.quoteCpi

/-- The score of the readings before the final clamp. -/
def score (r : PairReadings) : ℚ :=
  forexScore r.rateDiff r.inflationDiff

end PairReadings

/-- `indicators`. -/
def forexIndicators (base quote : String) (r : PairReadings) : List (String × IndicatorEntry) :=
  dictOf
    [("base_currency", .text base), ("quote_currency", .text quote),
      (base ++ "_interest_rate", .ofOption r.baseRate),
      (quote ++ "_interest_rate", .ofOption r.quoteRate),
      ("interest_rate_differential", .ofOption r.rateDiff),
      (base ++ "_inflation_yoy", .ofOption r.baseCpi),
      (quote ++ "_inflation_yoy", .ofOption r.quoteCpi),
      ("inflation_differential", .ofOption r.inflationDiff)]

/-- The report on a pair with these readings. -/
def forexReport (base quote : String) (r : PairReadings) : FundamentalReport where
  instrumentType := .forex
  score := clamp (-100) 100 r.score
  score_mem := ⟨le_clamp, clamp_le (by norm_num)⟩
  indicators := forexIndicators base quote r
  summary :=
    buildForexSummary base quote (clamp (-100) 100 r.score)
      (forexComponents r.rateDiff r.inflationDiff) r.rateDiff r.inflationDiff

/-- `analyze_forex`. -/
def analyzeForex (fetchIndicator : String → Option ℚ) (symbol : String) :
    Except PyException FundamentalReport := do
  let (base, quote) ← parsePair symbol
  return forexReport base quote (pairReadings fetchIndicator base quote)

/-! ### The two orders of a pair -/

section Parse

variable {symbol base quote : String}

/-- The table splits its pairs as the fallback does. -/
theorem splitPair_of_mem_pairCurrencies :
    ∀ e ∈ pairCurrencies, e.1.toList.length = 6 ∧ splitPair e.1 = e.2 := by
  decide

/-- `_parse_pair`, without the table. -/
theorem parsePair_eq (symbol : String) : parsePair symbol =
    if (cleanSymbol symbol).toList.length = 6 then .ok (splitPair (cleanSymbol symbol))
    else .error (.valueError ("Cannot parse forex pair: " ++ symbol)) := by
  unfold parsePair
  dsimp only
  rcases hlookup : pairCurrencies.lookup (cleanSymbol symbol) with - | pair
  · rfl
  · obtain ⟨hlength, hsplit⟩ := splitPair_of_mem_pairCurrencies _ (mem_of_lookup_eq_some hlookup)
    rw [if_pos hlength, hsplit]

theorem parsePair_eq_ok_iff : parsePair symbol = .ok (base, quote) ↔
    (cleanSymbol symbol).toList.length = 6 ∧ splitPair (cleanSymbol symbol) = (base, quote) := by
  rw [parsePair_eq]
  split
  · next h => rw [Except.ok.injEq, and_iff_right h]
  · next h => exact iff_of_false (by simp) fun hok ↦ h hok.1

/-- An upper-case letter is not a lower-case one. -/
theorem toUpper_toUpper (c : Char) : c.toUpper.toUpper = c.toUpper := by
  unfold Char.toUpper
  split
  · next h =>
    rw [dif_neg]
    intro hlower
    simp only [UInt32.le_iff_toNat_le, UInt32.toNat_add] at h hlower
    simp at h hlower
    omega
  · rfl

/-- A character of a cleaned symbol. -/
def IsClean (c : Char) : Prop :=
  c.toUpper = c ∧ c ≠ '/' ∧ c ≠ '-'

theorem toList_cleanSymbol (symbol : String) : (cleanSymbol symbol).toList =
    ((symbol.toList.map Char.toUpper).filter (· ≠ '/')).filter (· ≠ '-') := by
  simp [cleanSymbol, removeChar, upper]

theorem isClean_of_mem_cleanSymbol {c : Char} (h : c ∈ (cleanSymbol symbol).toList) :
    IsClean c := by
  rw [toList_cleanSymbol, List.mem_filter, List.mem_filter, List.mem_map] at h
  obtain ⟨⟨⟨d, -, rfl⟩, hslash⟩, hhyphen⟩ := h
  exact ⟨toUpper_toUpper d, of_decide_eq_true hslash, of_decide_eq_true hhyphen⟩

/-- A clean text is its own cleaned symbol. -/
theorem toList_cleanSymbol_eq_self (h : ∀ c ∈ symbol.toList, IsClean c) :
    (cleanSymbol symbol).toList = symbol.toList := by
  have hupper : symbol.toList.map Char.toUpper = symbol.toList :=
    (List.map_congr_left fun c hc ↦ (h c hc).1).trans (List.map_id _)
  rw [toList_cleanSymbol, hupper, List.filter_eq_self.2 fun c hc ↦ decide_eq_true (h c hc).2.1,
    List.filter_eq_self.2 fun c hc ↦ decide_eq_true (h c hc).2.2]

/-- **The inverted pair**: writing the quote currency first exchanges the two currencies. -/
theorem parsePair_inverted (h : parsePair symbol = .ok (base, quote)) :
    parsePair (quote ++ base) = .ok (quote, base) := by
  obtain ⟨hlength, hsplit⟩ := parsePair_eq_ok_iff.1 h
  obtain ⟨rfl, rfl⟩ := Prod.mk.inj hsplit
  have hclean : ∀ c ∈ (String.ofList ((cleanSymbol symbol).toList.drop 3) ++
      String.ofList ((cleanSymbol symbol).toList.take 3)).toList, IsClean c := by
    intro c hc
    rw [String.toList_append, String.toList_ofList, String.toList_ofList, List.mem_append] at hc
    exact isClean_of_mem_cleanSymbol (hc.elim List.mem_of_mem_drop List.mem_of_mem_take)
  have htext := toList_cleanSymbol_eq_self hclean
  rw [String.toList_append, String.toList_ofList, String.toList_ofList] at htext
  have hthree : ((cleanSymbol symbol).toList.drop 3).length = 3 := by
    rw [List.length_drop, hlength]
  refine parsePair_eq_ok_iff.2 ⟨?_, ?_⟩
  · rw [htext, List.length_append, hthree, List.length_take, hlength]
    rfl
  · rw [splitPair, htext, List.take_left' hthree, List.drop_left' hthree]

end Parse

/-! ### Scores -/

section Scores

variable {score : ℚ → ℚ} {x y b b' q q' : Option ℚ}

theorem differential_swap (b q : Option ℚ) : differential q b = (differential b q).map (-·) := by
  rcases b with - | b <;> rcases q with - | q
  · rfl
  · rfl
  · rfl
  · exact congrArg some (neg_sub b q).symm

/-- A missing reading leaves no difference. -/
theorem differential_eq_none (h : b = none ∨ q = none) : differential b q = none := by
  rcases h with rfl | rfl
  · rfl
  · cases b with
    | none => rfl
    | some b => rfl

/-- Differences compare as their readings do. -/
theorem differential_rel {R R' S : ℚ → ℚ → Prop}
    (h : ∀ {b b' q q'}, R b b' → R' q q' → S (b - q) (b' - q')) (hb : Option.Rel R b b')
    (hq : Option.Rel R' q q') : Option.Rel S (differential b q) (differential b' q') := by
  cases hb with
  | none => exact .none
  | some hb =>
    cases hq with
    | none => exact .none
    | some hq => exact .some (h hb hq)

theorem contribution_neg (hodd : ∀ d, score (-d) = -score d) (x : Option ℚ) :
    contribution score (x.map (-·)) = -contribution score x := by
  cases x with
  | none => exact neg_zero.symm
  | some d => exact hodd d

theorem contribution_le {R : ℚ → ℚ → Prop} (h : ∀ {d d'}, R d d' → score d ≤ score d')
    (hxy : Option.Rel R x y) : contribution score x ≤ contribution score y := by
  cases hxy with
  | none => exact le_rfl
  | some hd => exact h hd

theorem abs_contribution_le {bound : ℚ} (hbound : 0 ≤ bound) (h : ∀ d, |score d| ≤ bound)
    (x : Option ℚ) : |contribution score x| ≤ bound := by
  cases x with
  | none => exact abs_zero.trans_le hbound
  | some d => exact h d

theorem rateScore_neg (d : ℚ) : rateScore (-d) = -rateScore d := by
  rw [rateScore, neg_mul, clamp_neg_self (by norm_num), rateScore]

theorem inflationScore_neg (d : ℚ) : inflationScore (-d) = -inflationScore d := by
  rw [inflationScore, neg_mul, clamp_neg_self (by norm_num), inflationScore]

/-- A higher interest rate of the base currency is in favour of the pair. -/
theorem rateScore_mono {d d' : ℚ} (h : d ≤ d') : rateScore d ≤ rateScore d' :=
  clamp_mono (by linarith)

/-- Higher inflation of the base currency is against it. -/
theorem inflationScore_anti {d d' : ℚ} (h : d' ≤ d) : inflationScore d ≤ inflationScore d' :=
  clamp_mono (by linarith)

/-- **The score of the opposite differences is the opposite score.** -/
theorem forexScore_neg (x y : Option ℚ) :
    forexScore (x.map (-·)) (y.map (-·)) = -forexScore x y := by
  rw [forexScore, contribution_neg rateScore_neg, contribution_neg inflationScore_neg, forexScore,
    neg_add]

/-- The two parts keep within bounds of their own, which together are those of the score. -/
theorem abs_forexScore_le (x y : Option ℚ) : |forexScore x y| ≤ 100 := by
  have hrate : |contribution rateScore x| ≤ 60 :=
    abs_contribution_le (by norm_num) (fun _ ↦ abs_clamp_le (by norm_num) _) x
  have hinflation : |contribution inflationScore y| ≤ 40 :=
    abs_contribution_le (by norm_num) (fun _ ↦ abs_clamp_le (by norm_num) _) y
  have hsum := abs_add_le (contribution rateScore x) (contribution inflationScore y)
  rw [forexScore]
  linarith

end Scores

namespace PairReadings

/-- The readings of the inverted pair. -/
def inverted (r : PairReadings) : PairReadings :=
  ⟨r.quoteRate, r.baseRate, r.quoteCpi, r.baseCpi⟩

/-- The readings move in favour of the pair, and what was missing stays missing: the base rate and
the quote inflation do not fall, the quote rate and the base inflation do not rise. -/
structure MovesInFavour (r s : PairReadings) : Prop where
  baseRate : Option.Rel (· ≤ ·) r.baseRate s.baseRate
  quoteRate : Option.Rel (· ≥ ·) r.quoteRate s.quoteRate
  baseCpi : Option.Rel (· ≥ ·) r.baseCpi s.baseCpi
  quoteCpi : Option.Rel (· ≤ ·) r.quoteCpi s.quoteCpi

theorem score_inverted (r : PairReadings) : r.inverted.score = -r.score := by
  rw [score, score, ← forexScore_neg]
  exact congrArg₂ forexScore (differential_swap _ _) (differential_swap _ _)

theorem score_mono {r s : PairReadings} (h : r.MovesInFavour s) : r.score ≤ s.score := by
  refine add_le_add (contribution_le (R := (· ≤ ·)) rateScore_mono ?_)
    (contribution_le (R := (· ≥ ·)) inflationScore_anti ?_)
  · exact differential_rel (fun hb hq ↦ sub_le_sub hb hq) h.baseRate h.quoteRate
  · exact differential_rel (fun hb hq ↦ sub_le_sub hb hq) h.baseCpi h.quoteCpi

theorem clamp_score (r : PairReadings) : clamp (-100) 100 r.score = r.score :=
  clamp_eq_self (abs_le.1 (abs_forexScore_le _ _)).1 (abs_le.1 (abs_forexScore_le _ _)).2

end PairReadings

theorem analyzeForex_eq {fetchIndicator : String → Option ℚ} {symbol base quote : String}
    (h : parsePair symbol = .ok (base, quote)) : analyzeForex fetchIndicator symbol =
      .ok (forexReport base quote (pairReadings fetchIndicator base quote)) := by
  rw [analyzeForex, h]
  rfl

/-- **The score of a currency pair.** It is the sum of its two parts, which the final clamp leaves
alone; a part with a missing reading adds nothing; the inverted pair, under any spelling, has the
opposite score; and the score follows readings that move in favour of the pair. -/
theorem analyzeForex_score (fetchIndicator : String → Option ℚ) {symbol base quote : String}
    (hparse : parsePair symbol = .ok (base, quote)) :
    let r := pairReadings fetchIndicator base quote
    ∃ report, analyzeForex fetchIndicator symbol = .ok report ∧
      (report.score = r.score ∧ -100 ≤ r.score ∧ r.score ≤ 100) ∧
      (r.baseRate = none ∨ r.quoteRate = none →
        report.score = contribution inflationScore r.inflationDiff) ∧
      (r.baseCpi = none ∨ r.quoteCpi = none → report.score = contribution rateScore r.rateDiff) ∧
      parsePair (quote ++ base) = .ok (quote, base) ∧
      (∀ inverted, parsePair inverted = .ok (quote, base) →
        ∃ report', analyzeForex fetchIndicator inverted = .ok report' ∧
          report'.score = -report.score) ∧
      ∀ fetchIndicator', r.MovesInFavour (pairReadings fetchIndicator' base quote) →
        ∃ report', analyzeForex fetchIndicator' symbol = .ok report' ∧
          report.score ≤ report'.score := by
  intro r
  have hscore (r : PairReadings) (base quote : String) :
      (forexReport base quote r).score = r.score :=
    r.clamp_score
  have hbounds := abs_le.1 (abs_forexScore_le r.rateDiff r.inflationDiff)
  refine ⟨_, analyzeForex_eq hparse, ⟨hscore r base quote, hbounds⟩, fun h ↦ ?_, fun h ↦ ?_,
    parsePair_inverted hparse, fun inverted hinverted ↦ ?_, fun fetchIndicator' hmoves ↦ ?_⟩
  · have hnone : r.rateDiff = none := differential_eq_none h
    rw [hscore, PairReadings.score, hnone]
    exact zero_add _
  · have hnone : r.inflationDiff = none := differential_eq_none h
    rw [hscore, PairReadings.score, hnone]
    exact add_zero _
  · refine ⟨_, analyzeForex_eq hinverted, ?_⟩
    rw [hscore, hscore]
    exact r.score_inverted
  · refine ⟨_, analyzeForex_eq hparse, ?_⟩
    rw [hscore, hscore]
    exact PairReadings.score_mono hmoves

/-- The euro against the dollar, with the inflation of the euro zone missing. -/
theorem analyzeForex_score_eurUsd :
    let fetchIndicator (name : String) : Option ℚ :=
      [("ecb_rate", 2), ("fed_funds_rate", 4.5), ("cpi_us", 3)].lookup name
    ∃ report, analyzeForex fetchIndicator "eur/usd" = .ok report ∧
      report.score = contribution rateScore (some (2 - 4.5)) ∧
      ∃ report', analyzeForex fetchIndicator "USDEUR" = .ok report' ∧
        report'.score = -report.score := by
  intro fetchIndicator
  obtain ⟨report, hreport, -, -, hrate, hparse, hinverted, -⟩ :=
    @analyzeForex_score fetchIndicator "eur/usd" "EUR" "USD" (by decide)
  exact ⟨report, hreport, hrate (.inl (by decide)), hinverted "USDEUR" hparse⟩

end InvestmentAssistant
