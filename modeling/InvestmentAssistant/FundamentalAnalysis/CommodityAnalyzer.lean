import InvestmentAssistant.Foundation.Clamp
import InvestmentAssistant.FundamentalAnalysis.CotReport
import InvestmentAssistant.FundamentalAnalysis.FundamentalReport

/-!
# The fundamental analysis of a commodity

`analyzeCommodity` adds the positioning of the speculators, the strength of the dollar and the real
interest rate. Each part is zero when its data are missing, and each keeps within bounds of its own;
the first one because the net position is at most the sum of the two it is the difference of.

The summary prints the net position and its change as integers, which raises for a fraction, whole
or not: a response with a number such as `1500.0` cannot be analysed, unless there are no
speculative positions at all (`analyzeCommodity_returns_iff`). Beyond the range of floats even an
integer is refused, by the declared type of the indicators.

The source of the rates is a function of the indicator's name, and the response to the one request
is a parameter.
-/

namespace InvestmentAssistant

open Clamp CollectLoop Decimal Dictionary

/-! ### The analyzer -/

/-- `change_text`. -/
def cotChangeText : Option PyNumber → Except PyException String
  | none => return ""
  | some change => do
    let direction := if 0 < change.value then "wzrost" else "spadek"
    let printed ← change.formatD
    return s!", zmiana tyg.: {direction} ({printed})"

/-- `_score_cot`. -/
def scoreCot : Option CotReport → Except PyException (ℚ × String)
  | none => return (0, "Brak danych COT")
  | some cotData => do
    let total ← cotData.nonCommercialLong.add cotData.nonCommercialShort
    if total.value = 0 then return (0, "Brak pozycji spekulacyjnych")
    else
      let ratio ← cotData.netNonCommercial.trueDiv total
      let changeText ← cotChangeText cotData.netNonCommercialChange
      let net ← cotData.netNonCommercial.formatD
      return (ratio * 50,
        s!"COT net spekulacyjne: {net} (ratio: {formatSigned 2 ratio}{changeText})")

/-- `_score_usd_strength`. -/
def scoreUsdStrength (fetchIndicator : String → Option ℚ) : ℚ × String :=
  match fetchIndicator "fed_funds_rate" with
  | none => (0, "Brak danych o stopach Fed")
  | some fedRate =>
    let baseline : ℚ := 3
    let strength := if baseline < fedRate then "silny" else "slaby"
    (clamp (-30) 30 (-(fedRate - baseline) * 10),
      s!"Stopa Fed: {formatFixed 2 fedRate}% (USD {strength})")

/-- `_score_rates_environment`. -/
def scoreRatesEnvironment (fetchIndicator : String → Option ℚ) : ℚ × String :=
  match fetchIndicator "fed_funds_rate", fetchIndicator "cpi_us" with
  | some fedRate, some cpiYoy =>
    let realRate := fedRate - cpiYoy
    (clamp (-20) 20 (-realRate * 5),
      s!"Stopa realna: {formatSigned 1 realRate}% " ++
        s!"(Fed {formatFixed 2 fedRate}% - inflacja {formatFixed 1 cpiYoy}%)")
  | _, _ => (0, "Brak danych o stopach realnych")

/-- A number as an indicator, which is declared a `float`; a missing one is `None`. -/
def indicatorOf : Option PyNumber → Except PyException IndicatorEntry
  | none => return .missing
  | some number => .number <$> number.asFloat

/-- The indicators of the report, if there is one. -/
def cotIndicators : Option CotReport → Except PyException (List (String × IndicatorEntry))
  | none => return []
  | some cotData => do
    let net ← indicatorOf (some cotData.netNonCommercial)
    let netCommercial ← indicatorOf (some cotData.netCommercial)
    let change ← indicatorOf cotData.netNonCommercialChange
    return [("net_non_commercial", net), ("net_commercial", netCommercial),
      ("net_non_commercial_change", change)]

/-- The three component scores and the indicators of the report. -/
def commodityIndicators (cotScore usdScore ratesScore : ℚ)
    (fromCot : List (String × IndicatorEntry)) : List (String × IndicatorEntry) :=
  setItems
    (dictOf
      [("cot_score", .number cotScore), ("usd_strength_score", .number usdScore),
        ("rates_environment_score", .number ratesScore)])
    fromCot

/-- `analyze_commodity`. -/
def analyzeCommodity (get : String → Except PyException (Json ℚ))
    (fetchIndicator : String → Option ℚ) (symbol : String) :
    Except PyException FundamentalReport := do
  let cotData := fetchCotReport get (cotSymbol symbol)
  let (cotScore, cotDesc) ← scoreCot cotData
  let (usdScore, usdDesc) := scoreUsdStrength fetchIndicator
  let (ratesScore, ratesDesc) := scoreRatesEnvironment fetchIndicator
  let totalScore := clamp (-100) 100 (cotScore + usdScore + ratesScore)
  let fromCot ← cotIndicators cotData
  return {
    instrumentType := .commodity
    score := totalScore
    score_mem := ⟨le_clamp, clamp_le (by norm_num)⟩
    indicators := commodityIndicators cotScore usdScore ratesScore fromCot
    summary :=
      s!"Analiza fundamentalna {symbol}: {directionLabel 10 totalScore}. {cotDesc}. {usdDesc}. " ++
        ratesDesc ++ "." }

/-! ### The speculative positions -/

/-- A quotient of at most one is in the range of floats. -/
theorem one_lt_floatRange : (1 : ℚ) < 2 ^ 1024 - 2 ^ 970 := by
  have hsplit : (2 : ℚ) ^ 1024 = 2 ^ 970 * 2 ^ 54 := pow_add 2 970 54
  have hlarge : (1 : ℚ) ≤ 2 ^ 970 := one_le_pow₀ one_le_two
  rw [hsplit]
  generalize (2 : ℚ) ^ 970 = x at hlarge ⊢
  linarith

namespace Positions

/-- Both positions are integers. -/
def whole (p : Positions) : Bool :=
  p.long.isInt && p.short.isInt

/-- The sum of the positions. -/
def total (p : Positions) : PyNumber :=
  .sum p.long p.short

/-- No position is negative. -/
def Nonneg (p : Positions) : Prop :=
  0 ≤ p.long.value ∧ 0 ≤ p.short.value

instance (p : Positions) : Decidable p.Nonneg :=
  inferInstanceAs (Decidable (_ ∧ _))

variable {p : Positions}

@[simp] theorem isInt_net : p.net.isInt = p.whole :=
  PyNumber.isInt_diff

/-- The net position is at most the sum of the positions. -/
theorem abs_net_le (h : p.Nonneg) : |p.net.value| ≤ p.total.value := by
  obtain ⟨hlong, hshort⟩ := h
  rw [net, total, PyNumber.value_diff, PyNumber.value_sum]
  exact abs_le.2 ⟨by linarith, by linarith⟩

theorem abs_ratio_le (h : p.Nonneg) : |p.net.value / p.total.value| ≤ 1 := by
  rw [abs_div]
  exact div_le_one_of_le₀ ((abs_net_le h).trans (le_abs_self _)) (abs_nonneg _)

/-- The ratio of the positions is in the range of floats, whatever the positions. -/
theorem trueDiv_net_total (h : p.Nonneg) (htotal : p.total.value ≠ 0) :
    p.net.trueDiv p.total = .ok (p.net.value / p.total.value) := by
  have hkinds : p.net.isInt = p.total.isInt :=
    PyNumber.isInt_diff.trans PyNumber.isInt_sum.symm
  have hnet : PyNumber.clash p.net p.total = false := by
    rw [PyNumber.clash, hkinds, bne_self_eq_false, Bool.false_and]
  have hrange : ¬(2 ^ 1024 - 2 ^ 970 ≤ |p.net.value / p.total.value|) :=
    not_le.2 ((abs_ratio_le h).trans_lt one_lt_floatRange)
  rw [PyNumber.trueDiv, if_neg htotal, hnet, decide_eq_false hrange, Bool.and_false, Bool.or_false]
  rfl

end Positions

namespace CotWeeks

/-- The report can be printed and stored: the speculative positions are integers, unless there are
none at all, and no net position, nor the change, is out of the range of floats. -/
structure Printable (w : CotWeeks) : Prop where
  whole : w.nonCommercial.total.value = 0 ∨
    w.nonCommercial.whole = true ∧ ∀ p ∈ w.previous, p.nonCommercial.whole = true
  net : w.nonCommercial.net.tooLarge = false
  netCommercial : w.commercial.net.tooLarge = false
  change : ∀ p ∈ w.previous,
    (PyNumber.diff w.nonCommercial.net p.nonCommercial.net).tooLarge = false

end CotWeeks

section Score

variable {w : CotWeeks}

theorem returns_cotChangeText_iff (change : Option PyNumber) :
    Returns (cotChangeText change) ↔ ∀ c ∈ change, c.isInt = true := by
  cases change with
  | none => exact iff_of_true (returns_ok _) (by simp)
  | some c =>
    have hprinted : Returns (cotChangeText (some c)) ↔ Returns c.formatD := returns_map_iff
    rw [hprinted, PyNumber.returns_formatD_iff]
    simp

/-- The sum of the speculative positions can be computed when their difference can. -/
theorem add_nonCommercial (h : w.Reported) :
    w.differences.nonCommercialLong.add w.differences.nonCommercialShort =
      .ok w.nonCommercial.total :=
  if_neg (Bool.eq_false_iff.1 h.nonCommercial)

/-- The change of the net position is an integer when both net positions are. -/
theorem change_isInt_iff (hwhole : w.nonCommercial.whole = true) :
    (∀ c ∈ w.differences.netNonCommercialChange, c.isInt = true) ↔
      ∀ p ∈ w.previous, p.nonCommercial.whole = true := by
  rw [CotWeeks.differences]
  rcases w.previous with - | p
  · simp
  · simp [hwhole]

/-- The score of a report is the ratio of the two sums; only the printing can fail. -/
theorem scoreCot_differences (h : w.Reported) (hnonneg : w.nonCommercial.Nonneg) :
    scoreCot (some w.differences) =
      if w.nonCommercial.total.value = 0 then return (0, "Brak pozycji spekulacyjnych")
      else do
        let changeText ← cotChangeText w.differences.netNonCommercialChange
        let net ← w.nonCommercial.net.formatD
        let ratio := w.nonCommercial.net.value / w.nonCommercial.total.value
        return (ratio * 50,
          s!"COT net spekulacyjne: {net} (ratio: {formatSigned 2 ratio}{changeText})") := by
  have hadd := add_nonCommercial h
  rw [scoreCot, hadd]
  show (if w.nonCommercial.total.value = 0 then _ else _) = _
  split
  · rfl
  · next hne =>
    have hdiv : w.differences.netNonCommercial.trueDiv w.nonCommercial.total = _ :=
      Positions.trueDiv_net_total hnonneg hne
    rw [hdiv]
    rfl

/-- **The score of a report is computed exactly when what is printed are integers.** -/
theorem returns_scoreCot_iff (h : w.Reported) (hnonneg : w.nonCommercial.Nonneg) :
    Returns (scoreCot (some w.differences)) ↔ w.nonCommercial.total.value = 0 ∨
      w.nonCommercial.whole = true ∧ ∀ p ∈ w.previous, p.nonCommercial.whole = true := by
  rw [scoreCot_differences h hnonneg]
  split
  · next hzero => exact iff_of_true (returns_ok _) (.inl hzero)
  · next hne =>
    have hnet : Returns w.nonCommercial.net.formatD ↔ w.nonCommercial.whole = true :=
      PyNumber.returns_formatD_iff.trans (by rw [Positions.isInt_net])
    rw [or_iff_right hne, returns_bind_iff]
    simp only [returns_bind_iff]
    constructor
    · rintro ⟨text, htext, net, hprinted, -⟩
      have hwhole := hnet.1 ⟨net, hprinted⟩
      exact ⟨hwhole, (change_isInt_iff hwhole).1 ((returns_cotChangeText_iff _).1 ⟨text, htext⟩)⟩
    · rintro ⟨hwhole, hprevious⟩
      obtain ⟨text, htext⟩ :=
        (returns_cotChangeText_iff _).2 ((change_isInt_iff hwhole).2 hprevious)
      obtain ⟨net, hprinted⟩ := hnet.2 hwhole
      exact ⟨text, htext, net, hprinted, returns_ok _⟩

/-- The score of a report is within its bounds. -/
theorem abs_le_of_scoreCot (h : w.Reported) (hnonneg : w.nonCommercial.Nonneg) {score : ℚ}
    {desc : String} (hscore : scoreCot (some w.differences) = .ok (score, desc)) :
    |score| ≤ 50 := by
  rw [scoreCot_differences h hnonneg] at hscore
  split at hscore
  · cases hscore
    norm_num
  · simp only [bind_eq_ok_iff] at hscore
    obtain ⟨text, -, net, -, hpair⟩ := hscore
    cases hpair
    have hratio := Positions.abs_ratio_le hnonneg
    rw [abs_mul, abs_of_nonneg (by norm_num : (0 : ℚ) ≤ 50)]
    linarith

/-- **A number is stored exactly when it is in the range of floats.** -/
theorem returns_indicatorOf_iff (number : Option PyNumber) :
    Returns (indicatorOf number) ↔ ∀ n ∈ number, n.tooLarge = false := by
  cases number with
  | none => exact iff_of_true (returns_ok _) (by simp)
  | some n =>
    rw [indicatorOf, returns_map_iff, PyNumber.asFloat]
    cases hlarge : n.tooLarge with
    | true => exact iff_of_false (not_returns_error _) (by simp [hlarge])
    | false => exact iff_of_true (returns_ok _) (by simp [hlarge])

theorem returns_cotIndicators_iff :
    Returns (cotIndicators (some w.differences)) ↔
      w.nonCommercial.net.tooLarge = false ∧ w.commercial.net.tooLarge = false ∧
        ∀ p ∈ w.previous,
          (PyNumber.diff w.nonCommercial.net p.nonCommercial.net).tooLarge = false := by
  have hchange : (∀ c ∈ w.differences.netNonCommercialChange, c.tooLarge = false) ↔
      ∀ p ∈ w.previous,
        (PyNumber.diff w.nonCommercial.net p.nonCommercial.net).tooLarge = false := by
    rw [CotWeeks.differences]
    rcases w.previous with - | p
    · simp
    · simp
  have hparts : Returns (cotIndicators (some w.differences)) ↔
      Returns (indicatorOf (some w.nonCommercial.net)) ∧
        Returns (indicatorOf (some w.commercial.net)) ∧
        Returns (indicatorOf w.differences.netNonCommercialChange) := by
    simp only [cotIndicators, returns_bind_iff]
    constructor
    · rintro ⟨net, hnet, netC, hnetC, change, hchange, -⟩
      exact ⟨⟨net, hnet⟩, ⟨netC, hnetC⟩, ⟨change, hchange⟩⟩
    · rintro ⟨⟨net, hnet⟩, ⟨netC, hnetC⟩, ⟨change, hchange⟩⟩
      exact ⟨net, hnet, netC, hnetC, change, hchange, returns_ok _⟩
  rw [hparts, returns_indicatorOf_iff, returns_indicatorOf_iff, returns_indicatorOf_iff, hchange]
  simp

/-- The keys of the report are not those of the scores. -/
theorem lookup_cotScore {fromCot : List (String × IndicatorEntry)} {cotData : Option CotReport}
    (h : cotIndicators cotData = .ok fromCot) (cotScore usdScore ratesScore : ℚ) :
    (commodityIndicators cotScore usdScore ratesScore fromCot).lookup "cot_score" =
      some (.number cotScore) := by
  have hkeys : ∀ e ∈ fromCot, e.1 ≠ "cot_score" := by
    cases cotData with
    | none =>
      cases h
      simp
    | some cotData =>
      simp only [cotIndicators, bind_eq_ok_iff] at h
      obtain ⟨net, -, netC, -, change, -, hlist⟩ := h
      cases hlist
      simp
  rw [commodityIndicators, lookup_setItems_of_ne hkeys]
  simp [dictOf, setItems, lookup_setItem]

end Score

/-! ### When a commodity can be analysed -/

section Analysis

variable {get : String → Except PyException (Json ℚ)} {fetchIndicator : String → Option ℚ}
  {symbol : String}

/-- The score of the positioning and the indicators of the report are what can fail. -/
theorem returns_analyzeCommodity_iff : Returns (analyzeCommodity get fetchIndicator symbol) ↔
    Returns (scoreCot (fetchCotReport get (cotSymbol symbol))) ∧
      Returns (cotIndicators (fetchCotReport get (cotSymbol symbol))) := by
  simp only [analyzeCommodity, returns_bind_iff]
  constructor
  · rintro ⟨score, hscore, fromCot, hfromCot, -⟩
    exact ⟨⟨score, hscore⟩, ⟨fromCot, hfromCot⟩⟩
  · rintro ⟨⟨score, hscore⟩, ⟨fromCot, hfromCot⟩⟩
    exact ⟨score, hscore, fromCot, hfromCot, returns_ok _⟩

/-- The report stores the score of the positioning. -/
theorem exists_scoreCot_of_analyzeCommodity {report : FundamentalReport}
    (h : analyzeCommodity get fetchIndicator symbol = .ok report) :
    ∃ score desc, scoreCot (fetchCotReport get (cotSymbol symbol)) = .ok (score, desc) ∧
      report.indicators.lookup "cot_score" = some (.number score) := by
  simp only [analyzeCommodity, bind_eq_ok_iff] at h
  obtain ⟨⟨score, desc⟩, hscore, fromCot, hfromCot, hreport⟩ := h
  cases hreport
  exact ⟨score, desc, hscore, lookup_cotScore hfromCot ..⟩

/-- Positions that are not negative give a positioning score within its bounds. -/
theorem abs_cotScore_le
    (hnonneg : ∀ w, cotWeeks (get (cotPath (cotSymbol symbol))) = some w →
      w.nonCommercial.Nonneg) {score : ℚ} {desc : String}
    (h : scoreCot (fetchCotReport get (cotSymbol symbol)) = .ok (score, desc)) : |score| ≤ 50 := by
  rcases hreport : fetchCotReport get (cotSymbol symbol) with - | r
  · rw [hreport] at h
    cases h
    norm_num
  · obtain ⟨w, hw, hreported, rfl⟩ := fetchCotReport_eq_some_iff.1 hreport
    exact abs_le_of_scoreCot hreported (hnonneg w hw) (hreport ▸ h)

/-- The analysis returns when there is no report, or one that can be printed and stored. -/
theorem returns_iff_printable
    (hnonneg : ∀ w, cotWeeks (get (cotPath (cotSymbol symbol))) = some w →
      w.nonCommercial.Nonneg) :
    Returns (analyzeCommodity get fetchIndicator symbol) ↔
      ∀ w, cotWeeks (get (cotPath (cotSymbol symbol))) = some w → w.Reported → w.Printable := by
  rw [returns_analyzeCommodity_iff]
  rcases hreport : fetchCotReport get (cotSymbol symbol) with - | r
  · refine iff_of_true ⟨returns_ok _, returns_ok _⟩ fun w hw hreported ↦ ?_
    have hsome := fetchCotReport_eq_some_iff.2 ⟨w, hw, hreported, rfl⟩
    rw [hreport] at hsome
    cases hsome
  · obtain ⟨w, hw, hreported, rfl⟩ := fetchCotReport_eq_some_iff.1 hreport
    rw [returns_scoreCot_iff hreported (hnonneg w hw), returns_cotIndicators_iff]
    constructor
    · rintro ⟨hwhole, hnet, hnetC, hchange⟩ w' hw' -
      obtain rfl := Option.some.inj (hw.symm.trans hw')
      exact ⟨hwhole, hnet, hnetC, hchange⟩
    · intro h
      obtain ⟨hwhole, hnet, hnetC, hchange⟩ := h w hw hreported
      exact ⟨hwhole, hnet, hnetC, hchange⟩

end Analysis

/-- **When a commodity can be analysed.** For a response without negative speculative positions,
`analyze_commodity` returns a score within its bounds, with a positioning score within its own,
exactly when the response gives no report, or one that can be printed and stored. -/
theorem analyzeCommodity_returns_iff {get : String → Except PyException (Json ℚ)}
    {fetchIndicator : String → Option ℚ} {symbol : String}
    (hnonneg : ∀ w, cotWeeks (get (cotPath (cotSymbol symbol))) = some w →
      w.nonCommercial.Nonneg) :
    (∃ report, analyzeCommodity get fetchIndicator symbol = .ok report ∧
      (-100 ≤ report.score ∧ report.score ≤ 100) ∧
      ∃ cotScore, report.indicators.lookup "cot_score" = some (.number cotScore) ∧
        -50 ≤ cotScore ∧ cotScore ≤ 50) ↔
    ∀ w, cotWeeks (get (cotPath (cotSymbol symbol))) = some w → w.Reported → w.Printable := by
  rw [← @returns_iff_printable get fetchIndicator symbol hnonneg]
  constructor
  · rintro ⟨report, hreport, -⟩
    exact ⟨report, hreport⟩
  · rintro ⟨report, hreport⟩
    obtain ⟨score, desc, hscore, hlookup⟩ := exists_scoreCot_of_analyzeCommodity hreport
    obtain ⟨hlow, hhigh⟩ := abs_le.1 (abs_cotScore_le hnonneg hscore)
    exact ⟨report, hreport, report.score_mem, score, hlookup, hlow, hhigh⟩

/-- A response with one record of two speculative positions. -/
def cotResponse (long short : Json ℚ) : Json ℚ :=
  .list [.dict [("nonCommercialLong", long), ("nonCommercialShort", short)]]

/-- What is read from such a record. -/
def speculativeWeek (long short : PyNumber) : CotWeeks :=
  ⟨none, ⟨.int 0, .int 0⟩, ⟨long, short⟩, ⟨.int 0, .int 0⟩, none⟩

/-- Positions that are integers are analysed. -/
theorem analyzeCommodity_returns_iff_integers :
    ∃ report, analyzeCommodity (fun _ ↦ .ok (cotResponse (.int 200) (.int 100))) (fun _ ↦ none)
      "GOLD" = .ok report ∧ (-100 ≤ report.score ∧ report.score ≤ 100) ∧
      ∃ cotScore, report.indicators.lookup "cot_score" = some (.number cotScore) ∧
        -50 ≤ cotScore ∧ cotScore ≤ 50 := by
  have hweeks : cotWeeks (.ok (cotResponse (.int 200) (.int 100))) =
      some (speculativeWeek (.int 200) (.int 100)) := rfl
  refine (analyzeCommodity_returns_iff fun w hw ↦ ?_).2 fun w hw _ ↦ ?_
  · obtain rfl := Option.some.inj (hweeks.symm.trans hw)
    decide
  · obtain rfl := Option.some.inj (hweeks.symm.trans hw)
    exact ⟨.inr ⟨rfl, by simp [speculativeWeek]⟩, by decide +kernel, by decide +kernel,
      by simp [speculativeWeek]⟩

/-- A fraction among the positions cannot be printed as an integer. -/
theorem analyzeCommodity_fraction :
    analyzeCommodity (fun _ ↦ .ok (cotResponse (.float 1) (.int 1))) (fun _ ↦ none) "GOLD" =
      .error (.valueError "Unknown format code 'd' for object of type 'float'") := by
  -- the two positions have a sum and a difference, but the difference is a fraction
  have hreported : (speculativeWeek (.float 1) (.int 1)).Reported :=
    ⟨rfl, by decide +kernel, rfl, by simp [speculativeWeek]⟩
  have hcot : fetchCotReport (fun _ ↦ .ok (cotResponse (.float 1) (.int 1))) (cotSymbol "GOLD") =
      some (speculativeWeek (.float 1) (.int 1)).differences :=
    fetchCotReport_eq_some_iff.2 ⟨_, rfl, hreported, rfl⟩
  have htotal : (speculativeWeek (.float 1) (.int 1)).nonCommercial.total.value ≠ 0 := by
    decide +kernel
  have hscore := (scoreCot_differences hreported (by decide)).trans (if_neg htotal)
  rw [analyzeCommodity, hcot, hscore]
  rfl

end InvestmentAssistant
