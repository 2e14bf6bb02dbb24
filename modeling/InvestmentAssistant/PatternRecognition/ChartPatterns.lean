import InvestmentAssistant.PatternRecognition.LevelDetection

/-!
# Geometric chart patterns

`detectChartPatterns` fits a line through the local highs and one through the local lows of the last
`lookback` candles, and names the figure between them by the two slopes. `argrelextrema` and
`polyfit` are parameters.

Wedges, triangles and pennants are drawn between lines that approach each other, but the test for
that looks at one line at a time. So lines that point the same way pass it although they move apart:
`convergesAsNamed_iff`.
-/

namespace InvestmentAssistant

open Decimal

/-- `np.polyfit(x, y, 1)`: slope and intercept. -/
abbrev Polyfit := List ℚ → List ℚ → Except PyException (ℚ × ℚ)

/-- Where `xs[-n:]` starts and `xs[:-n]` ends. -/
def sliceStart (length : ℕ) (n : ℤ) : ℕ :=
  if 0 < n then length - n.toNat else (-n).toNat

/-- `xs[-n:]`. -/
def sliceFrom {α : Type} (xs : List α) (n : ℤ) : List α :=
  xs.drop (sliceStart xs.length n)

/-- `xs[:-n]`. -/
def sliceTo {α : Type} (xs : List α) (n : ℤ) : List α :=
  xs.take (sliceStart xs.length n)

/-- `_fit_line`. -/
def fitLine (polyfit : Polyfit) (x : List ℕ) (y : List ℚ) : Except PyException (Option (ℚ × ℚ)) :=
  if x.length < 2 then .ok none else (polyfit (x.map fun i ↦ (i : ℚ)) y).map some

/-- The two fitted lines. -/
structure Trendlines where
  upperSlope : ℚ
  upperIntercept : ℚ
  lowerSlope : ℚ
  lowerIntercept : ℚ
  deriving DecidableEq, Repr

/-- The lines through the peaks and the troughs of a window, if there are enough of them. -/
def trendlines (argrelextrema : Extrema) (polyfit : Polyfit) (data : List OHLCVData) (order : ℤ) :
    Except PyException (Option Trendlines) := do
  let highs := data.map (·.high)
  let lows := data.map (·.low)
  let peakIdx ← argrelextrema greaterEqual highs order
  let troughIdx ← argrelextrema lessEqual lows order
  if peakIdx.length < 3 ∨ troughIdx.length < 3 then return none
  else
    let upper ← fitLine polyfit peakIdx (← peakIdx.mapM (itemAt highs))
    let lower ← fitLine polyfit troughIdx (← troughIdx.mapM (itemAt lows))
    match upper, lower with
    | some (upperSlope, upperIntercept), some (lowerSlope, lowerIntercept) =>
      return some ⟨upperSlope, upperIntercept, lowerSlope, lowerIntercept⟩
    | _, _ => return none

/-- `_has_prior_impulse`. -/
def hasPriorImpulse (closes : List ℚ) (lookback : ℤ) : Except PyException Bool :=
  if (closes.length : ℤ) ≤ lookback then .ok false
  else
    let preData := sliceTo closes lookback
    if preData.length < 10 then .ok false
    else do
      let last10 := sliceFrom preData 10
      let last ← lastItem last10
      let first ← itemAt last10 0
      let move ← floatDiv |last - first| first
      return decide (3 < move * 100)

/-- `converging`. -/
def isConverging (normUpper normLower : ℚ) : Bool :=
  decide (normUpper < -0.05) || decide (0.05 < normLower)

/-- `parallel`. -/
def isParallel (normUpper normLower : ℚ) : Bool :=
  decide (|normUpper - normLower| < 0.15)

/-- `_classify_pattern`: the name of the pattern, whether it is bullish and its confidence. -/
def classifyPattern (normUpper normLower : ℚ) (converging parallel preImpulse : Bool) :
    Option (String × Bool × ℚ) :=
  if converging && !parallel && decide (normUpper < -0.1 ∧ 0.1 < normLower) then
    some ("Symmetric Triangle", true, 0.55)
  else if converging && !parallel && decide (normUpper < -0.1 ∧ |normLower| < 0.1) then
    some ("Descending Triangle", false, 0.6)
  else if converging && !parallel && decide (|normUpper| < 0.1 ∧ 0.1 < normLower) then
    some ("Ascending Triangle", true, 0.6)
  else if preImpulse && converging then some ("Pennant", true, 0.6)
  else if preImpulse && parallel && decide (|normUpper| < 0.3 ∧ |normLower| < 0.3) then
    if normUpper < 0 then some ("Bull Flag", true, 0.6) else some ("Bear Flag", false, 0.6)
  else if decide (0.05 < normUpper ∧ 0.05 < normLower) && converging then
    some ("Rising Wedge", false, 0.55)
  else if decide (normUpper < -0.05 ∧ normLower < -0.05) && converging then
    some ("Falling Wedge", true, 0.55)
  else none

/-- What `_classify_pattern` is called with. -/
structure ClassifyArguments where
  normUpper : ℚ
  normLower : ℚ
  converging : Bool
  parallel : Bool
  preImpulse : Bool
  deriving DecidableEq, Repr

/-- The arguments that two lines and the closes of the window give. -/
def classifyArguments (lines : Trendlines) (closes : List ℚ) (lookback : ℤ) :
    Except PyException ClassifyArguments := do
  let midX : ℚ := lookback / 2
  let upperAtMid := lines.upperSlope * midX + lines.upperIntercept
  let lowerAtMid := lines.lowerSlope * midX + lines.lowerIntercept
  let channelWidth := if lowerAtMid < upperAtMid then upperAtMid - lowerAtMid else 1
  let normUpper := lines.upperSlope / channelWidth * lookback
  let normLower := lines.lowerSlope / channelWidth * lookback
  let preImpulse ← hasPriorImpulse closes lookback
  return {
    normUpper
    normLower
    converging := isConverging normUpper normLower
    parallel := isParallel normUpper normLower
    preImpulse }

/-- The call of `_classify_pattern`, if it is reached, with the lines that lead to it. -/
def classifyCall (argrelextrema : Extrema) (polyfit : Polyfit) (ohlcv : List OHLCVData)
    (lookback order : ℤ) : Except PyException (Option (Trendlines × ClassifyArguments)) :=
  if (ohlcv.length : ℤ) < lookback then .ok none
  else do
    let data := sliceFrom ohlcv lookback
    match ← trendlines argrelextrema polyfit data order with
    | none => return none
    | some lines =>
      let arguments ← classifyArguments lines (data.map (·.close)) lookback
      return some (lines, arguments)

/-- The fields of a detected chart pattern. -/
def chartPatternFields (lines : Trendlines) (totalCandles : ℕ) (lookback : ℤ) (name : String)
    (bullish : Bool) (confidence : ℚ) : PatternFields where
  patternType := name
  confidence := confidence
  description := name ++ " detected (upper slope: " ++ formatFixed 4 lines.upperSlope ++
    ", lower slope: " ++ formatFixed 4 lines.lowerSlope ++ ")"
  location := "last_" ++ toString lookback ++ "_candles"
  bullish := bullish
  category := .chartPattern
  detectedAtIndex := some (totalCandles - lookback)

/-- `detect_chart_patterns`. -/
def detectChartPatterns (argrelextrema : Extrema) (polyfit : Polyfit) (ohlcv : List OHLCVData)
    (lookback : ℤ := 60) (order : ℤ := 5) : Except PyException (List PatternDetection) := do
  match ← classifyCall argrelextrema polyfit ohlcv lookback order with
  | none => return []
  | some (lines, a) =>
    match classifyPattern a.normUpper a.normLower a.converging a.parallel a.preImpulse with
    | none => return []
    | some (name, bullish, confidence) =>
      let pattern ← (chartPatternFields lines ohlcv.length lookback name bullish
        confidence).validate
      return [pattern]

/-! ### Converging figures -/

/-- The figures between lines that approach each other. -/
def convergingFigures : List String :=
  ["Symmetric Triangle", "Descending Triangle", "Ascending Triangle", "Pennant", "Rising Wedge",
    "Falling Wedge"]

/-- What the name of a figure says of the slopes; the flat side of a triangle is the flatter one. -/
def SlopesMatch (normUpper normLower : ℚ) : String → Prop
  | "Symmetric Triangle" => normUpper < 0 ∧ 0 < normLower
  | "Descending Triangle" => normUpper < 0 ∧ |normLower| < |normUpper|
  | "Ascending Triangle" => 0 < normLower ∧ |normUpper| < |normLower|
  | "Rising Wedge" => 0 < normUpper ∧ 0 < normLower
  | "Falling Wedge" => normUpper < 0 ∧ normLower < 0
  | _ => True

/-- Whatever converging figure is reported, the lines approach each other and the name matches the
slopes. -/
def ConvergesAsNamed (normUpper normLower : ℚ) (preImpulse : Bool) : Prop :=
  ∀ name bullish confidence,
    classifyPattern normUpper normLower (isConverging normUpper normLower)
      (isParallel normUpper normLower) preImpulse = some (name, bullish, confidence) →
    name ∈ convergingFigures → normUpper < normLower ∧ SlopesMatch normUpper normLower name

section Convergence

variable {normUpper normLower : ℚ} {converging parallel preImpulse : Bool}

/-- A converging figure is reported only of lines that pass the test, and the slopes match. -/
theorem of_classifyPattern_eq_some {name : String} {bullish : Bool} {confidence : ℚ}
    (h : classifyPattern normUpper normLower converging parallel preImpulse =
      some (name, bullish, confidence)) (hname : name ∈ convergingFigures) :
    converging = true ∧ SlopesMatch normUpper normLower name := by
  unfold classifyPattern at h
  split at h
  next hguard =>
    obtain ⟨rfl, -⟩ := Prod.mk.inj (Option.some.inj h)
    simp only [Bool.and_eq_true, decide_eq_true_eq] at hguard
    exact ⟨hguard.1.1, by linarith [hguard.2.1], by linarith [hguard.2.2]⟩
  split at h
  next hguard =>
    obtain ⟨rfl, -⟩ := Prod.mk.inj (Option.some.inj h)
    simp only [Bool.and_eq_true, decide_eq_true_eq] at hguard
    have hneg : normUpper < 0 := by linarith [hguard.2.1]
    refine ⟨hguard.1.1, hneg, ?_⟩
    rw [abs_of_neg hneg]
    linarith [hguard.2.1, hguard.2.2]
  split at h
  next hguard =>
    obtain ⟨rfl, -⟩ := Prod.mk.inj (Option.some.inj h)
    simp only [Bool.and_eq_true, decide_eq_true_eq] at hguard
    have hpos : 0 < normLower := by linarith [hguard.2.2]
    refine ⟨hguard.1.1, hpos, ?_⟩
    rw [abs_of_pos hpos]
    linarith [hguard.2.1, hguard.2.2]
  split at h
  next hguard =>
    obtain ⟨rfl, -⟩ := Prod.mk.inj (Option.some.inj h)
    exact ⟨(Bool.and_eq_true_iff.1 hguard).2, trivial⟩
  split at h
  next =>
    -- a flag is not a converging figure
    split at h <;>
    · obtain ⟨rfl, -⟩ := Prod.mk.inj (Option.some.inj h)
      exact absurd hname (by decide)
  split at h
  next hguard =>
    obtain ⟨rfl, -⟩ := Prod.mk.inj (Option.some.inj h)
    simp only [Bool.and_eq_true, decide_eq_true_eq] at hguard
    exact ⟨hguard.2, by linarith [hguard.1.1], by linarith [hguard.1.2]⟩
  split at h
  next hguard =>
    obtain ⟨rfl, -⟩ := Prod.mk.inj (Option.some.inj h)
    simp only [Bool.and_eq_true, decide_eq_true_eq] at hguard
    exact ⟨hguard.2, by linarith [hguard.1.1], by linarith [hguard.1.2]⟩
  next => exact nomatch h

/-- Lines that move apart but pass the test are reported as a converging figure. -/
theorem exists_classifyPattern_of_le (hle : normLower ≤ normUpper)
    (hconverging : isConverging normUpper normLower = true) :
    ∃ name bullish confidence, classifyPattern normUpper normLower true parallel preImpulse =
      some (name, bullish, confidence) ∧ name ∈ convergingFigures := by
  have hside : normUpper < -0.05 ∨ 0.05 < normLower := by
    simpa only [isConverging, Bool.or_eq_true, decide_eq_true_eq] using hconverging
  -- the guards of the triangles ask for lines that approach each other
  have hsymmetric : ¬(normUpper < -0.1 ∧ 0.1 < normLower) := fun h ↦ by linarith [h.1, h.2]
  have hdescending : ¬(normUpper < -0.1 ∧ |normLower| < 0.1) := fun h ↦ by
    linarith [h.1, (abs_lt.1 h.2).1]
  have hascending : ¬(|normUpper| < 0.1 ∧ 0.1 < normLower) := fun h ↦ by
    linarith [h.2, (abs_lt.1 h.1).2]
  cases preImpulse with
  | true =>
    refine ⟨"Pennant", true, 0.6, ?_, by decide⟩
    simp [classifyPattern, hsymmetric, hdescending, hascending]
  | false =>
    rcases hside with hupper | hlower
    · have hlower : normLower < -0.05 := by linarith
      have hrising : ¬(0.05 < normUpper ∧ 0.05 < normLower) := fun h ↦ by linarith [h.1]
      refine ⟨"Falling Wedge", true, 0.55, ?_, by decide⟩
      simp [classifyPattern, hsymmetric, hdescending, hascending, hrising, hupper, hlower]
    · have hupper : 0.05 < normUpper := by linarith
      refine ⟨"Rising Wedge", false, 0.55, ?_, by decide⟩
      simp [classifyPattern, hsymmetric, hdescending, hascending, hupper, hlower]

/-- **Where converging figures converge**: where the lines do, and where neither line passes the
test. -/
theorem convergesAsNamed_iff (normUpper normLower : ℚ) (preImpulse : Bool) :
    ConvergesAsNamed normUpper normLower preImpulse ↔
      normUpper < normLower ∨ normLower ≤ 0.05 ∧ -0.05 ≤ normUpper := by
  constructor
  · intro h
    by_contra! hnot
    obtain ⟨hle, hside⟩ := hnot
    have hconverging : isConverging normUpper normLower = true := by
      simp only [isConverging, Bool.or_eq_true, decide_eq_true_eq]
      rcases le_or_gt normLower 0.05 with hlower | hlower
      · exact .inl (hside hlower)
      · exact .inr hlower
    obtain ⟨name, bullish, confidence, hreported, hname⟩ :=
      @exists_classifyPattern_of_le normUpper normLower (isParallel normUpper normLower)
        preImpulse hle hconverging
    have hlt := (h name bullish confidence (by rw [hconverging]; exact hreported) hname).1
    exact hle.not_gt hlt
  · intro h name bullish confidence hreported hname
    obtain ⟨hconverging, hslopes⟩ := of_classifyPattern_eq_some hreported hname
    refine ⟨?_, hslopes⟩
    rcases h with hlt | ⟨hlower, hupper⟩
    · exact hlt
    · simp only [isConverging, Bool.or_eq_true, decide_eq_true_eq] at hconverging
      rcases hconverging with h | h <;> linarith

/-- Lines that both rise, the upper one faster: a rising wedge, or a pennant after an impulse. -/
theorem diverging_reported_as_wedge :
    (isConverging 2 1 = true ∧ isParallel 2 1 = false) ∧
      classifyPattern 2 1 (isConverging 2 1) (isParallel 2 1) false =
        some ("Rising Wedge", false, 0.55) ∧
      classifyPattern 2 1 (isConverging 2 1) (isParallel 2 1) true = some ("Pennant", true, 0.6) ∧
      ¬ConvergesAsNamed 2 1 false ∧ ¬ConvergesAsNamed 2 1 true := by
  have hwedge : classifyPattern 2 1 (isConverging 2 1) (isParallel 2 1) false =
      some ("Rising Wedge", false, 0.55) := by
    decide +kernel
  have hpennant : classifyPattern 2 1 (isConverging 2 1) (isParallel 2 1) true =
      some ("Pennant", true, 0.6) := by
    decide +kernel
  refine ⟨by decide +kernel, hwedge, hpennant, fun h ↦ ?_, fun h ↦ ?_⟩
  · have hlt := (h _ _ _ hwedge (by decide)).1
    norm_num at hlt
  · have hlt := (h _ _ _ hpennant (by decide)).1
    norm_num at hlt

end Convergence

end InvestmentAssistant
