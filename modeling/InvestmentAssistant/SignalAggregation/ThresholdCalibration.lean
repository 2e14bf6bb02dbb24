import Mathlib.Data.List.Count
import InvestmentAssistant.Core.Models

/-!
# Threshold calibration

A historical signal is labelled by what its future candles reach first, the take profit or the stop
loss (`labelSignalOutcome`). A candidate pair of thresholds is evaluated on labelled samples: each
score is classified by the candidate, and the label of the sample is counted under that direction
(`evaluateCandidates`).

The counters are the counts of the judgements — pairs of a direction and a label — that an
evaluation passes (`metricsOf_eq`). So two evaluations that agree on the directions have equal
metrics exactly when they count each label of each side equally often (`metricsOf_eq_iff`).
-/

namespace InvestmentAssistant

/-- `TransactionOutcome`. -/
inductive TransactionOutcome
  | tpBeforeSl
  | slBeforeTp
  | unknown
  deriving DecidableEq, Repr

/-- One historical data point. -/
structure CalibrationSample where
  score : ℚ
  /-- The direction under the default thresholds. -/
  direction : Option Direction
  outcome : TransactionOutcome
  symbol : String
  timeframe : String
  sampleIndex : ℕ := 0
  deriving DecidableEq, Repr

/-- The metrics of a candidate pair of thresholds. -/
structure CandidateMetrics where
  bullishThreshold : ℚ
  bearishThreshold : ℚ
  totalSignals : ℕ := 0
  longSignals : ℕ := 0
  shortSignals : ℕ := 0
  neutralSignals : ℕ := 0
  unknownSignals : ℕ := 0
  longTpBeforeSl : ℕ := 0
  longSlBeforeTp : ℕ := 0
  shortTpBeforeSl : ℕ := 0
  shortSlBeforeTp : ℕ := 0
  deriving DecidableEq, Repr

/-! ### Labels -/

/-- The candle reaches the stop loss. -/
def slHit (direction : Direction) (stopLoss : ℚ) (candle : OHLCVData) : Bool :=
  match direction with
  | .long => candle.low ≤ stopLoss
  | .short => stopLoss ≤ candle.high

/-- The candle reaches the take profit. -/
def tpHit (direction : Direction) (tp1 : ℚ) (candle : OHLCVData) : Bool :=
  match direction with
  | .long => tp1 ≤ candle.high
  | .short => candle.low ≤ tp1

/-- The loop over the future candles; a candle that reaches both levels settles nothing. -/
def firstHit (direction : Direction) (stopLoss tp1 : ℚ) : List OHLCVData → TransactionOutcome
  | [] => .unknown
  | candle :: rest =>
    if slHit direction stopLoss candle && tpHit direction tp1 candle then .unknown
    else if tpHit direction tp1 candle then .tpBeforeSl
    else if slHit direction stopLoss candle then .slBeforeTp
    else firstHit direction stopLoss tp1 rest

/-- `label_signal_outcome`. -/
def labelSignalOutcome (direction : Option Direction) (entryPrice stopLoss tp1 : Option ℚ)
    (futureOhlcv : Option (List OHLCVData)) : TransactionOutcome :=
  match direction, entryPrice, stopLoss, tp1, futureOhlcv with
  | some direction, some _, some stopLoss, some tp1, some future =>
    firstHit direction stopLoss tp1 future
  | _, _, _, _, _ => .unknown

/-- A signal without a direction has no outcome. -/
@[simp]
theorem labelSignalOutcome_none (entryPrice stopLoss tp1 : Option ℚ)
    (futureOhlcv : Option (List OHLCVData)) :
    labelSignalOutcome none entryPrice stopLoss tp1 futureOhlcv = .unknown := rfl

/-! ### Evaluation -/

/-- `_classify_direction`. -/
def classifyDirection (score bullishThreshold bearishThreshold : ℚ) : Option Direction :=
  if bullishThreshold ≤ score then some .long
  else if score ≤ bearishThreshold then some .short
  else none

/-- `_increment_direction_counter`. -/
def incrementDirectionCounter (m : CandidateMetrics) : Option Direction → CandidateMetrics
  | some .long => { m with longSignals := m.longSignals + 1 }
  | some .short => { m with shortSignals := m.shortSignals + 1 }
  | none => { m with neutralSignals := m.neutralSignals + 1 }

/-- `_increment_outcome_counter`. -/
def incrementOutcomeCounter (m : CandidateMetrics) :
    Option Direction → TransactionOutcome → CandidateMetrics
  | none, _ => m
  | some _, .unknown => { m with unknownSignals := m.unknownSignals + 1 }
  | some .long, .tpBeforeSl => { m with longTpBeforeSl := m.longTpBeforeSl + 1 }
  | some .long, .slBeforeTp => { m with longSlBeforeTp := m.longSlBeforeTp + 1 }
  | some .short, .tpBeforeSl => { m with shortTpBeforeSl := m.shortTpBeforeSl + 1 }
  | some .short, .slBeforeTp => { m with shortSlBeforeTp := m.shortSlBeforeTp + 1 }

/-- `_accumulate_metrics`. -/
def accumulateMetrics (m : CandidateMetrics) (direction : Option Direction)
    (outcome : TransactionOutcome) : CandidateMetrics :=
  let m := { m with totalSignals := m.totalSignals + 1 }
  incrementOutcomeCounter (incrementDirectionCounter m direction) direction outcome

/-- `evaluate_candidates`. -/
def evaluateCandidates (samples : List CalibrationSample) (candidates : List (ℚ × ℚ)) :
    List CandidateMetrics :=
  candidates.map fun (bullish, bearish) ↦
    samples.foldl (fun m sample ↦
      accumulateMetrics m (classifyDirection sample.score bullish bearish) sample.outcome)
      { bullishThreshold := bullish, bearishThreshold := bearish }

/-! ### What the counters count -/

/-- A signal as an evaluation counts it: the direction, and the label. -/
abbrev Judgement := Option Direction × TransactionOutcome

/-- The metrics of the judgements of a candidate. -/
def metricsOf (bullish bearish : ℚ) (judgements : List Judgement) : CandidateMetrics :=
  judgements.foldl (fun m j ↦ accumulateMetrics m j.1 j.2)
    { bullishThreshold := bullish, bearishThreshold := bearish }

/-- A sample as the candidate judges it. -/
def CalibrationSample.judgement (bullish bearish : ℚ) (sample : CalibrationSample) : Judgement :=
  (classifyDirection sample.score bullish bearish, sample.outcome)

theorem evaluateCandidates_eq (samples : List CalibrationSample) (candidates : List (ℚ × ℚ)) :
    evaluateCandidates samples candidates =
      candidates.map fun c ↦
        metricsOf c.1 c.2 (samples.map (CalibrationSample.judgement c.1 c.2)) := by
  refine List.map_congr_left fun c _ ↦ ?_
  rw [metricsOf, List.foldl_map]
  rfl

/-- **Each counter is a count** of the judgements. -/
theorem metricsOf_eq (bullish bearish : ℚ) (js : List Judgement) :
    metricsOf bullish bearish js =
      { bullishThreshold := bullish
        bearishThreshold := bearish
        totalSignals := js.length
        longSignals := (js.map Prod.fst).count (some .long)
        shortSignals := (js.map Prod.fst).count (some .short)
        neutralSignals := (js.map Prod.fst).count none
        unknownSignals := js.count (some .long, .unknown) + js.count (some .short, .unknown)
        longTpBeforeSl := js.count (some .long, .tpBeforeSl)
        longSlBeforeTp := js.count (some .long, .slBeforeTp)
        shortTpBeforeSl := js.count (some .short, .tpBeforeSl)
        shortSlBeforeTp := js.count (some .short, .slBeforeTp) } := by
  induction js using List.reverseRecOn with
  | nil => rfl
  | append_singleton js j ih =>
    rw [metricsOf, List.foldl_concat]
    show accumulateMetrics (metricsOf bullish bearish js) j.1 j.2 = _
    rw [ih]
    obtain ⟨- | - | -, - | - | -⟩ := j <;>
      simp [accumulateMetrics, incrementDirectionCounter, incrementOutcomeCounter,
        List.count_append] <;> omega

/-- The signals of a side are the ones with each label. -/
theorem count_map_fst (js : List Judgement) (d : Direction) :
    (js.map Prod.fst).count (some d) = js.count (some d, .tpBeforeSl) +
      js.count (some d, .slBeforeTp) + js.count (some d, .unknown) := by
  induction js with
  | nil => rfl
  | cons j js ih =>
    obtain ⟨e, o⟩ := j
    rw [List.map_cons, List.count_cons, List.count_cons, List.count_cons, List.count_cons, ih]
    by_cases he : e = some d
    · rw [he]
      cases o <;> simp <;> omega
    · simp [he]

/-- **Metrics agree when the labels of each side are counted equally**, for judgements of the same
directions. -/
theorem metricsOf_eq_iff {bullish bearish : ℚ} {js js' : List Judgement}
    (h : js.map Prod.fst = js'.map Prod.fst) :
    metricsOf bullish bearish js = metricsOf bullish bearish js' ↔
      ∀ (d : Direction) (o : TransactionOutcome), js.count (some d, o) = js'.count (some d, o) := by
  have hlength : js.length = js'.length := by
    simpa using congrArg List.length h
  rw [metricsOf_eq, metricsOf_eq, h, hlength]
  simp only [CandidateMetrics.mk.injEq, true_and]
  constructor
  · rintro ⟨-, hlongTp, hlongSl, hshortTp, hshortSl⟩
    -- the unknown ones of a side are the rest of its signals
    have hlong := (count_map_fst js .long).symm.trans (h ▸ count_map_fst js' .long)
    have hshort := (count_map_fst js .short).symm.trans (h ▸ count_map_fst js' .short)
    rintro (- | -) (- | - | -) <;> omega
  · intro hcount
    exact ⟨by rw [hcount, hcount], hcount _ _, hcount _ _, hcount _ _, hcount _ _⟩

end InvestmentAssistant
