import InvestmentAssistant.FundamentalAnalysis.OecdSdmxSource

/-!
# Totality of the CPI decoders

The three sources together: an extraction returns exactly on the bodies that the conditions of its
source describe, and a fetch returns and records its failures exactly when the body it comes to
extract from is one of those (`cpi_decoders_total_iff`). A body outside of them raises through the
fetch, and leaves no trace in the caches (`cpi_decoders_raise`).
-/

namespace InvestmentAssistant

open CollectLoop

/-- Where a fetch comes to extract from a payload, the payload is decodable. -/
def DecodesWhatItGets {P V : Type} (caches : CpiCaches V) (request : Except PyException (Option P))
    (decodable : P → Prop) : Prop :=
  caches.cached = none → caches.negative = false →
    ∀ payload, request = .ok (some payload) → decodable payload

theorem fetchSafe_iff_decodes {P V : Type} {extract : P → Except PyException (Option V)}
    {request : Except PyException (Option P)} {caches : CpiCaches V} {decodable : P → Prop}
    (h : ∀ payload, Returns (extract payload) ↔ decodable payload) :
    FetchSafe (fetchCpi extract request caches) ↔ DecodesWhatItGets caches request decodable := by
  rw [fetchSafe_iff, DecodesWhatItGets]
  simp only [h]

/-- **When the CPI decoders are total.** Whatever the floats, the JSON decoder and the caches are:
each extraction returns exactly on its decodable bodies, and each fetch is safe exactly when it
extracts from such a body only. Comma-separated values are read if every carriage return is before a
line break, or at the end, and no field can be too large. -/
theorem cpi_decoders_total_iff {F : Type} (runtime : PyRuntime F) (payload : List (String × Json F))
    (body : String × String) (answer : Except PyException HttpResponse)
    (observations : CpiCaches (MacroObservation F)) (values : CpiCaches F) :
    (Returns (blsExtractObservation runtime payload) ↔ BlsDecodable runtime payload) ∧
    (Returns (statCanExtractObservation runtime body) ↔ StatCanDecodable runtime body) ∧
    (Returns (oecdExtractLatestValue runtime body) ↔ OecdDecodable runtime body) ∧
    (FetchSafe (fetchUsCpiYoy runtime answer observations) ↔
      DecodesWhatItGets observations (blsRequestPayload runtime answer) (BlsDecodable runtime)) ∧
    (FetchSafe (fetchCaCpiYoy runtime answer observations) ↔
      DecodesWhatItGets observations (statCanRequestPayload answer) (StatCanDecodable runtime)) ∧
    (FetchSafe (fetchJpCpiYoy runtime answer values) ↔
      DecodesWhatItGets values (oecdRequestPayload answer) (OecdDecodable runtime)) ∧
    (Csv.ReturnsBeforeBreaks body.1.toList → body.1.toList.length ≤ Csv.fieldSizeLimit →
      CsvReadable body.1) :=
  ⟨returns_blsExtractObservation_iff, returns_statCanExtractObservation_iff,
    returns_oecdExtractLatestValue_iff,
    fetchSafe_iff_decodes fun _ ↦ returns_blsExtractObservation_iff,
    fetchSafe_iff_decodes fun _ ↦ returns_statCanExtractObservation_iff,
    fetchSafe_iff_decodes fun _ ↦ returns_oecdExtractLatestValue_iff,
    csvReadable_of_returnsBeforeBreaks⟩

/-! ### Bodies that raise -/

/-- A BLS payload with one item, of the year 0. -/
def yearZeroPayload : List (String × Json ℚ) :=
  [("Results", .dict [("series", .list [.dict [("data", .list [
    .dict [("year", .str "0"), ("period", .str "M01"), ("value", .str "1")]])]])])]

/-- The text of this payload. -/
def yearZeroText : String :=
  "\x7b\"Results\": \x7b\"series\": [\x7b\"data\": [" ++
    "\x7b\"year\": \"0\", \"period\": \"M01\", \"value\": \"1\"\x7d]\x7d]\x7d\x7d"

/-- An SDMX payload whose first dimension is a list. -/
def listDimensionPayload : List (String × Json ℚ) :=
  [("structure", .dict [("dimensions", .dict [("observation", .list [.list []])])]),
    ("dataSets", .list [.dict []])]

/-- The text of this payload. -/
def listDimensionText : String :=
  "\x7b\"structure\": \x7b\"dimensions\": \x7b\"observation\": [[]]\x7d\x7d, " ++
    "\"dataSets\": [\x7b\x7d]\x7d"

/-- Floats as exact rationals, read from whole numbers; the JSON decoder knows the two texts. -/
def exactRuntime : PyRuntime ℚ where
  ofText text := (IntText.int? text.toList).map fun n ↦ (n : ℚ)
  ofInt n := n
  isfinite _ := true
  iscloseToZero v := decide (|v| ≤ 1 / 10 ^ 12)
  isZero v := decide (v = 0)
  sub := (· - ·)
  mul := (· * ·)
  div := (· / ·)
  one := 1
  hundred := 100
  iscloseToZero_of_isZero := by
    intro v hv
    rw [of_decide_eq_true hv, abs_zero]
    exact decide_eq_true (by positivity)
  repr _ := ""
  decodeJson text :=
    if text = yearZeroText then .ok (.dict yearZeroPayload)
    else if text = listDimensionText then .ok (.dict listDimensionPayload)
    else .error (.valueError "invalid JSON")

/-- The answer of a service. -/
def answerWith (text contentType : String) : Except PyException HttpResponse :=
  .ok { statusCode := 200, text := text, contentType := contentType }

/-- A year 0 raises in the BLS extraction, and in a StatCan period; a first dimension that is a list
raises in both SDMX extractions; a lone carriage return raises in the OECD one. The exceptions leave
the fetches, and nothing is recorded. -/
theorem cpi_decoders_raise :
    fetchUsCpiYoy exactRuntime (answerWith yearZeroText "application/json") {} =
      (.error (.valueError "year 0 is out of range"), {}) ∧
    fetchCaCpiYoy exactRuntime (answerWith "TIME_PERIOD,OBS_VALUE\n0000-01,1" "text/csv") {} =
      (.error (.valueError "year 0 is out of range"), {}) ∧
    fetchCaCpiYoy exactRuntime (answerWith listDimensionText "application/json") {} =
      (.error attributeError, {}) ∧
    fetchJpCpiYoy exactRuntime (answerWith listDimensionText "application/json") {} =
      (.error attributeError, {}) ∧
    fetchJpCpiYoy exactRuntime (answerWith "TIME_PERIOD,OBS_VALUE\n2024-01,1\r2024-02,2" "text/csv")
      {} = (.error csvError, {}) ∧
    ¬ Returns (blsExtractObservation exactRuntime yearZeroPayload) := by
  refine ⟨by decide +kernel, by decide +kernel, by decide +kernel, by decide +kernel,
    by decide +kernel, ?_⟩
  have hraises : blsExtractObservation exactRuntime yearZeroPayload =
      .error (.valueError "year 0 is out of range") := by decide +kernel
  rw [hraises]
  exact not_returns_error _

end InvestmentAssistant
