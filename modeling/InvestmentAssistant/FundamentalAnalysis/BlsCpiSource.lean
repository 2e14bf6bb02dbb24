import InvestmentAssistant.FundamentalAnalysis.CpiFetch

/-!
# Consumer prices of the United States

`BlsCpiSource` asks the Bureau of Labor Statistics for an index and computes its change over a year.
The payload is decoded inside the handler of the fetch; the extraction is not.

Every level of the payload is guarded. What is not is the year of an item: `parse_bls_period` reads
it as an integer of any size and builds a date from it. So the extraction raises on a year outside 1
to 9999, and where the change is looked for in the year before the year 1
(`returns_blsExtractObservation_iff`).
-/

namespace InvestmentAssistant

open CollectLoop IntText Text

variable {F : Type} (runtime : PyRuntime F)

/-- `str(value or "").strip()` of a member. -/
def memberText (members : List (String × Json F)) (key : String) : String :=
  String.ofList (strip (Json.textOrEmpty runtime (members.lookup key)).toList)

theorem strip_memberText (members : List (String × Json F)) (key : String) :
    strip (memberText runtime members key).toList = (memberText runtime members key).toList := by
  rw [memberText, String.toList_ofList, strip_strip]

/-- The items of the first series: `payload["Results"]["series"][0]["data"]`. -/
def blsData (payload : List (String × Json F)) : Option (List (Json F)) := do
  let results ← (payload.lookup "Results").bind Json.dict?
  let seriesList ← (results.lookup "series").bind Json.list?
  let firstSeries ← seriesList.head?.bind Json.dict?
  (firstSeries.lookup "data").bind Json.list?

/-- One item: the month and the value, if it has both. -/
def blsReading (item : Json F) : Except PyException (Option (Month × F)) :=
  match item.dict? with
  | none => .ok none
  | some members =>
    (parseBlsPeriod (memberText runtime members "year") (memberText runtime members "period")).map
      fun period ↦ period.bind fun period ↦
        let text := (Json.textOrEmpty runtime (members.lookup "value")).toList.filter (· ≠ ',')
        (runtime.ofText (String.ofList text)).map fun value ↦ (period, value)

/-- `BlsCpiSource._extract_observation`. -/
def blsExtractObservation (payload : List (String × Json F)) :
    Except PyException (Option (MacroObservation F)) :=
  match blsData payload with
  | none => .ok none
  | some data => observationOf runtime.toFloatOps "bls" (blsReading runtime) data

/-- `BlsCpiSource._request_payload`, for what the last attempt brings. -/
def blsRequestPayload (answer : Except PyException HttpResponse) :
    Except PyException (Option (List (String × Json F))) :=
  match answer with
  | .error e => .error e
  | .ok response =>
    if 500 ≤ response.statusCode then .error (.runtimeError "BLS transient HTTP error")
    else if 400 ≤ response.statusCode then .ok none
    else decodeObject runtime response.text

/-- `BlsCpiSource.fetch_us_cpi_yoy`. -/
def fetchUsCpiYoy (answer : Except PyException HttpResponse)
    (caches : CpiCaches (MacroObservation F)) :
    Except PyException (Option (MacroObservation F)) × CpiCaches (MacroObservation F) :=
  fetchCpi (blsExtractObservation runtime) (blsRequestPayload runtime answer) caches

/-! ### When the extraction returns -/

/-- The year of an item with a monthly period, where it is an integer, is one from 1 to 9999. -/
def BlsYearInRange (item : Json F) : Prop :=
  ∀ members, item.dict? = some members →
    isBlsPeriod (memberText runtime members "period").toList = true →
    ∀ year, int? (memberText runtime members "year").toList = some year → 1 ≤ year ∧ year ≤ 9999

/-- A payload that the extraction gets through. -/
def BlsDecodable (payload : List (String × Json F)) : Prop :=
  ∀ data, blsData payload = some data →
    (∀ item ∈ data, BlsYearInRange runtime item) ∧
      YoyTotal runtime.toFloatOps (usableValues runtime.toFloatOps
        (lastReading (data.filterMap (yields (blsReading runtime)))))

variable {runtime}

theorem returns_blsReading_iff {item : Json F} :
    Returns (blsReading runtime item) ↔ BlsYearInRange runtime item := by
  rw [blsReading, BlsYearInRange]
  rcases item.dict? with - | members
  · exact iff_of_true (returns_ok _) fun _ h ↦ nomatch h
  · refine returns_map_iff.trans ?_
    rw [returns_parseBlsPeriod_iff (strip_memberText runtime members "period")]
    exact ⟨fun h _ hmembers ↦ Option.some.inj hmembers ▸ h, fun h ↦ h members rfl⟩

/-- **When the BLS extraction returns.** -/
theorem returns_blsExtractObservation_iff {payload : List (String × Json F)} :
    Returns (blsExtractObservation runtime payload) ↔ BlsDecodable runtime payload := by
  rw [blsExtractObservation, BlsDecodable]
  rcases blsData payload with - | data
  · exact iff_of_true (returns_ok _) fun _ h ↦ nomatch h
  · refine returns_observationOf_iff.trans ?_
    simp only [returns_blsReading_iff]
    exact ⟨fun h _ hdata ↦ Option.some.inj hdata ▸ h, fun h ↦ h data rfl⟩

end InvestmentAssistant
