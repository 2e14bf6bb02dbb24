import InvestmentAssistant.Foundation.CsvReader
import InvestmentAssistant.FundamentalAnalysis.StatCanCpiSource

/-!
# Consumer prices of Japan

`OecdSdmxSource` asks the OECD for the change itself and takes the value of the latest month.
Periods stay texts here, and `strptime` is inside a handler, so no year raises.

What raises is the CSV reader on a text that it refuses, and in JSON the same as for Statistics
Canada: a first dimension that is no dictionary, a figure out of the range of floats, a decoder that
raises something else than a `ValueError` (`returns_oecdExtractLatestValue_iff`).
-/

namespace InvestmentAssistant

open CollectLoop Table Text

variable {F : Type} (runtime : PyRuntime F)

/-- `_parse_period_to_key(period) is not None`: `YYYY-MM` with a year that exists. -/
def isPeriodKey (period : String) : Bool :=
  match monthPeriod? period.toList with
  | some (year, _) => decide (year ≠ 0)
  | none => false

/-- The label and the value of the latest period. -/
def takeLatest (latest : String × Option F) (reading : String × F) : String × Option F :=
  if latest.1 < reading.1 then (reading.1, some reading.2) else latest

/-! ### Comma-separated values -/

/-- The `csv.Error` of the reader. -/
def csvError : PyException :=
  .other "_csv.Error"

/-- `row.get(name)` of a `DictReader`; of several fields with a name the last one counts. -/
def rowGet (header row : List String) (name : String) : Option String :=
  (header.zipIdx.reverse.find? fun field ↦ decide (field.1 = name)).bind fun field ↦ row[field.2]?

/-- The first of several fields that is there and not empty. -/
def rowGetFirst (header row names : List String) : String :=
  (names.findSome? fun name ↦ (rowGet header row name).filter (· ≠ "")).getD ""

/-- One row: the period and the value, if it has both and the value is finite. -/
def rowReading (header row : List String) : Option (String × F) :=
  let period := String.ofList <| strip <|
    (rowGetFirst header row ["TIME_PERIOD", "TIME", "time_period", "Time Period"]).toList
  let valueRaw := String.ofList <| strip <|
    (rowGetFirst header row ["OBS_VALUE", "OBS", "obs_value", "Value", "value"]).toList
  if isPeriodKey period then
    (runtime.ofText valueRaw).bind fun value ↦
      if runtime.isfinite value then some (period, value) else none
  else none

/-- `OecdSdmxSource._parse_csv_payload`. -/
def parseCsvPayload (payload : String) : Except PyException (Option F) :=
  match Csv.records payload with
  | .error _ => .error csvError
  | .ok [] => .ok none
  | .ok (header :: rows) =>
    let readings := (rows.filter (· ≠ [])).filterMap (rowReading runtime header)
    .ok (readings.foldl takeLatest ("", none)).2

/-! ### JSON -/

/-- `period_map[idx] = period`, for an item of the dimension. -/
def oecdPeriod (item : Json F × ℕ) : Option (ℤ × String) :=
  item.1.dict?.bind fun members ↦
    if isPeriodKey (periodText runtime members) then some (item.2, periodText runtime members)
    else none

/-- The period that the values of the first dimension give a number. -/
def oecdPeriodOf (values : List (Json F)) : ℤ → Option String :=
  lastReading (values.zipIdx.filterMap (oecdPeriod runtime))

/-- One observation: the period and the value, if it has both and the value is finite. -/
def oecdReading (periodOf : ℤ → Option String) (observation : String × Json F) :
    Except PyException (Option (String × F)) :=
  (observationReading runtime periodOf observation).map
    fun reading ↦ reading.filter fun reading ↦ runtime.isfinite reading.2

/-- The latest value of the observations, for the periods of the first dimension. -/
def oecdLatestValue (decoded : List (String × Json F)) (dataSets : List (Json F)) :
    Except PyException (Option F) :=
  firstDimensionValues (observationDimensions decoded) >>= fun values ↦
    (collect (oecdReading runtime (oecdPeriodOf runtime (values.getD []))) takeLatest ("", none)
      (seriesObservations (some dataSets))).map Prod.snd

/-- The latest value of a decoded payload. -/
def oecdExtractFromObject (decoded : List (String × Json F)) : Except PyException (Option F) :=
  match (decoded.lookup "dataSets").bind Json.list?,
    (decoded.lookup "structure").bind Json.dict? with
  | some (dataSet :: dataSets), some _ => oecdLatestValue runtime decoded (dataSet :: dataSets)
  | _, _ => .ok none

/-- `OecdSdmxSource._parse_sdmx_json_payload`. -/
def parseSdmxJsonPayload (payload : String) : Except PyException (Option F) :=
  extractFromText (oecdExtractFromObject runtime) runtime payload

/-! ### The source -/

/-- `payload.lstrip().startswith("{")`. -/
def startsAsObject (payload : String) : Bool :=
  decide ((payload.toList.dropWhile CharClass.isBlank).head? = some '\x7b')

/-- `OecdSdmxSource._extract_latest_value`. -/
def oecdExtractLatestValue (body : String × String) : Except PyException (Option F) :=
  if isCsvContent body.2 then parseCsvPayload runtime body.1
  else if startsAsObject body.1 then parseSdmxJsonPayload runtime body.1
  else parseCsvPayload runtime body.1

/-- `OecdSdmxSource._request_payload`, for what the last attempt brings. -/
def oecdRequestPayload (answer : Except PyException HttpResponse) :
    Except PyException (Option (String × String)) :=
  match answer with
  | .error e => .error e
  | .ok response =>
    if 500 ≤ response.statusCode then .error (.runtimeError "OECD transient HTTP error")
    else if 400 ≤ response.statusCode then .ok none
    else .ok (some (response.text, response.contentType))

/-- `OecdSdmxSource.fetch_jp_cpi_yoy`. -/
def fetchJpCpiYoy (answer : Except PyException HttpResponse) (caches : CpiCaches F) :
    Except PyException (Option F) × CpiCaches F :=
  fetchCpi (oecdExtractLatestValue runtime) (oecdRequestPayload answer) caches

/-! ### When the extraction returns -/

/-- The CSV reader gets through the text. -/
def CsvReadable (payload : String) : Prop :=
  Returns (Csv.records payload)

/-- A decoded payload that the extraction gets through. -/
def OecdObjectDecodable (decoded : List (String × Json F)) : Prop :=
  ∀ dataSets, (decoded.lookup "dataSets").bind Json.list? = some dataSets → dataSets ≠ [] →
    FirstDimensionIsDict (observationDimensions decoded) ∧
      ∀ observation ∈ seriesObservations (some dataSets),
        ObservationInRange (oecdPeriodOf runtime (dimensionValues decoded)) observation

/-- A body that the extraction gets through. -/
def OecdDecodable (body : String × String) : Prop :=
  if isCsvContent body.2 = false ∧ startsAsObject body.1 = true then
    TextDecodable runtime (OecdObjectDecodable runtime) body.1
  else CsvReadable body.1

/-- Only a carriage return in the middle of a line, or a field beyond the limit, makes a text
unreadable. -/
theorem csvReadable_of_returnsBeforeBreaks {payload : String}
    (h : Csv.ReturnsBeforeBreaks payload.toList)
    (hlen : payload.toList.length ≤ Csv.fieldSizeLimit) : CsvReadable payload :=
  Csv.exists_records h hlen

variable {runtime}

theorem returns_parseCsvPayload_iff {payload : String} :
    Returns (parseCsvPayload runtime payload) ↔ CsvReadable payload := by
  rw [parseCsvPayload, CsvReadable]
  rcases Csv.records payload with e | - | ⟨header, rows⟩
  · exact iff_of_false (not_returns_error _) (not_returns_error e)
  · exact iff_of_true (returns_ok _) (returns_ok _)
  · exact iff_of_true (returns_ok _) (returns_ok _)

theorem returns_oecdReading_iff {periodOf : ℤ → Option String} {observation : String × Json F} :
    Returns (oecdReading runtime periodOf observation) ↔ ObservationInRange periodOf observation :=
  returns_map_iff.trans returns_observationReading_iff

theorem returns_oecdLatestValue_iff {decoded : List (String × Json F)} {dataSets : List (Json F)} :
    Returns (oecdLatestValue runtime decoded dataSets) ↔
      FirstDimensionIsDict (observationDimensions decoded) ∧
        ∀ observation ∈ seriesObservations (some dataSets),
          ObservationInRange (oecdPeriodOf runtime (dimensionValues decoded)) observation := by
  have hloop : ∀ values, Returns ((collect (oecdReading runtime (oecdPeriodOf runtime values))
      takeLatest ("", none) (seriesObservations (some dataSets))).map Prod.snd) ↔
      ∀ observation ∈ seriesObservations (some dataSets),
        ObservationInRange (oecdPeriodOf runtime values) observation := by
    intro values
    refine returns_map_iff.trans (returns_collect_iff.trans ?_)
    simp only [returns_oecdReading_iff]
  rw [oecdLatestValue, returns_bind_iff, ← returns_firstDimensionValues_iff]
  constructor
  · rintro ⟨values, hvalues, hcollect⟩
    rw [firstDimensionValues_eq_ok hvalues, hloop] at hcollect
    exact ⟨⟨values, hvalues⟩, hcollect⟩
  · rintro ⟨⟨values, hvalues⟩, hinRange⟩
    refine ⟨values, hvalues, ?_⟩
    rw [firstDimensionValues_eq_ok hvalues, hloop]
    exact hinRange

/-- Without a structure there are no dimensions, and no periods. -/
theorem observationDimensions_eq_none {decoded : List (String × Json F)}
    (h : (decoded.lookup "structure").bind Json.dict? = none) :
    observationDimensions decoded = none := by
  rw [observationDimensions, h]
  rfl

theorem returns_oecdExtractFromObject_iff (decoded : List (String × Json F)) :
    Returns (oecdExtractFromObject runtime decoded) ↔ OecdObjectDecodable runtime decoded := by
  rw [oecdExtractFromObject, OecdObjectDecodable]
  rcases hdataSets : (decoded.lookup "dataSets").bind Json.list? with - | - | ⟨dataSet, dataSets⟩
  · exact iff_of_true (returns_ok _) fun _ h ↦ nomatch h
  · refine iff_of_true (returns_ok _) fun dataSets h hne ↦ absurd ?_ hne
    exact (Option.some.inj h).symm
  rcases hstructure : (decoded.lookup "structure").bind Json.dict? with - | members
  · -- no observation has a period
    refine iff_of_true (returns_ok _) fun _ _ _ ↦ ⟨?_, ?_⟩
    · intro first rest h
      exact nomatch (observationDimensions_eq_none hstructure).symm.trans h
    · intro observation _ period n rest hperiod
      rw [dimensionValues, observationDimensions_eq_none hstructure] at hperiod
      obtain ⟨idx, -, hidx⟩ := Option.bind_eq_some_iff.1 hperiod
      cases hidx
  · refine returns_oecdLatestValue_iff.trans ?_
    constructor
    · rintro h dataSets' heq -
      obtain rfl := Option.some.inj heq
      exact h
    · exact fun h ↦ h _ rfl (List.cons_ne_nil _ _)

/-- **When the OECD extraction returns.** -/
theorem returns_oecdExtractLatestValue_iff {body : String × String} :
    Returns (oecdExtractLatestValue runtime body) ↔ OecdDecodable runtime body := by
  rw [oecdExtractLatestValue, OecdDecodable]
  by_cases hcsv : isCsvContent body.2 = true
  · rw [if_pos hcsv, if_neg (by simp [hcsv])]
    exact returns_parseCsvPayload_iff
  · rw [if_neg hcsv]
    by_cases hobject : startsAsObject body.1 = true
    · rw [if_pos hobject, if_pos ⟨Bool.eq_false_iff.2 hcsv, hobject⟩]
      exact returns_extractFromText_iff _ returns_oecdExtractFromObject_iff
    · rw [if_neg hobject, if_neg (by simp [hobject])]
      exact returns_parseCsvPayload_iff

end InvestmentAssistant
