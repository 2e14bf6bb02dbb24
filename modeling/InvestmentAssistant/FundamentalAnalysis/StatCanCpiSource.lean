import InvestmentAssistant.FundamentalAnalysis.SdmxJson

/-!
# Consumer prices of Canada

`StatCanCpiSource` asks Statistics Canada for an index, as JSON or as comma-separated values, and
computes its change over a year. Only the request is inside the handler of the fetch.

The extraction raises where the shared helpers do: on a period of the year 0, and where the change
is looked for in the year before the year 1. In JSON it raises as well on a first dimension that is
no dictionary, on a figure out of the range of floats, and where the decoder raises something else
than a `ValueError` (`returns_statCanExtractObservation_iff`).
-/

namespace InvestmentAssistant

open CollectLoop Table Text

variable {F : Type} (runtime : PyRuntime F)

/-! ### JSON -/

/-- `period_map[idx] = parsed`, for an item of the dimension. -/
def statCanPeriod (item : Json F × ℕ) : Except PyException (Option (ℤ × Month)) :=
  match item.1.dict? with
  | none => .ok none
  | some members =>
    (parseMonthlyPeriod (periodText runtime members)).map fun period ↦
      period.map fun period ↦ (item.2, period)

/-- `StatCanCpiSource._build_period_map`. -/
def buildPeriodMap (decoded : List (String × Json F)) : Except PyException (Table ℤ Month) :=
  firstDimensionValues (observationDimensions decoded) >>= fun values ↦
    collect (statCanPeriod runtime) takeReading ∅ (values.getD []).zipIdx

/-- `StatCanCpiSource._extract_observations_dict`. -/
def extractObservationsDict (decoded : List (String × Json F)) : List (String × Json F) :=
  seriesObservations ((decoded.lookup "dataSets").bind Json.list?)

/-- The observation of a decoded payload. -/
def statCanExtractFromObject (decoded : List (String × Json F)) :
    Except PyException (Option (MacroObservation F)) :=
  buildPeriodMap runtime decoded >>= fun periodMap ↦
    observationOf runtime.toFloatOps "statcan" (observationReading runtime periodMap.lookup)
      (extractObservationsDict decoded)

/-- `StatCanCpiSource._extract_index_values_from_json`, with the observation computed from it. -/
def statCanExtractFromJson (payload : String) : Except PyException (Option (MacroObservation F)) :=
  extractFromText (statCanExtractFromObject runtime) runtime payload

/-! ### Comma-separated values -/

/-- The line boundaries of `splitlines`. -/
def isLineBoundary (c : Char) : Bool :=
  decide (c.toNat ∈ [0xA, 0xB, 0xC, 0xD, 0x1C, 0x1D, 0x1E, 0x85, 0x2028, 0x2029])

/-- The lines that are not blank, without the blanks around them. -/
def payloadLines (payload : String) : List (List Char) :=
  ((payload.toList.splitOnP isLineBoundary).map strip).filter (· ≠ [])

/-- The cells of a line. -/
def lineCells (line : List Char) : List String :=
  (line.splitOn ',').map fun cell ↦ String.ofList (strip cell)

/-- One line: the month and the value, if it has both. -/
def csvReading (periodIdx valueIdx : ℕ) (line : List Char) :
    Except PyException (Option (Month × F)) :=
  match (lineCells line)[periodIdx]?, (lineCells line)[valueIdx]? with
  | some period, some value =>
    (parseMonthlyPeriod period).map fun period ↦ period.bind fun period ↦
      (runtime.ofText value).map fun value ↦ (period, value)
  | _, _ => .ok none

/-- The columns of the two fields, and the lines below the header. -/
def csvTable (payload : String) : Option ((ℕ × ℕ) × List (List Char)) :=
  match payloadLines payload with
  | header :: line :: rest => do
    let periodIdx ← (lineCells header).idxOf? "TIME_PERIOD"
    let valueIdx ← (lineCells header).idxOf? "OBS_VALUE"
    return ((periodIdx, valueIdx), line :: rest)
  | _ => none

/-- `StatCanCpiSource._extract_index_values_from_csv`, with the observation computed from it. -/
def statCanExtractFromCsv (payload : String) : Except PyException (Option (MacroObservation F)) :=
  match csvTable payload with
  | none => .ok none
  | some ((periodIdx, valueIdx), lines) =>
    observationOf runtime.toFloatOps "statcan" (csvReading runtime periodIdx valueIdx) lines

/-! ### The source -/

/-- `"csv" in content_type.lower()`. -/
def isCsvContent (contentType : String) : Bool :=
  decide ("csv".toList <:+: contentType.toList.map Char.toLower)

/-- `StatCanCpiSource._extract_observation`. -/
def statCanExtractObservation (body : String × String) :
    Except PyException (Option (MacroObservation F)) :=
  if isCsvContent body.2 then statCanExtractFromCsv runtime body.1
  else statCanExtractFromJson runtime body.1

/-- `StatCanCpiSource._request_payload`, for what the last attempt brings. -/
def statCanRequestPayload (answer : Except PyException HttpResponse) :
    Except PyException (Option (String × String)) :=
  match answer with
  | .error e => .error e
  | .ok response =>
    if response.statusCode = 409 then .ok none
    else if 500 ≤ response.statusCode then .error (.runtimeError "StatCan transient HTTP error")
    else if 400 ≤ response.statusCode then .ok none
    else .ok (some (response.text, response.contentType))

/-- `StatCanCpiSource.fetch_ca_cpi_yoy`. -/
def fetchCaCpiYoy (answer : Except PyException HttpResponse)
    (caches : CpiCaches (MacroObservation F)) :
    Except PyException (Option (MacroObservation F)) × CpiCaches (MacroObservation F) :=
  fetchCpi (statCanExtractObservation runtime) (statCanRequestPayload answer) caches

/-! ### When the extraction returns -/

/-- The month that the first dimension gives a number. -/
def statCanPeriodOf (decoded : List (String × Json F)) : ℤ → Option Month :=
  lastReading ((dimensionValues decoded).zipIdx.filterMap (yields (statCanPeriod runtime)))

/-- A decoded payload that the extraction gets through. -/
structure StatCanObjectDecodable (decoded : List (String × Json F)) : Prop where
  dimension : FirstDimensionIsDict (observationDimensions decoded)
  periods : ∀ item ∈ dimensionValues decoded, ∀ members, item.dict? = some members →
    ¬ IsYearZero (periodText runtime members).toList
  values : ∀ observation ∈ extractObservationsDict decoded,
    ObservationInRange (statCanPeriodOf runtime decoded) observation
  yoy : YoyTotal runtime.toFloatOps (usableValues runtime.toFloatOps (lastReading
    ((extractObservationsDict decoded).filterMap
      (yields (observationReading runtime (statCanPeriodOf runtime decoded))))))

/-- Comma-separated values that the extraction gets through. -/
def StatCanCsvDecodable (payload : String) : Prop :=
  ∀ periodIdx valueIdx lines, csvTable payload = some ((periodIdx, valueIdx), lines) →
    (∀ line ∈ lines, ∀ period value, (lineCells line)[periodIdx]? = some period →
      (lineCells line)[valueIdx]? = some value → ¬ IsYearZero (strip period.toList)) ∧
    YoyTotal runtime.toFloatOps (usableValues runtime.toFloatOps
      (lastReading (lines.filterMap (yields (csvReading runtime periodIdx valueIdx)))))

/-- A body that the extraction gets through. -/
def StatCanDecodable (body : String × String) : Prop :=
  if isCsvContent body.2 then StatCanCsvDecodable runtime body.1
  else TextDecodable runtime (StatCanObjectDecodable runtime) body.1

variable {runtime}

theorem returns_statCanPeriod_iff {item : Json F × ℕ} :
    Returns (statCanPeriod runtime item) ↔
      ∀ members, item.1.dict? = some members →
        ¬ IsYearZero (periodText runtime members).toList := by
  rw [statCanPeriod]
  rcases item.1.dict? with - | members
  · exact iff_of_true (returns_ok _) fun _ h ↦ nomatch h
  · refine returns_map_iff.trans ?_
    rw [returns_parseMonthlyPeriod_iff, strip_periodText]
    exact ⟨fun h _ hmembers ↦ Option.some.inj hmembers ▸ h, fun h ↦ h members rfl⟩

/-- The period map is built when the first dimension is a dictionary and no period is of the year
0. -/
theorem returns_buildPeriodMap_iff {decoded : List (String × Json F)} :
    Returns (buildPeriodMap runtime decoded) ↔
      FirstDimensionIsDict (observationDimensions decoded) ∧
        ∀ item ∈ dimensionValues decoded, ∀ members, item.dict? = some members →
          ¬ IsYearZero (periodText runtime members).toList := by
  have hitems : ∀ values : List (Json F),
      Returns (collect (statCanPeriod runtime) takeReading ∅ values.zipIdx) ↔
        ∀ item ∈ values, ∀ members, item.dict? = some members →
          ¬ IsYearZero (periodText runtime members).toList := by
    intro values
    simp only [returns_collect_iff, returns_statCanPeriod_iff]
    rw [← List.forall_mem_map (f := Prod.fst) (P := fun item : Json F ↦ ∀ members,
      item.dict? = some members → ¬ IsYearZero (periodText runtime members).toList),
      List.zipIdx_map_fst]
  rw [buildPeriodMap, returns_bind_iff, ← returns_firstDimensionValues_iff]
  constructor
  · rintro ⟨values, hvalues, hcollect⟩
    rw [firstDimensionValues_eq_ok hvalues, hitems] at hcollect
    exact ⟨⟨values, hvalues⟩, hcollect⟩
  · rintro ⟨⟨values, hvalues⟩, hperiods⟩
    refine ⟨values, hvalues, ?_⟩
    rw [firstDimensionValues_eq_ok hvalues, hitems]
    exact hperiods

/-- A period map gives a number the month that the first dimension gives it. -/
theorem lookup_of_buildPeriodMap {decoded : List (String × Json F)} {periodMap : Table ℤ Month}
    (h : buildPeriodMap runtime decoded = .ok periodMap) :
    periodMap.lookup = statCanPeriodOf runtime decoded := by
  obtain ⟨values, hvalues, hcollect⟩ := bind_eq_ok_iff.1 h
  rw [firstDimensionValues_eq_ok hvalues] at hcollect
  have hall := returns_collect_iff.1 ⟨periodMap, hcollect⟩
  obtain rfl := Except.ok.inj (hcollect.symm.trans (collect_eq_ok hall ∅))
  exact lookup_foldl_takeReading _

theorem returns_statCanExtractFromObject_iff (decoded : List (String × Json F)) :
    Returns (statCanExtractFromObject runtime decoded) ↔
      StatCanObjectDecodable runtime decoded := by
  rw [statCanExtractFromObject, returns_bind_iff]
  constructor
  · rintro ⟨periodMap, hmap, hextract⟩
    rw [lookup_of_buildPeriodMap hmap, returns_observationOf_iff] at hextract
    obtain ⟨hdimension, hperiods⟩ := returns_buildPeriodMap_iff.1 ⟨periodMap, hmap⟩
    exact ⟨hdimension, hperiods,
      fun o ho ↦ returns_observationReading_iff.1 (hextract.1 o ho), hextract.2⟩
  · rintro ⟨hdimension, hperiods, hvalues, hyoy⟩
    obtain ⟨periodMap, hmap⟩ := returns_buildPeriodMap_iff.2 ⟨hdimension, hperiods⟩
    refine ⟨periodMap, hmap, ?_⟩
    rw [lookup_of_buildPeriodMap hmap, returns_observationOf_iff]
    exact ⟨fun o ho ↦ returns_observationReading_iff.2 (hvalues o ho), hyoy⟩

theorem returns_csvReading_iff {periodIdx valueIdx : ℕ} {line : List Char} :
    Returns (csvReading runtime periodIdx valueIdx line) ↔
      ∀ period value, (lineCells line)[periodIdx]? = some period →
        (lineCells line)[valueIdx]? = some value → ¬ IsYearZero (strip period.toList) := by
  rw [csvReading]
  rcases (lineCells line)[periodIdx]? with - | period
  · exact iff_of_true (returns_ok _) fun _ _ h ↦ nomatch h
  rcases (lineCells line)[valueIdx]? with - | value
  · exact iff_of_true (returns_ok _) fun _ _ _ h ↦ nomatch h
  · refine returns_map_iff.trans ((returns_parseMonthlyPeriod_iff period).trans ?_)
    exact ⟨fun h _ _ hperiod _ ↦ Option.some.inj hperiod ▸ h, fun h ↦ h period value rfl rfl⟩

theorem returns_statCanExtractFromCsv_iff (payload : String) :
    Returns (statCanExtractFromCsv runtime payload) ↔ StatCanCsvDecodable runtime payload := by
  rw [statCanExtractFromCsv, StatCanCsvDecodable]
  rcases csvTable payload with - | ⟨⟨periodIdx, valueIdx⟩, lines⟩
  · exact iff_of_true (returns_ok _) fun _ _ _ h ↦ nomatch h
  · refine returns_observationOf_iff.trans ?_
    simp only [returns_csvReading_iff]
    constructor
    · rintro h _ _ _ heq
      obtain ⟨⟨rfl, rfl⟩, rfl⟩ := Option.some.inj heq
      exact h
    · exact fun h ↦ h periodIdx valueIdx lines rfl

/-- **When the StatCan extraction returns.** -/
theorem returns_statCanExtractObservation_iff {body : String × String} :
    Returns (statCanExtractObservation runtime body) ↔ StatCanDecodable runtime body := by
  rw [statCanExtractObservation, StatCanDecodable]
  split
  · exact returns_statCanExtractFromCsv_iff body.1
  · exact returns_extractFromText_iff _ returns_statCanExtractFromObject_iff

end InvestmentAssistant
