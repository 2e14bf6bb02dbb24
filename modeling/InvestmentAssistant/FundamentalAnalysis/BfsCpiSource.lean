import InvestmentAssistant.FundamentalAnalysis.OecdSdmxSource

/-!
# Consumer prices of Switzerland

`BfsCpiSource` asks the statistical office for the change itself, as a JSON list of points or as
comma-separated values, and takes the first point of the latest month.

The two decoders look a field up under several names, and pass over a name whose field is false. In
comma-separated values this is an empty text; in JSON it is a zero as well (`bfsParsePoint`).
-/

namespace InvestmentAssistant

open CollectLoop Text

variable {F : Type} (runtime : PyRuntime F)

/-- The first point of the latest month: a later point replaces it when its month is later. -/
def takeLatestPoint (latest : Option (Month × F)) (point : Month × F) : Option (Month × F) :=
  match latest with
  | none => some point
  | some best => if best.1.index < point.1.index then some point else some best

/-- The observation of a point. -/
def bfsObservation (point : Month × F) : MacroObservation F where
  value := point.2
  period := point.1
  source := "bfs"

/-! ### JSON -/

/-- `BfsCpiSource._decode_json_payload`. -/
def bfsDecodeJsonPayload (payload : String) : Except PyException (List (List (String × Json F))) :=
  match runtime.decodeJson payload with
  | .ok decoded => .ok ((decoded.list?.getD []).filterMap Json.dict?)
  | .error e => if e.isValueError then .ok [] else .error e

/-- `parse_point`: the month and the value of a point, if it has both and the value is finite. -/
def bfsParsePoint (item : List (String × Json F)) : Except PyException (Option (Month × F)) :=
  let period := Json.textOrEmpty runtime
    (Json.orElse runtime (item.lookup "period") (item.lookup "TIME_PERIOD"))
  parseMonthlyPeriod period >>= fun period ↦
    match period, Json.orElse runtime (item.lookup "value") (item.lookup "OBS_VALUE") with
    | some period, some rawValue =>
      (rawValue.float? runtime).map fun value ↦
        (value.filter fun value ↦ runtime.isfinite value).map fun value ↦ (period, value)
    | _, _ => .ok none

/-- `BfsCpiSource._extract_latest_from_points`: `max` keeps the first of the latest points. -/
def bfsExtractLatestFromPoints (points : List (List (String × Json F))) :
    Except PyException (Option (MacroObservation F)) :=
  (collect (bfsParsePoint runtime) takeLatestPoint none points).map (Option.map bfsObservation)

/-- `BfsCpiSource._extract_observation_from_json`. -/
def bfsExtractFromJson (payload : String) : Except PyException (Option (MacroObservation F)) :=
  bfsDecodeJsonPayload runtime payload >>= bfsExtractLatestFromPoints runtime

/-! ### Comma-separated values -/

/-- One row: the month and the value, if it has both and the value is finite. -/
def bfsRowReading (header row : List String) : Except PyException (Option (Month × F)) :=
  (parseMonthlyPeriod (rowGetFirst header row ["TIME_PERIOD", "TIME", "Period", "period"])).map
    fun period ↦ period.bind fun period ↦
      let valueText := rowGetFirst header row ["OBS_VALUE", "Value", "value", "inflation_yoy"]
      ((runtime.ofText valueText).filter fun value ↦ runtime.isfinite value).map fun value ↦
        (period, value)

/-- `BfsCpiSource._extract_observation_from_csv`: the rows are read one by one, so that a row that
raises comes before a failure of the reader behind it. -/
def bfsExtractFromCsv (payload : String) : Except PyException (Option (MacroObservation F)) :=
  match Csv.stream payload with
  | ([], none) => .ok none
  | ([], some _) => .error csvError
  | (header :: rows, failure) =>
    collect (bfsRowReading runtime header) takeLatestPoint none (rows.filter (· ≠ [])) >>=
      fun latest ↦
        match failure with
        | none => .ok (latest.map bfsObservation)
        | some _ => .error csvError

/-! ### The source -/

/-- `"json" in content_type.lower()`. -/
def isJsonContent (contentType : String) : Bool :=
  decide ("json".toList <:+: contentType.toList.map Char.toLower)

/-- `BfsCpiSource._extract_observation`. -/
def bfsExtractObservation (body : String × String) :
    Except PyException (Option (MacroObservation F)) :=
  if isJsonContent body.2 then bfsExtractFromJson runtime body.1
  else bfsExtractFromCsv runtime body.1

/-- `BfsCpiSource._request_payload`, for what the last attempt brings. -/
def bfsRequestPayload (answer : Except PyException HttpResponse) :
    Except PyException (Option (String × String)) :=
  match answer with
  | .error e => .error e
  | .ok response =>
    if 500 ≤ response.statusCode then .error (.runtimeError "BFS transient HTTP error")
    else if 400 ≤ response.statusCode then .ok none
    else .ok (some (response.text, response.contentType))

/-- `BfsCpiSource.fetch_ch_cpi_yoy`. -/
def fetchChCpiYoy (answer : Except PyException HttpResponse)
    (caches : CpiCaches (MacroObservation F)) :
    Except PyException (Option (MacroObservation F)) × CpiCaches (MacroObservation F) :=
  fetchCpi (bfsExtractObservation runtime) (bfsRequestPayload answer) caches

/-! ### The latest point -/

/-- A point is the first one of the latest month. -/
def IsFirstLatest (points : List (Month × F)) (point : Month × F) : Prop :=
  ∃ before after, points = before ++ point :: after ∧
    (∀ p ∈ before, p.1.index < point.1.index) ∧ ∀ p ∈ after, p.1.index ≤ point.1.index

theorem foldl_takeLatestPoint_ne_none {points : List (Month × F)} (hne : points ≠ []) :
    points.foldl takeLatestPoint none ≠ none := by
  induction points using List.reverseRecOn with
  | nil => exact absurd rfl hne
  | append_singleton points p ih =>
    rw [List.foldl_append, List.foldl_cons, List.foldl_nil, takeLatestPoint.eq_def]
    split
    · exact Option.some_ne_none p
    · split
      · exact Option.some_ne_none p
      · exact Option.some_ne_none _

/-- A loop over points keeps one of them. -/
theorem isFirstLatest_of_foldl {points : List (Month × F)} {point : Month × F}
    (h : points.foldl takeLatestPoint none = some point) : IsFirstLatest points point := by
  induction points using List.reverseRecOn generalizing point with
  | nil => cases h
  | append_singleton points p ih =>
    rw [List.foldl_append, List.foldl_cons, List.foldl_nil] at h
    rcases hlatest : points.foldl takeLatestPoint none with - | best
    · rw [hlatest] at h
      obtain rfl := Option.some.inj h
      have hnil : points = [] := not_not.1 fun hne ↦ foldl_takeLatestPoint_ne_none hne hlatest
      subst hnil
      exact ⟨[], [], rfl, by simp, by simp⟩
    · obtain ⟨before, after, rfl, hbefore, hafter⟩ := ih hlatest
      rw [hlatest, takeLatestPoint] at h
      split at h
      · next hlt =>
        obtain rfl := Option.some.inj h
        refine ⟨before ++ best :: after, [], rfl, ?_, by simp⟩
        intro q hq
        rcases List.mem_append.1 hq with hq | hq
        · exact (hbefore q hq).trans hlt
        · rcases List.mem_cons.1 hq with rfl | hq
          · exact hlt
          · exact (hafter q hq).trans_lt hlt
      · next hle =>
        obtain rfl := Option.some.inj h
        refine ⟨before, after ++ [p], by simp, hbefore, ?_⟩
        exact List.forall_mem_append.2 ⟨hafter, List.forall_mem_singleton.2 (Int.not_lt.1 hle)⟩

/-- A point is kept until a later month comes. -/
theorem foldl_takeLatestPoint_of_le {points : List (Month × F)} {best : Month × F}
    (h : ∀ p ∈ points, p.1.index ≤ best.1.index) :
    points.foldl takeLatestPoint (some best) = some best := by
  induction points with
  | nil => rfl
  | cons p points ih =>
    obtain ⟨hp, hpoints⟩ := List.forall_mem_cons.1 h
    rw [List.foldl_cons, takeLatestPoint, if_neg (Int.not_lt.2 hp), ih hpoints]

/-- **What a loop over points keeps** is the first one of the latest month. -/
theorem foldl_takeLatestPoint_eq_some_iff {points : List (Month × F)} {point : Month × F} :
    points.foldl takeLatestPoint none = some point ↔ IsFirstLatest points point := by
  refine ⟨isFirstLatest_of_foldl, ?_⟩
  rintro ⟨before, after, rfl, hbefore, hafter⟩
  have hpoint : takeLatestPoint (before.foldl takeLatestPoint none) point = some point := by
    rcases hbest : before.foldl takeLatestPoint none with - | best
    · rfl
    · obtain ⟨left, right, rfl, -, -⟩ := isFirstLatest_of_foldl hbest
      exact if_pos (hbefore best (by simp))
  rw [List.foldl_append, List.foldl_cons, hpoint]
  exact foldl_takeLatestPoint_of_le hafter

theorem IsFirstLatest.mem {points : List (Month × F)} {point : Month × F}
    (h : IsFirstLatest points point) : point ∈ points := by
  obtain ⟨before, after, rfl, -, -⟩ := h
  exact List.mem_append_right _ (List.mem_cons_self ..)

/-- **Leaving points out** does not change what is kept exactly when it is not left out. -/
theorem foldl_takeLatestPoint_filter_iff {points : List (Month × F)} {keep : Month × F → Bool} :
    (points.filter keep).foldl takeLatestPoint none = points.foldl takeLatestPoint none ↔
      ∀ point, IsFirstLatest points point → keep point = true := by
  constructor
  · intro h point hpoint
    rw [foldl_takeLatestPoint_eq_some_iff.2 hpoint, foldl_takeLatestPoint_eq_some_iff] at h
    exact (List.mem_filter.1 h.mem).2
  · intro h
    rcases hlatest : points.foldl takeLatestPoint none with - | point
    · have hnil : points = [] := not_not.1 fun hne ↦ foldl_takeLatestPoint_ne_none hne hlatest
      rw [hnil]
      rfl
    · have hpoint := foldl_takeLatestPoint_eq_some_iff.1 hlatest
      have hkeep := h point hpoint
      obtain ⟨before, after, rfl, hbefore, hafter⟩ := hpoint
      refine foldl_takeLatestPoint_eq_some_iff.2 ⟨before.filter keep, after.filter keep, ?_, ?_, ?_⟩
      · rw [List.filter_append, List.filter_cons_of_pos hkeep]
      · exact fun p hp ↦ hbefore p (List.mem_of_mem_filter hp)
      · exact fun p hp ↦ hafter p (List.mem_of_mem_filter hp)

theorem bfsObservation_injective : Function.Injective (bfsObservation : Month × F → _) := by
  intro p q h
  obtain ⟨hvalue, hperiod, -, -⟩ := MacroObservation.mk.inj h
  exact Prod.ext hperiod hvalue

end InvestmentAssistant
