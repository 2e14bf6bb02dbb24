import InvestmentAssistant.FundamentalAnalysis.BlsCpiSource

/-!
# Observations in SDMX JSON

The payload of the two SDMX services has its periods in one place, the values of the first
observation dimension, and its figures in another, the observations of a series, which name a period
by its number.

The guards test each level except one: the first observation dimension is taken for a dictionary.
And a figure is converted by `float` under a handler that does not expect an integer out of range.
So these are the two ways in which reading the payload raises (`returns_firstDimensionValues_iff`,
`returns_observationReading_iff`).
-/

namespace InvestmentAssistant

open CollectLoop IntText

variable {F : Type} (runtime : PyRuntime F)

/-- `decoded["structure"]["dimensions"]["observation"]`, when it is a list. -/
def observationDimensions (decoded : List (String × Json F)) : Option (List (Json F)) := do
  let structure_ ← (decoded.lookup "structure").bind Json.dict?
  let dimensions ← (structure_.lookup "dimensions").bind Json.dict?
  (dimensions.lookup "observation").bind Json.list?

/-- `observation_dimensions[0].get("values")`, when there are dimensions and it is a list. -/
def firstDimensionValues : Option (List (Json F)) → Except PyException (Option (List (Json F)))
  | none | some [] => .ok none
  | some (.dict members :: _) => .ok ((members.lookup "values").bind Json.list?)
  | some (_ :: _) => .error attributeError

/-- The first dimension, where there is one, is a dictionary. -/
def FirstDimensionIsDict (dimensions : Option (List (Json F))) : Prop :=
  ∀ first rest, dimensions = some (first :: rest) → ∃ members, first.dict? = some members

theorem returns_firstDimensionValues_iff {dimensions : Option (List (Json F))} :
    Returns (firstDimensionValues dimensions) ↔ FirstDimensionIsDict dimensions := by
  rcases dimensions with - | ⟨- | ⟨first, rest⟩⟩
  · exact iff_of_true (returns_ok _) fun _ _ h ↦ nomatch h
  · exact iff_of_true (returns_ok _) fun _ _ h ↦ nomatch h
  · cases first with
    | dict members =>
      refine iff_of_true (returns_ok _) fun first' _ h ↦ ?_
      obtain ⟨rfl, -⟩ := List.cons.inj (Option.some.inj h)
      exact ⟨members, rfl⟩
    | _ =>
      refine iff_of_false (not_returns_error _) fun h ↦ ?_
      obtain ⟨members, hmembers⟩ := h _ rest rfl
      exact nomatch hmembers

/-- The values of the first dimension. -/
def dimensionValues (decoded : List (String × Json F)) : List (Json F) :=
  match observationDimensions decoded with
  | some (.dict members :: _) => ((members.lookup "values").bind Json.list?).getD []
  | _ => []

theorem firstDimensionValues_eq_ok {decoded : List (String × Json F)}
    {values : Option (List (Json F))}
    (h : firstDimensionValues (observationDimensions decoded) = .ok values) :
    values.getD [] = dimensionValues decoded := by
  rw [dimensionValues]
  generalize observationDimensions decoded = dimensions at h ⊢
  rcases dimensions with - | ⟨- | ⟨first, rest⟩⟩
  · obtain rfl := Except.ok.inj h
    rfl
  · obtain rfl := Except.ok.inj h
    rfl
  · cases first with
    | dict members =>
      obtain rfl := Except.ok.inj h
      rfl
    | _ => exact nomatch h

/-- `str(item.get("id") or item.get("name") or "").strip()`. -/
def periodText (item : List (String × Json F)) : String :=
  String.ofList <| Text.strip <|
    (Json.textOrEmpty runtime (Json.orElse runtime (item.lookup "id") (item.lookup "name"))).toList

/-- `series_value["observations"]`, when it is a dictionary. -/
def observationsOf (seriesValue : Json F) : Option (List (String × Json F)) := do
  let members ← seriesValue.dict?
  (members.lookup "observations").bind Json.dict?

theorem strip_periodText (item : List (String × Json F)) :
    Text.strip (periodText runtime item).toList = (periodText runtime item).toList := by
  rw [periodText, String.toList_ofList, Text.strip_strip]

/-- The observations of the first series that has some, in `data_sets[0]["series"]`. -/
def seriesObservations (dataSets : Option (List (Json F))) : List (String × Json F) :=
  (do
    let firstDataSet ← (dataSets.bind List.head?).bind Json.dict?
    let series ← (firstDataSet.lookup "series").bind Json.dict?
    series.findSome? fun member : String × Json F ↦ observationsOf member.2).getD []

/-- `int(key.split(":", maxsplit=1)[0])`. -/
def observationIndex (key : String) : Option ℤ :=
  int? (key.toList.takeWhile (· ≠ ':'))

/-- One observation: the period its number stands for and its value, if it has both. -/
def observationReading {P : Type} (periodOf : ℤ → Option P) (observation : String × Json F) :
    Except PyException (Option (P × F)) :=
  match (observationIndex observation.1).bind periodOf, observation.2.list? with
  | some period, some (first :: _) =>
    (first.float? runtime).map fun value ↦ value.map fun value ↦ (period, value)
  | _, _ => .ok none

/-- The value of an observation with a period is no integer out of the range of floats. -/
def ObservationInRange {P : Type} (periodOf : ℤ → Option P) (observation : String × Json F) :
    Prop :=
  ∀ period n rest, (observationIndex observation.1).bind periodOf = some period →
    observation.2.list? = some (.int n :: rest) → ¬ FloatOverflow n

variable {runtime}

theorem returns_observationReading_iff {P : Type} {periodOf : ℤ → Option P}
    {observation : String × Json F} :
    Returns (observationReading runtime periodOf observation) ↔
      ObservationInRange periodOf observation := by
  rw [observationReading, ObservationInRange]
  rcases (observationIndex observation.1).bind periodOf with - | period
  · exact iff_of_true (returns_ok _) fun _ _ _ h ↦ nomatch h
  rcases observation.2.list? with - | - | ⟨first, rest⟩
  · exact iff_of_true (returns_ok _) fun _ _ _ _ h ↦ nomatch h
  · exact iff_of_true (returns_ok _) fun _ _ _ _ h ↦ nomatch h
  · refine returns_map_iff.trans ((Json.returns_float?_iff runtime first).trans ?_)
    constructor
    · rintro h _ n _ - heq
      exact h n (List.cons.inj (Option.some.inj heq)).1
    · rintro h n rfl
      exact h period n rest rfl rfl

/-! ### Payloads as text -/

section Text

variable {V : Type} (extract : List (String × Json F) → Except PyException (Option V))

/-- Decode a payload, and extract from it if it is an object. -/
def extractFromText (runtime : PyRuntime F) (payload : String) : Except PyException (Option V) :=
  decodeObject runtime payload >>= fun decoded ↦
    match decoded with
    | none => .ok none
    | some decoded => extract decoded

/-- The decoder fails with a `ValueError` only, and what it makes of an object can be extracted
from. -/
def TextDecodable (runtime : PyRuntime F) (decodable : List (String × Json F) → Prop)
    (payload : String) : Prop :=
  (∀ e, runtime.decodeJson payload = .error e → e.isValueError = true) ∧
    ∀ decoded, runtime.decodeJson payload = .ok (.dict decoded) → decodable decoded

theorem returns_extractFromText_iff {decodable : List (String × Json F) → Prop}
    (h : ∀ decoded, Returns (extract decoded) ↔ decodable decoded) {payload : String} :
    Returns (extractFromText extract runtime payload) ↔
      TextDecodable runtime decodable payload := by
  rw [extractFromText, decodeObject, TextDecodable]
  rcases runtime.decodeJson payload with e | decoded
  · dsimp only
    split
    · next he =>
      exact iff_of_true (returns_ok _) ⟨fun _ h ↦ Except.error.inj h ▸ he, fun _ h ↦ nomatch h⟩
    · next he => exact iff_of_false (not_returns_error _) fun h ↦ he (h.1 e rfl)
  · cases decoded with
    | dict members =>
      refine (h members).trans ?_
      constructor
      · exact fun h ↦ ⟨fun _ h ↦ (nomatch h), fun _ heq ↦ Json.dict.inj (Except.ok.inj heq) ▸ h⟩
      · exact fun h ↦ h.2 members rfl
    | _ =>
      exact iff_of_true (returns_ok _) ⟨fun _ h ↦ (nomatch h), fun _ h ↦ nomatch Except.ok.inj h⟩

end Text

end InvestmentAssistant
