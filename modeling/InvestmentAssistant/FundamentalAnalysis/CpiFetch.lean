import InvestmentAssistant.FundamentalAnalysis.CpiYoy

/-!
# Fetching a CPI figure

The sources of CPI figures have one shape: a cached figure is returned; a recent failure is not
tried again; otherwise the response is requested, and a figure extracted from its body. An exception
of the request is caught and recorded as a failure, but the extraction stands outside the handler.

So a fetch is safe, it returns and records a failure when it has no figure, exactly when the
extraction does not raise on the body it is given (`fetchSafe_iff`).
-/

namespace InvestmentAssistant

open CollectLoop Table

/-! ### Readings -/

section Readings

variable {K F : Type} [DecidableEq K]

/-- `index_values[period] = value`. -/
def takeReading (indexValues : Table K F) (reading : K × F) : Table K F :=
  put indexValues reading.1 (some reading.2)

/-- The value of the last reading of a period. -/
def lastReading (readings : List (K × F)) (period : K) : Option F :=
  (lastWith Prod.fst period readings).map Prod.snd

/-- The collected values of a period are its last reading. -/
theorem lookup_foldl_takeReading (readings : List (K × F)) :
    (readings.foldl takeReading ∅).lookup = lastReading readings := by
  funext period
  have h := lookup_writeAll Prod.fst (fun r : K × F ↦ some r.2) ∅ readings period
  refine h.trans ?_
  rw [lastReading]
  cases lastWith Prod.fst period readings <;> rfl

end Readings

/-- An observation from the readings of a list of elements. -/
def observationOf {F α : Type} (ops : FloatOps F) (source : String)
    (reading : α → Except PyException (Option (Month × F))) (elements : List α) :
    Except PyException (Option (MacroObservation F)) :=
  collect reading takeReading ∅ elements >>= computeYoyObservation ops source

/-- **When an observation is computed**: every element can be read, and the search for the latest
change does not get to the year 1. -/
theorem returns_observationOf_iff {F α : Type} {ops : FloatOps F} {source : String}
    {reading : α → Except PyException (Option (Month × F))} {elements : List α} :
    Returns (observationOf ops source reading elements) ↔
      (∀ a ∈ elements, Returns (reading a)) ∧
        YoyTotal ops (usableValues ops (lastReading (elements.filterMap (yields reading)))) := by
  rw [observationOf, returns_bind_iff]
  constructor
  · rintro ⟨indexValues, hcollect, hcompute⟩
    have hall := returns_collect_iff.1 ⟨indexValues, hcollect⟩
    obtain rfl := Except.ok.inj (hcollect.symm.trans (collect_eq_ok hall ∅))
    rw [returns_computeYoyObservation_iff, lookup_foldl_takeReading] at hcompute
    exact ⟨hall, hcompute⟩
  · rintro ⟨hall, htotal⟩
    refine ⟨_, collect_eq_ok hall ∅, ?_⟩
    rw [returns_computeYoyObservation_iff, lookup_foldl_takeReading]
    exact htotal

/-! ### Requests and caches -/

/-- A response of a statistics service. -/
structure HttpResponse where
  statusCode : ℤ
  text : String
  contentType : String := ""
  deriving DecidableEq, Repr

/-- The two caches of a source, without the entries that have expired. -/
structure CpiCaches (V : Type) where
  cached : Option V := none
  /-- A failure has been recorded. -/
  negative : Bool := false
  deriving DecidableEq, Repr

section Fetch

variable {P V : Type} (extract : P → Except PyException (Option V))
  (request : Except PyException (Option P)) (caches : CpiCaches V)

/-- The course of a fetch, for what the request brings. -/
def fetchCpi : Except PyException (Option V) × CpiCaches V :=
  match caches.cached with
  | some value => (.ok (some value), caches)
  | none =>
    if caches.negative then (.ok none, caches)
    else
      match request with
      | .error _ | .ok none => (.ok none, { caches with negative := true })
      | .ok (some payload) =>
        match extract payload with
        | .error e => (.error e, caches)
        | .ok none => (.ok none, { caches with negative := true })
        | .ok (some value) => (.ok (some value), ⟨some value, false⟩)

/-- A fetch that returns, and has recorded a failure when it has no value. -/
structure FetchSafe (call : Except PyException (Option V) × CpiCaches V) : Prop where
  returns : Returns call.1
  recorded : call.1 = .ok none → call.2.negative = true

variable {extract request caches}

/-- **When a fetch is safe**: the extraction returns, where it is asked at all. -/
theorem fetchSafe_iff :
    FetchSafe (fetchCpi extract request caches) ↔
      (caches.cached = none → caches.negative = false →
        ∀ payload, request = .ok (some payload) → Returns (extract payload)) := by
  obtain ⟨- | value, - | -⟩ := caches
  · rcases request with e | - | payload
    · exact iff_of_true ⟨returns_ok _, fun _ ↦ rfl⟩ fun _ _ _ h ↦ nomatch h
    · exact iff_of_true ⟨returns_ok _, fun _ ↦ rfl⟩ fun _ _ _ h ↦ nomatch h
    · rw [fetchCpi]
      constructor
      · rintro ⟨hreturns, -⟩ - - payload' hpayload
        obtain rfl := Option.some.inj (Except.ok.inj hpayload)
        rcases hextract : extract payload with e | value
        · rw [hextract] at hreturns
          exact absurd hreturns (not_returns_error e)
        · exact returns_ok value
      · intro h
        obtain ⟨value, hvalue⟩ := h rfl rfl payload rfl
        rw [hvalue]
        rcases value with - | value
        · exact ⟨returns_ok _, fun _ ↦ rfl⟩
        · exact ⟨returns_ok _, fun hnone ↦ nomatch Except.ok.inj hnone⟩
  · exact iff_of_true ⟨returns_ok _, fun _ ↦ rfl⟩ fun _ h ↦ nomatch h
  · exact iff_of_true ⟨returns_ok _, fun h ↦ nomatch Except.ok.inj h⟩ fun h ↦ nomatch h
  · exact iff_of_true ⟨returns_ok _, fun h ↦ nomatch Except.ok.inj h⟩ fun h ↦ nomatch h

end Fetch

end InvestmentAssistant
