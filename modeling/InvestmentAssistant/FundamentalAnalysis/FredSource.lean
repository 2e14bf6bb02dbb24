import InvestmentAssistant.Core.InstrumentClassifier
import InvestmentAssistant.Foundation.Text
import InvestmentAssistant.Foundation.Transition
import InvestmentAssistant.Foundation.TtlCache

/-!
# The FRED source

`FredSource` answers from five caches and asks the FRED API for what they do not hold. Any number of
calls may be under way, each suspended where it awaits the metadata or the data of a series, so the
source is a system whose events are the starts of calls, the answers of the API, the passing of
time, and the entries that the caches drop to make room (`FredEvent`). Between two awaits a call
runs alone: `walk` goes through its series until one has an answer or has to be asked for.

A request is repeated up to three times after a network error; the pauses are part of the wait. The
window of a request ends at the clock's reading, so what is recorded of it is its length. An
`except` clause does not catch the cancellation of a task, which leaves the caches as they are.

The state also records what has come of the calls so far (`outcomes`) and what was requested.
-/

namespace InvestmentAssistant

open Transition

/-! ### The series -/

/-- `FREQUENCY_LOOKBACK_DAYS`. -/
def frequencyLookbackDays : List (String × ℤ) :=
  [("D", 365), ("W", 365), ("WEF", 365), ("WETH", 365), ("WEW", 365), ("WETU", 365), ("WEM", 365),
    ("WESU", 365), ("WESA", 365), ("BW", 365), ("BWEW", 365), ("BWEM", 365), ("M", 365), ("Q", 540),
    ("SA", 540), ("A", 730)]

/-- `FRED_SERIES`. -/
def fredSeries : List (String × String) :=
  [("fed_funds_rate", "FEDFUNDS"), ("cpi_us", "CPALTT01USM659N"), ("nonfarm_payrolls", "PAYEMS"),
    ("ism_pmi", "MANEMP"), ("gdp_us", "GDP"), ("unemployment_us", "UNRATE"),
    ("treasury_10y", "DGS10"), ("treasury_2y", "DGS2"), ("ecb_rate", "ECBDFR"),
    ("cpi_eu", "CP0000EZ19M086NEST"), ("cpi_uk", "CPALTT01GBM659N"), ("cpi_ch", "CPALTT01CHM659N"),
    ("cpi_au", "CPALTT01AUQ659N"), ("cpi_ca", "CPALTT01CAM659N"), ("boj_rate", "IRSTCI01JPM156N"),
    ("boe_rate", "IUDSOIA"), ("rba_rate", "IRSTCI01AUM156N"), ("boc_rate", "IRSTCI01CAM156N"),
    ("pl_rate", "IR3TIB01PLM156N"), ("cpi_pl", "CPALTT01PLM659N"),
    ("unemployment_pl", "LRHUTTTTPLM156S"), ("gdp_pl", "CLVMNACSCAB1GQPL"),
    ("snb_rate", "IR3TIB01CHM156N"), ("rbnz_rate", "IR3TIB01NZM156N"),
    ("cpi_nz", "NZLCPIALLQINMEI")]

/-- `FRED_SERIES_FALLBACKS`. -/
def fredSeriesFallbacks : List (String × List String) :=
  [("cpi_au", ["FPCPITOTLZGAUS"]), ("cpi_pl", ["FPCPITOTLZGPOL"])]

/-- `SERIES_YOY_UNITS`. -/
def seriesYoyUnits : List (String × String) :=
  [("CP0000EZ19M086NEST", "pc1"), ("NZLCPIALLQINMEI", "pc1")]

/-- `SERIES_LOOKBACK_DAYS`. -/
def seriesLookbackDays : List (String × ℤ) :=
  [("FPCPITOTLZGJPN", 730), ("FPCPITOTLZGAUS", 730), ("FPCPITOTLZGPOL", 730),
    ("CPALTT01GBM659N", 540), ("CPALTT01AUQ659N", 540), ("CPALTT01CAM659N", 540),
    ("CPALTT01USM659N", 540), ("CPALTT01CHM659N", 540), ("CPALTT01PLM659N", 540)]

/-- `_get_indicator_series_chain`. -/
def getIndicatorSeriesChain (indicatorName : String) : List String :=
  match fredSeries.lookup indicatorName with
  | none => []
  | some primarySeries =>
    primarySeries :: (fredSeriesFallbacks.lookup indicatorName).getD []

/-- `MAX_RETRIES`. -/
def maxRetries : ℕ := 3

/-! ### Lookback -/

/-- What `get_series_info` gives: the entry `frequency_short`, if it is there and a string. -/
structure SeriesInfo where
  frequencyShort : Option String
  deriving DecidableEq, Repr

/-- `strip().upper()`. -/
def normalizeFrequency (frequencyShort : String) : String :=
  upper (String.ofList (Text.strip frequencyShort.toList))

/-- `_extract_frequency_short`. -/
def extractFrequencyShort (metadata : SeriesInfo) : Option String :=
  (metadata.frequencyShort.map normalizeFrequency).filter (· ≠ "")

/-- `_lookback_days_for_frequency`. -/
def lookbackDaysForFrequency (frequencyShort : Option String) : Option ℤ :=
  frequencyShort.bind fun f ↦ frequencyLookbackDays.lookup (normalizeFrequency f)

/-- The candidates of `_resolve_effective_lookback`, after the requested one. -/
def lookbackCandidates (seriesId : String) (frequencyShort : Option String) : List ℤ :=
  (seriesLookbackDays.lookup seriesId).toList ++ (lookbackDaysForFrequency frequencyShort).toList ++
    if (seriesYoyUnits.lookup seriesId).isSome then [540] else []

/-- `_resolve_effective_lookback`, when the frequency is known. -/
def effectiveLookback (seriesId : String) (lookbackDays : ℤ) (frequencyShort : Option String) : ℤ :=
  (lookbackCandidates seriesId frequencyShort).foldl max lookbackDays

/-! ### Data -/

/-- A row of a series: its day, where the index has one, and its value, none for `NaN`. -/
structure SeriesRow (F : Type) where
  day : Option ℤ
  value : Option F
  deriving DecidableEq

/-- `MacroObservation` as FRED gives it, whose period is a day. -/
structure FredObservation (F : Type) where
  value : F
  period : ℤ
  source : String := "fred"
  unit : String := "pct_yoy"
  deriving DecidableEq, Repr

/-- The observation of the last row with a value; a row without a day gets that of today. -/
def latestObservation {F : Type} (today : ℤ) (data : Option (List (SeriesRow F))) :
    Option (FredObservation F) :=
  let cleaned := (data.getD []).filterMap fun row ↦ row.value.map fun v ↦ (row.day, v)
  cleaned.getLast?.map fun lastRow ↦ { value := lastRow.2, period := lastRow.1.getD today }

/-- What an attempt at a request comes to. -/
inductive ApiAnswer (α : Type)
  | osError
  | otherError
  | answered (result : Option α)

/-! ### The system -/

/-- The five caches of a source. -/
structure FredCaches (F : Type) where
  value : TtlCache String F := ∅
  observation : TtlCache String (FredObservation F) := ∅
  negative : TtlCache String Unit := ∅
  seriesInfo : TtlCache String SeriesInfo := ∅
  seriesInfoNegative : TtlCache String Unit := ∅

/-- The name of a cache. -/
inductive FredCache
  | value
  | observation
  | negative
  | seriesInfo
  | seriesInfoNegative
  deriving DecidableEq, Repr

/-- `cache_key`. -/
def cacheKey (seriesId : String) : String :=
  "fred:" ++ seriesId

/-- `observation_cache_key`. -/
def observationCacheKey (seriesId : String) : String :=
  "fred_obs:" ++ seriesId

/-- `metadata_cache_key`. -/
def metadataCacheKey (seriesId : String) : String :=
  "fred_meta:" ++ seriesId

/-- `CACHE_TTL_SECONDS`. -/
def cacheTtlSeconds : ℚ := 86400

/-- `NEGATIVE_CACHE_TTL_SECONDS`. -/
def negativeCacheTtlSeconds : ℚ := 300

/-- `METADATA_CACHE_TTL_SECONDS`. -/
def metadataCacheTtlSeconds : ℚ := 86400

/-- `METADATA_NEGATIVE_CACHE_TTL_SECONDS`. -/
def metadataNegativeCacheTtlSeconds : ℚ := 300

/-- An entry is dropped from a cache. -/
def FredCaches.evict {F : Type} (caches : FredCaches F) (cache : FredCache) (key : String) :
    FredCaches F :=
  match cache with
  | .value => { caches with value := caches.value.pop key }
  | .observation => { caches with observation := caches.observation.pop key }
  | .negative => { caches with negative := caches.negative.pop key }
  | .seriesInfo => { caches with seriesInfo := caches.seriesInfo.pop key }
  | .seriesInfoNegative => { caches with seriesInfoNegative := caches.seriesInfoNegative.pop key }

/-- What a call returns: a value of the cache of values, or what came of its series. -/
inductive FredResult (F : Type)
  | cachedValue (value : F)
  | observed (observation : Option (FredObservation F))
  deriving DecidableEq

/-- The series a call is busy with, those to try after it, and the lookback it asked for. -/
structure FredCall where
  seriesId : String
  rest : List String
  lookbackDays : ℤ
  deriving DecidableEq, Repr

/-- Where a call is; the attempts at a request count from 1. -/
inductive FredPhase (F : Type)
  | idle
  | awaitInfo (call : FredCall) (attempt : ℕ)
  | awaitData (call : FredCall) (attempt : ℕ)
  | finished (result : FredResult F)
  | cancelled
  deriving DecidableEq

/-- What came of a series: an observation, or nothing. -/
structure FredOutcome (F : Type) where
  seriesId : String
  time : ℚ
  observation : Option (FredObservation F)
  deriving DecidableEq

/-- A request for the data of a series. -/
structure FredRequest where
  seriesId : String
  lookbackDays : ℤ
  units : Option String
  deriving DecidableEq, Repr

/-- The time, the caches, the calls, and the history: the series each call was started for, what
came of the series, and the requests. -/
structure FredState (F : Type) where
  now : ℚ := 0
  caches : FredCaches F := {}
  phase : ℕ → FredPhase F := fun _ ↦ .idle
  chain : ℕ → List String := fun _ ↦ []
  outcomes : List (FredOutcome F) := []
  requests : List FredRequest := []

namespace FredState

variable {F : Type} (s : FredState F) (call : ℕ)

/-- A call moves on. -/
def advance (phase : FredPhase F) : FredState F :=
  { s with phase := Function.update s.phase call phase }

/-- A call is started for a chain of series. -/
def start (chain : List String) : FredState F :=
  { s with chain := Function.update s.chain call chain }

/-- The negative cache is told that nothing came of a series. -/
def fail (seriesId : String) : FredState F :=
  { s with
    caches := { s.caches with
      negative := s.caches.negative.set negativeCacheTtlSeconds s.now (cacheKey seriesId) () }
    outcomes := s.outcomes ++ [⟨seriesId, s.now, none⟩] }

/-- The caches are told the observation of a series. -/
def succeed (seriesId : String) (observation : FredObservation F) : FredState F :=
  { s with
    caches := { s.caches with
      value := s.caches.value.set cacheTtlSeconds s.now (cacheKey seriesId) observation.value
      observation := s.caches.observation.set cacheTtlSeconds s.now (observationCacheKey seriesId)
        observation
      negative := s.caches.negative.pop (cacheKey seriesId) }
    outcomes := s.outcomes ++ [⟨seriesId, s.now, some observation⟩] }

/-- The caches are told that a series has no metadata. -/
def failInfo (seriesId : String) : FredState F :=
  { s with caches := { s.caches with
      seriesInfoNegative := s.caches.seriesInfoNegative.set metadataNegativeCacheTtlSeconds s.now
        (metadataCacheKey seriesId) () } }

/-- The caches are told the metadata of a series. -/
def succeedInfo (seriesId : String) (metadata : SeriesInfo) : FredState F :=
  { s with caches := { s.caches with
      seriesInfo := s.caches.seriesInfo.set metadataCacheTtlSeconds s.now
        (metadataCacheKey seriesId) metadata
      seriesInfoNegative := s.caches.seriesInfoNegative.pop (metadataCacheKey seriesId) } }

/-- The data of a series are requested. -/
def request (c : FredCall) (frequencyShort : Option String) : FredState F :=
  { s.advance call (.awaitData c 1) with
    requests := s.requests ++ [{
      seriesId := c.seriesId
      lookbackDays := effectiveLookback c.seriesId c.lookbackDays frequencyShort
      units := seriesYoyUnits.lookup c.seriesId }] }

/-- `_get_series_frequency_short` up to its request; without one, the data are requested. -/
def resolve (c : FredCall) : FredState F :=
  match s.caches.seriesInfo.get s.now (metadataCacheKey c.seriesId) with
  | some metadata => s.request call c (extractFrequencyShort metadata)
  | none =>
    if (s.caches.seriesInfoNegative.get s.now (metadataCacheKey c.seriesId)).isSome then
      s.request call c none
    else s.advance call (.awaitInfo c 1)

/-- The checks with which `fetch_series_observation` begins: what it returns without a request. -/
def cachedAnswer (seriesId : String) : Option (Option (FredObservation F)) :=
  match s.caches.observation.get s.now (observationCacheKey seriesId) with
  | some observation => some (some observation)
  | none =>
    let cachedValue := s.caches.value.get s.now (cacheKey seriesId)
    let isNegative := (s.caches.negative.get s.now (cacheKey seriesId)).isSome
    if cachedValue.isSome ∧ isNegative then some none
    else if isNegative then some none
    else none

/-- A call goes through series until one has an observation or has to be asked for; without an API
key `_get_fred` raises. -/
def walk (configured : Bool) (lookbackDays : ℤ) (s : FredState F) (call : ℕ) :
    List String → FredState F
  | [] => s.advance call (.finished (.observed none))
  | seriesId :: rest =>
    match s.cachedAnswer seriesId with
    | some (some observation) => s.advance call (.finished (.observed (some observation)))
    | some none => walk configured lookbackDays s call rest
    | none =>
      if configured then s.resolve call ⟨seriesId, rest, lookbackDays⟩
      else walk configured lookbackDays (s.fail seriesId) call rest

end FredState

/-- The events of a source. -/
inductive FredEvent (F : Type)
  | tick (seconds : ℚ)
  | evict (cache : FredCache) (key : String)
  | fetchSeriesObservation (call : ℕ) (seriesId : String) (lookbackDays : ℤ)
  | fetchSeries (call : ℕ) (seriesId : String) (lookbackDays : ℤ)
  | fetchIndicatorObservation (call : ℕ) (indicatorName : String) (lookbackDays : ℤ)
  | infoAnswer (call : ℕ) (answer : ApiAnswer SeriesInfo)
  | dataAnswer (call : ℕ) (answer : ApiAnswer (List (SeriesRow F))) (today : ℤ)
  | cancel (call : ℕ)

section Step

variable {F : Type} (configured : Bool) (s : FredState F) (call : ℕ)

/-- A request for metadata is answered. -/
def FredState.takeInfo (c : FredCall) (attempt : ℕ) : ApiAnswer SeriesInfo → FredState F
  | .osError =>
    if attempt < maxRetries then s.advance call (.awaitInfo c (attempt + 1))
    else (s.failInfo c.seriesId).request call c none
  | .otherError => (s.failInfo c.seriesId).request call c none
  | .answered none => (s.failInfo c.seriesId).request call c none
  | .answered (some metadata) =>
    (s.succeedInfo c.seriesId metadata).request call c (extractFrequencyShort metadata)

/-- A request for data is answered. -/
def FredState.takeData (c : FredCall) (attempt : ℕ) (today : ℤ) :
    ApiAnswer (List (SeriesRow F)) → FredState F
  | .osError =>
    if attempt < maxRetries then s.advance call (.awaitData c (attempt + 1))
    else (s.fail c.seriesId).walk configured c.lookbackDays call c.rest
  | .otherError => (s.fail c.seriesId).walk configured c.lookbackDays call c.rest
  | .answered data =>
    match latestObservation today data with
    | none => (s.fail c.seriesId).walk configured c.lookbackDays call c.rest
    | some observation =>
      (s.succeed c.seriesId observation).advance call (.finished (.observed (some observation)))

/-- One step of the source. -/
def fredStep : FredEvent F → Option (FredState F)
  | .tick seconds => if 0 ≤ seconds then some { s with now := s.now + seconds } else none
  | .evict cache key => some { s with caches := s.caches.evict cache key }
  | .fetchSeriesObservation call seriesId lookbackDays =>
    match s.phase call with
    | .idle => some ((s.start call [seriesId]).walk configured lookbackDays call [seriesId])
    | _ => none
  | .fetchSeries call seriesId lookbackDays =>
    match s.phase call with
    | .idle =>
      match s.caches.value.get s.now (cacheKey seriesId) with
      | some value => some ((s.start call [seriesId]).advance call (.finished (.cachedValue value)))
      | none => some ((s.start call [seriesId]).walk configured lookbackDays call [seriesId])
    | _ => none
  | .fetchIndicatorObservation call indicatorName lookbackDays =>
    match s.phase call with
    | .idle =>
      let chain := getIndicatorSeriesChain indicatorName
      some ((s.start call chain).walk configured lookbackDays call chain)
    | _ => none
  | .infoAnswer call answer =>
    match s.phase call with
    | .awaitInfo c attempt => some (s.takeInfo call c attempt answer)
    | _ => none
  | .dataAnswer call answer today =>
    match s.phase call with
    | .awaitData c attempt => some (s.takeData configured call c attempt today answer)
    | _ => none
  | .cancel call =>
    match s.phase call with
    | .awaitInfo _ _ => some (s.advance call .cancelled)
    | .awaitData _ _ => some (s.advance call .cancelled)
    | _ => none

end Step

end InvestmentAssistant
