import InvestmentAssistant.DataAcquisition.ConcurrentFetch
import InvestmentAssistant.DataAcquisition.FallbackChain
import InvestmentAssistant.DataAcquisition.ReadThrough

/-!
# Fetching one time frame

`MultiTimeframeFetcher._fetch_single_timeframe` has three layers: it reads through the cache, else
it asks the providers directly, else it returns what is cached. Everything around it may fail:
opening and closing a session, the queries and the upsert, and the providers, which may answer the
second request differently from the first. Other tasks may write to the table in between
(`FetchSurroundings`).

An empty list is never returned, and an error is raised only when all three layers brought nothing
(`fetchSingleTimeframe_available`).
-/

namespace InvestmentAssistant

open FallbackChainManager

/-! ### Sessions and the chain -/

/-- The errors of a session outside its queries: those of opening it and of closing it. -/
structure SessionFaults where
  opens : Option PyException := none
  closes : Option PyException := none

/-- `async with session_factory() as session`. What the body committed stays, and a session that
cannot be closed raises even if the body returned. -/
def withSession {α : Type} (faults : SessionFaults) (db : OhlcvTable)
    (body : Session → Except PyException α × Session) : Except PyException α × OhlcvTable :=
  match faults.opens with
  | some e => (.error e, db)
  | none =>
    let (result, session) := body (.start db)
    match faults.closes with
    | some e => (.error e, session.committed)
    | none => (result, session.committed)

/-- `DataTimeframe(value)`. -/
def DataTimeframe.ofValue (value : String) : Except PyException DataTimeframe :=
  match [m15, h1, h4, d1, w1].find? fun timeframe ↦ decide (timeframe.value = value) with
  | some timeframe => .ok timeframe
  | none => .error (.valueError s!"'{value}' is not a valid DataTimeframe")

/-- What the caller of the chain gets. -/
def ChainFetch.returned (fetch : ChainFetch) : Except PyException (List OHLCVData) :=
  fetch.result.mapError fun e ↦ .other e.message

/-- `_fetch`, the function handed to the cache service. -/
def serviceFetch (providers : List DataProvider) : FetchFn :=
  fun fetchSymbol timeframeValue fetchPeriod ↦ do
    let timeframe ← DataTimeframe.ofValue timeframeValue
    (fetchOhlcv fetchSymbol fetchPeriod providers (.ofDataTimeframe timeframe)).returned

/-- What a fetch meets: the table, the providers as they answer the cache service and as they answer
the direct request, the errors of both sessions, and what others write between them. -/
structure FetchSurroundings where
  db : OhlcvTable
  serviceProviders : List DataProvider
  serviceSession : SessionFaults := {}
  serviceFaults : DbFaults := {}
  now : ℤ
  clock : ℕ → ℤ
  directProviders : List DataProvider
  meanwhile : OhlcvTable → OhlcvTable := id
  cacheSession : SessionFaults := {}
  cacheFaults : DbFaults := {}

namespace FetchSurroundings

variable (world : FetchSurroundings) (symbol : String) (timeframe : DataTimeframe) (period : String)

/-- The first layer: `cache_service.get_ohlcv` in a session of its own. -/
def serviceRead : Except PyException (List OHLCVData) × OhlcvTable :=
  withSession world.serviceSession world.db fun session ↦
    getOhlcv world.serviceFaults world.now world.clock session symbol timeframe.value period
      (serviceFetch world.serviceProviders)

/-- The second layer: the chain. -/
def directFetch : Except PyException (List OHLCVData) :=
  (fetchOhlcv symbol period world.directProviders (.ofDataTimeframe timeframe)).returned

/-- The table that the third layer reads. -/
def laterDb : OhlcvTable :=
  world.meanwhile (world.serviceRead symbol timeframe period).2

/-- The third layer: `get_cached_ohlcv` in a session of its own. -/
def cacheRead : Except PyException (List OHLCVData) × OhlcvTable :=
  withSession world.cacheSession (world.laterDb symbol timeframe period) fun session ↦
    (session.cached world.cacheFaults symbol timeframe.value, session)

/-- `_fetch_single_timeframe`. -/
def fetchSingleTimeframe : Except PyException (List OHLCVData) :=
  match (world.serviceRead symbol timeframe period).1 with
  | .ok (candle :: candles) => .ok (candle :: candles)
  | _ =>
    match world.directFetch symbol timeframe period with
    | .ok candles => .ok candles
    | .error exc =>
      match (world.cacheRead symbol timeframe period).1 with
      | .ok (candle :: cached) => .ok (candle :: cached)
      | _ => .error exc

end FetchSurroundings

/-! ### The layers -/

/-- A layer brought nothing: it raised, or its list is empty. -/
def BroughtNothing (result : Except PyException (List OHLCVData)) : Prop :=
  result = .ok [] ∨ ∃ exc, result = .error exc

theorem broughtNothing_iff {result : Except PyException (List OHLCVData)} :
    BroughtNothing result ↔ ∀ candle candles, result ≠ .ok (candle :: candles) := by
  rcases result with exc | (- | ⟨candle, candles⟩) <;> simp [BroughtNothing]

/-- **The chain raises or has candles.** -/
theorem returned_ne_nil (symbol period : String) (providers : List DataProvider)
    (timeframe : TimeframeLike) :
    (fetchOhlcv symbol period providers timeframe).returned ≠ .ok [] := by
  intro h
  have htries := @triesInOrder_tryProviders symbol (normalizeDataTimeframe timeframe) period
    (chain providers) []
  rw [ChainFetch.returned, fetchOhlcv] at h
  rcases hresult : (tryProviders symbol (normalizeDataTimeframe timeframe) period (chain providers)
    []).result with e | candles
  · rw [hresult] at h
    cases h
  · rw [hresult] at h
    exact (htries.returns candles hresult).1 (Except.ok.inj h)

/-- The cache cannot be read, or has no candles of the pair. -/
def CacheEmptyOrUnreadable (world : FetchSurroundings) (symbol : String) (timeframe : DataTimeframe)
    (period : String) : Prop :=
  world.cacheSession.opens ≠ none ∨ world.cacheSession.closes ≠ none ∨
    world.cacheFaults.cached ≠ none ∨
      getCachedOhlcv (world.laterDb symbol timeframe period) symbol timeframe.value = []

theorem broughtNothing_cacheRead_iff (world : FetchSurroundings) (symbol : String)
    (timeframe : DataTimeframe) (period : String) :
    BroughtNothing (world.cacheRead symbol timeframe period).1 ↔
      CacheEmptyOrUnreadable world symbol timeframe period := by
  rw [BroughtNothing, CacheEmptyOrUnreadable, FetchSurroundings.cacheRead, withSession]
  rcases world.cacheSession.opens with - | e
  · rcases world.cacheSession.closes with - | e
    · rcases hcached : world.cacheFaults.cached with - | e <;>
        simp [Session.cached, Session.start, hcached]
    · simp
  · simp

/-- A fetch raises when all three layers brought nothing, with the error of the chain. -/
theorem fetchSingleTimeframe_eq_error_iff (world : FetchSurroundings) (symbol : String)
    (timeframe : DataTimeframe) (period : String) (exc : PyException) :
    world.fetchSingleTimeframe symbol timeframe period = .error exc ↔
      BroughtNothing (world.serviceRead symbol timeframe period).1 ∧
      world.directFetch symbol timeframe period = .error exc ∧
      BroughtNothing (world.cacheRead symbol timeframe period).1 := by
  rw [FetchSurroundings.fetchSingleTimeframe, broughtNothing_iff, broughtNothing_iff]
  split
  · next candle candles hservice =>
    exact iff_of_false (fun h ↦ nomatch h) fun h ↦ h.1 candle candles hservice
  · next hservice =>
    rw [and_iff_right hservice]
    split
    · next candles hdirect =>
      rw [hdirect]
      exact iff_of_false (fun h ↦ nomatch h) fun h ↦ nomatch h.1
    · next e hdirect =>
      rw [hdirect]
      split
      · next candle cached hcache =>
        exact iff_of_false (fun h ↦ nomatch h) fun h ↦ h.2 candle cached hcache
      · next hcache => exact (and_iff_left hcache).symm

/-- No layer returns an empty list. -/
theorem fetchSingleTimeframe_ne_nil (world : FetchSurroundings) (symbol : String)
    (timeframe : DataTimeframe) (period : String) :
    world.fetchSingleTimeframe symbol timeframe period ≠ .ok [] := by
  intro h
  rw [FetchSurroundings.fetchSingleTimeframe] at h
  split at h
  · exact nomatch h
  · split at h
    · next candles hdirect => exact returned_ne_nil _ _ _ _ (hdirect.trans h)
    · split at h <;> exact nomatch h

/-- **Candle availability.** For every table and every pattern of failures: the fetch raises exactly
when reading through the cache brought nothing, the chain raises, and the cache cannot be read or is
empty, and then it raises the error of the chain; it never returns an empty list, and neither does
the chain. -/
theorem fetchSingleTimeframe_available (world : FetchSurroundings) (symbol : String)
    (timeframe : DataTimeframe) (period : String) :
    (∀ exc, world.fetchSingleTimeframe symbol timeframe period = .error exc ↔
      BroughtNothing (world.serviceRead symbol timeframe period).1 ∧
      world.directFetch symbol timeframe period = .error exc ∧
      CacheEmptyOrUnreadable world symbol timeframe period) ∧
    world.fetchSingleTimeframe symbol timeframe period ≠ .ok [] ∧
    ∀ providers timeframe,
      (fetchOhlcv symbol period providers timeframe).returned ≠ .ok [] := by
  refine ⟨fun exc ↦ ?_, fetchSingleTimeframe_ne_nil world symbol timeframe period,
    returned_ne_nil symbol period⟩
  rw [fetchSingleTimeframe_eq_error_iff, broughtNothing_cacheRead_iff]

/-! ### The bundle -/

/-- The tasks of a fetch of several time frames, each with its surroundings. -/
def singleTimeframeTasks (world : DataTimeframe → FetchSurroundings) (symbol period : String)
    (text : PyException → String) : FetchTasks where
  outcome timeframe := (world timeframe).fetchSingleTimeframe symbol timeframe period
  text := text

/-- **In a bundle only the failed time frames are empty.** -/
theorem candles_eq_nil_iff_errors {plan : AnalysisTimeframePlan}
    {world : DataTimeframe → FetchSurroundings} {symbol period : String}
    {text : PyException → String}
    {events : List FetchEvent} {s : FetchState} {bundle : MultiTimeframeFetchBundle}
    (hrun : Transition.run (fetchStep plan (singleTimeframeTasks world symbol period text))
      (.start plan) events = some s)
    (hresult : s.result = some (.ok bundle)) {timeframe : DataTimeframe}
    (hrequired : timeframe ∈ plan.requiredTimeframes) :
    bundle.get timeframe = [] ↔ ∃ error, bundle.errors.lookup timeframe = some error := by
  have h := fetchInv_of_run hrun
  obtain ⟨-, -, hbundle⟩ := h.of_ok hresult
  obtain ⟨hcandles, herrors⟩ := hbundle timeframe
  rw [MultiTimeframeFetchBundle.get, hcandles, herrors, if_pos hrequired, if_pos hrequired,
    ← Option.isSome_iff_exists, FetchTasks.error_isSome_iff, Option.getD_some]
  refine ⟨fun hnil ↦ ?_, FetchTasks.candles_of_fails⟩
  rcases houtcome : (singleTimeframeTasks world symbol period text).outcome timeframe with
    exc | candles
  · exact ⟨exc, houtcome⟩
  · rw [FetchTasks.candles, houtcome] at hnil
    exact absurd (hnil ▸ houtcome)
      (fetchSingleTimeframe_ne_nil (world timeframe) symbol timeframe period)

end InvestmentAssistant
