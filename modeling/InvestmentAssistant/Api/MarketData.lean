import InvestmentAssistant.Api.ValidatorGrammar
import InvestmentAssistant.Core.InstrumentClassifier
import InvestmentAssistant.DataAcquisition.ExpiringRedisCache
import InvestmentAssistant.DataAcquisition.FallbackChain
import InvestmentAssistant.Foundation.Substitution
import InvestmentAssistant.Foundation.Transition

/-!
# The market data endpoint

`get_market_data` reads candles through a cache: an answer comes from the cache of its time frame,
or from the provider chain, and then it is cached. Two `RedisCache`s, for intraday and for daily
candles, share one Redis and one key prefix; each has its own time to live and its own fallback. A
cached value that is not a list of candles is invalidated and fetched anew.

Any number of requests may be under way, each suspended where it awaits a cache or the chain, so the
endpoint is a system whose events are the requests, what becomes of their awaits, the passing of
time, and what happens to the stores: entries dropped, and texts in Redis garbled.
-/

namespace InvestmentAssistant

open Transition

/-! ### Keys and caches -/

/-- The query of `get_market_data`. -/
structure MarketRequest where
  symbol : String
  timeframe : Timeframe := .h1
  period : String := "30d"
  deriving DecidableEq, Repr

/-- `timeframe.value`. -/
def Timeframe.text (timeframe : Timeframe) : String :=
  (DataTimeframe.fromPublic timeframe).value

/-- `make_cache_key`. -/
def makeCacheKey (symbol timeframe period : String) : String :=
  "ohlcv:" ++ upper symbol ++ ":" ++ timeframe ++ ":" ++ period

/-- `cache_key`. -/
def MarketRequest.cacheKey (request : MarketRequest) : String :=
  makeCacheKey request.symbol request.timeframe.text request.period

/-- The two caches of `_get_caches`. -/
inductive CacheKind
  | intraday
  | daily
  deriving DecidableEq, Repr

/-- The cache a request selects. -/
def MarketRequest.cacheKind (request : MarketRequest) : CacheKind :=
  if request.timeframe = .d1 then .daily else .intraday

/-- The settings of the caches. -/
structure CacheSettings where
  redisCacheTtlOverride : Option ℕ := none
  cacheTtlIntraday : ℕ := 300
  cacheTtlDaily : ℕ := 3600

/-- The time to live of a cache; an override of 0 is none. -/
def CacheSettings.ttl (settings : CacheSettings) (kind : CacheKind) : ℚ :=
  let default : ℕ := match kind with
    | .intraday => settings.cacheTtlIntraday
    | .daily => settings.cacheTtlDaily
  match settings.redisCacheTtlOverride with
  | none => default
  | some override => if override = 0 then default else override

/-- `key_prefix`. -/
def marketKeyPrefix : String := "ohlcv"

/-- Serialisation: `model_dump` of the candles, `OHLCVData(**item)` of the items, and JSON. -/
structure CandleCodec (V : Type) where
  modelDump : List OHLCVData → V
  validate : V → Option (List OHLCVData)
  json : JsonCodec V

/-- What Pydantic and `json` promise: a dump is validated to the candles it was made of, and a text
is loaded as what it was dumped from. -/
structure CandleCodec.Documented {V : Type} (codec : CandleCodec V) : Prop where
  validate_modelDump : ∀ data, codec.validate (codec.modelDump data) = some data
  loads_dumps : ∀ v text, codec.json.dumps v = some text → codec.json.loads text = some v

/-- The candles in a text of Redis. -/
def CandleCodec.read {V : Type} (codec : CandleCodec V) (text : String) :
    Option (List OHLCVData) :=
  (codec.json.loads text).bind codec.validate

/-! ### The system -/

/-- A request, how it ended, and when. -/
structure MarketAnswer where
  request : MarketRequest
  result : Except PyException (List OHLCVData)
  time : ℚ
  deriving DecidableEq

/-- Where a request is. -/
inductive MarketPhase
  | idle
  | awaitGet (request : MarketRequest)
  | awaitInvalidate (request : MarketRequest)
  | awaitFetch (request : MarketRequest)
  | awaitSet (request : MarketRequest) (data : List OHLCVData)
  | finished (answer : MarketAnswer)
  | cancelled
  deriving DecidableEq

/-- A fetch through the chain, with the providers as they were. -/
structure MarketFetch where
  call : ℕ
  request : MarketRequest
  providers : List DataProvider

/-- What came of a fetch. -/
def MarketFetch.result (f : MarketFetch) : Except DataProviderError (List OHLCVData) :=
  (FallbackChainManager.fetchOhlcv f.request.symbol f.request.period f.providers
    (.ofTimeframe f.request.timeframe)).result

/-- Candles handed to the cache, and when. -/
structure CachedCandles where
  request : MarketRequest
  data : List OHLCVData
  time : ℚ

/-- The time, the stores and the requests, and the history: the fetches, and what was handed to the
caches. -/
structure MarketState (V : Type) where
  now : ℚ := 0
  redis : TtlCache String String := ∅
  fallback : CacheKind → TtlCache String V := fun _ ↦ ∅
  phase : ℕ → MarketPhase := fun _ ↦ .idle
  fetches : List MarketFetch := []
  handed : List CachedCandles := []

/-- What happens at the endpoint. -/
inductive MarketEvent
  | tick (seconds : ℚ)
  | dropRedis (redisKey : String)
  | dropFallback (kind : CacheKind) (key : String)
  | garble (redisKey text : String) (expires : ℚ)
  | getMarketData (call : ℕ) (request : MarketRequest)
  | cacheGet (call : ℕ) (availability : Availability)
  | cacheInvalidate (call : ℕ) (availability : Availability)
  | fetch (call : ℕ) (providers : List DataProvider)
  | cacheSet (call : ℕ) (availability : Availability)
  | cancel (call : ℕ) (applied : Bool)

namespace MarketState

variable {V : Type} (s : MarketState V) (call : ℕ)

/-- The stores of a cache. -/
def stores (kind : CacheKind) : ExpiringStores V :=
  ⟨s.redis, s.fallback kind⟩

/-- The stores of a cache have changed. -/
def withStores (kind : CacheKind) (stores : ExpiringStores V) : MarketState V :=
  { s with redis := stores.redis, fallback := Function.update s.fallback kind stores.fallback }

/-- A request moves on. -/
def advance (phase : MarketPhase) : MarketState V :=
  { s with phase := Function.update s.phase call phase }

/-- A request ends. -/
def finish (request : MarketRequest) (result : Except PyException (List OHLCVData)) :
    MarketState V :=
  s.advance call (.finished ⟨request, result, s.now⟩)

/-- Candles are handed to the cache. -/
def hand (codec : CandleCodec V) (settings : CacheSettings) (request : MarketRequest)
    (data : List OHLCVData) (availability : Availability) : MarketState V :=
  { s.withStores request.cacheKind (expiringSet codec.json marketKeyPrefix
      (settings.ttl request.cacheKind) (s.stores request.cacheKind) availability s.now
      request.cacheKey (codec.modelDump data)) with
    handed := s.handed ++ [⟨request, data, s.now⟩] }

/-- The cached value of a request is invalidated. -/
def invalidate (request : MarketRequest) (availability : Availability) : MarketState V :=
  s.withStores request.cacheKind (expiringInvalidate marketKeyPrefix (s.stores request.cacheKind)
    availability request.cacheKey)

end MarketState

section Step

variable {V : Type} (codec : CandleCodec V) (settings : CacheSettings) (s : MarketState V)

/-- `get_market_data` up to its first await. -/
def MarketState.start (call : ℕ) (request : MarketRequest) : MarketState V :=
  match validateSymbol request.symbol with
  | .error e => s.finish call request (.error e)
  | .ok _ =>
    match validatePeriod request.period with
    | .error e => s.finish call request (.error e)
    | .ok _ => s.advance call (.awaitGet request)

/-- What becomes of a cached value. -/
def MarketState.takeCached (call : ℕ) (request : MarketRequest) : Option V → MarketState V
  | none => s.advance call (.awaitFetch request)
  | some cached =>
    match codec.validate cached with
    | some data => s.finish call request (.ok data)
    | none => s.advance call (.awaitInvalidate request)

/-- What becomes of a fetch. -/
def MarketState.takeFetched (f : MarketFetch) : MarketState V :=
  let fetched := { s with fetches := s.fetches ++ [f] }
  match f.result with
  | .error _ => fetched.finish f.call f.request
      (.error (.httpException 502 "Unable to fetch market data from any provider"))
  | .ok data =>
    if data = [] then fetched.finish f.call f.request (.ok data)
    else fetched.advance f.call (.awaitSet f.request data)

/-- What a cancelled request may have done to the stores: its command was sent. -/
def MarketState.abort (applied : Bool) (call : ℕ) : MarketPhase → Option (MarketState V)
  | .awaitGet _ => some (s.advance call .cancelled)
  | .awaitFetch _ => some (s.advance call .cancelled)
  | .awaitInvalidate request =>
    let redis := if applied then s.redis.pop (buildKey marketKeyPrefix request.cacheKey)
      else s.redis
    some ({ s with redis }.advance call .cancelled)
  | .awaitSet request data =>
    if applied then some ((s.hand codec settings request data .up).advance call .cancelled)
    else some (s.advance call .cancelled)
  | .idle => none
  | .finished _ => none
  | .cancelled => none

/-- One step of the endpoint. -/
def marketStep : MarketEvent → Option (MarketState V)
  | .tick seconds => if 0 ≤ seconds then some { s with now := s.now + seconds } else none
  | .dropRedis redisKey => some { s with redis := s.redis.pop redisKey }
  | .dropFallback kind key =>
    some { s with fallback := Function.update s.fallback kind ((s.fallback kind).pop key) }
  | .garble redisKey text expires =>
    if (codec.read text).isNone then
      some { s with redis := s.redis.insert redisKey (text, expires) }
    else none
  | .getMarketData call request =>
    match s.phase call with
    | .idle => some (s.start call request)
    | _ => none
  | .cacheGet call availability =>
    match s.phase call with
    | .awaitGet request =>
      some (s.takeCached codec call request (expiringGet codec.json marketKeyPrefix
        (s.stores request.cacheKind) availability s.now request.cacheKey))
    | _ => none
  | .cacheInvalidate call availability =>
    match s.phase call with
    | .awaitInvalidate request =>
      some ((s.invalidate request availability).advance call (.awaitFetch request))
    | _ => none
  | .fetch call providers =>
    match s.phase call with
    | .awaitFetch request => some (s.takeFetched ⟨call, request, providers⟩)
    | _ => none
  | .cacheSet call availability =>
    match s.phase call with
    | .awaitSet request data =>
      some ((s.hand codec settings request data availability).finish call request (.ok data))
    | _ => none
  | .cancel call applied => s.abort codec settings applied call (s.phase call)

end Step

end InvestmentAssistant
