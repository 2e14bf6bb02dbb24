import InvestmentAssistant.Core.DailyRateLimiter
import InvestmentAssistant.DataAcquisition.CandleRecords
import InvestmentAssistant.DataAcquisition.DailyQuota
import InvestmentAssistant.DataAcquisition.PeriodLookback
import InvestmentAssistant.DataAcquisition.ProviderSymbols
import InvestmentAssistant.DataAcquisition.SingleTimeframe
import InvestmentAssistant.DataAcquisition.WeeklyCandles
import InvestmentAssistant.FundamentalAnalysis.CpiDecoders

/-!
# The providers of the chain

Yahoo, Twelve Data and FMP, as `build_fallback_chain` puts them in a row. What they ask is answered
from outside (`MarketWorld`): by the library that downloads from Yahoo, and by the services of the
other two, each behind a daily limiter. A limiter records a request once it is answered, whatever
the answer is.

Yahoo lists its rows in the order of time, the other two begin with the newest record
(`AnswersInOrder`). Then every provider gives candles in the order of time
(`inOrder_of_mem_buildFallbackChain`): a list of records is turned round, and resampling keeps the
order.
-/

namespace InvestmentAssistant

open CollectLoop FallbackChainManager

/-! ### Requests -/

/-- A request of a provider. -/
structure ApiRequest where
  url : String
  params : List (String × String)
  deriving DecidableEq, Repr

/-- `client.get`: a response, or a transport error. -/
abbrev HttpGet := ApiRequest → Except PyException HttpResponse

/-- The `ValueError` of `int(period[:-1])`. -/
def periodError : PyException :=
  .valueError "invalid literal for int() with base 10"

/-- The payload of a response, once its status is checked. -/
def responsePayload (runtime : ProviderRuntime) (provider : QuotaProvider)
    (response : HttpResponse) : Except PyException (Json ℚ) :=
  if response.statusCode = 429 then
    .error (.runtimeError (provider.name ++ " rate limit (429 Too Many Requests)"))
  else if 200 ≤ response.statusCode ∧ response.statusCode < 300 then
    runtime.decodeJson response.text
  else .error (.other "HTTPStatusError")

/-- The part of `fetch_ohlcv` that Twelve Data and FMP share: the check, the request, the record of
an answer, and the candles in it. -/
def limitedFetch (runtime : ProviderRuntime) (provider : QuotaProvider) (get : HttpGet)
    (request : Except PyException ApiRequest)
    (parse : Json ℚ → Except PyException (List OHLCVData)) (today : ℕ)
    (limiter : DailyRateLimiter) : Except PyException (List OHLCVData) × DailyRateLimiter :=
  let (checked, limiter) := limiter.check provider today
  match checked with
  | .error e => (.error e, limiter)
  | .ok _ =>
    match request.bind get with
    | .error e => (.error e, limiter)
    | .ok response => (responsePayload runtime provider response >>= parse, limiter.increment)

namespace TwelveDataProvider

/-- `BASE_URL`. -/
def baseUrl : String := "https://api.twelvedata.com"

/-- `TIMEFRAME_MAP`. -/
def timeframeMap : DataTimeframe → String
  | .m15 => "15min"
  | .h1 => "1h"
  | .h4 => "4h"
  | .d1 => "1day"
  | .w1 => "1w"

/-- The request of `fetch_ohlcv`. -/
def request (apiKey symbol : String) (timeframe : DataTimeframe) (period : String) :
    Except PyException ApiRequest :=
  match periodToOutputsize period timeframe with
  | none => .error periodError
  | some outputsize => .ok
    { url := baseUrl ++ "/time_series"
      params := [("symbol", mapSymbol symbol), ("interval", timeframeMap timeframe),
        ("outputsize", toString outputsize), ("apikey", apiKey), ("format", "JSON")] }

/-- `fetch_ohlcv`. -/
def fetchOhlcv (runtime : ProviderRuntime) (apiKey : String) (get : HttpGet) (today : ℕ)
    (limiter : DailyRateLimiter) (symbol : String) (timeframe : DataTimeframe) (period : String) :
    Except PyException (List OHLCVData) × DailyRateLimiter :=
  limitedFetch runtime .twelveData get (request apiKey symbol timeframe period)
    (parseResponse runtime) today limiter

end TwelveDataProvider

namespace FMPProvider

/-- `BASE_URL`. -/
def baseUrl : String := "https://financialmodelingprep.com/api/v3"

/-- `TIMEFRAME_MAP`; it has no weeks. -/
def timeframeMap : DataTimeframe → Option String
  | .m15 => some "15min"
  | .h1 => some "1hour"
  | .h4 => some "4hour"
  | .d1 => some "1day"
  | .w1 => none

/-- The request of `fetch_ohlcv`: an intraday one does not look at the period. -/
def request (apiKey symbol : String) (timeframe : DataTimeframe) (period : String) :
    Except PyException ApiRequest :=
  match timeframeMap timeframe with
  | none => .error (.other "KeyError")
  | some fmpInterval =>
    if timeframe = .d1 then
      match periodToDays period with
      | none => .error periodError
      | some days => .ok
        { url := baseUrl ++ "/historical-price-full/" ++ mapSymbol symbol
          params := [("apikey", apiKey), ("timeseries", toString days)] }
    else .ok
      { url := baseUrl ++ "/historical-chart/" ++ fmpInterval ++ "/" ++ mapSymbol symbol
        params := [("apikey", apiKey)] }

/-- `fetch_ohlcv` of a time frame that FMP has. -/
def fetchListed (runtime : ProviderRuntime) (apiKey : String) (get : HttpGet) (today : ℕ)
    (limiter : DailyRateLimiter) (symbol : String) (timeframe : DataTimeframe) (period : String) :
    Except PyException (List OHLCVData) × DailyRateLimiter :=
  limitedFetch runtime .fmp get (request apiKey symbol timeframe period)
    (fun data ↦ parseResponse runtime data timeframe) today limiter

/-- `fetch_ohlcv`: weeks are made of days. -/
def fetchOhlcv (runtime : ProviderRuntime) (apiKey : String) (get : HttpGet) (today : ℕ)
    (limiter : DailyRateLimiter) (symbol : String) (timeframe : DataTimeframe) (period : String) :
    Except PyException (List OHLCVData) × DailyRateLimiter :=
  if timeframe = .w1 then
    let (daily, limiter) := fetchListed runtime apiKey get today limiter symbol .d1 period
    (daily >>= resampleToWeekly, limiter)
  else fetchListed runtime apiKey get today limiter symbol timeframe period

end FMPProvider

namespace YfinanceProvider

/-- `TIMEFRAME_MAP`. -/
def timeframeMap : DataTimeframe → String
  | .m15 => "15m"
  | .h1 => "1h"
  | .h4 => "1h"
  | .d1 => "1d"
  | .w1 => "1wk"

/-- `fetch_ohlcv`; `history` downloads the rows of a ticker, a period and an interval. -/
def fetchOhlcv (history : String → String → String → Except PyException (Option (List OHLCVData)))
    (symbol : String) (timeframe : DataTimeframe) (period : String) :
    Except PyException (List OHLCVData) :=
  let yfInterval := timeframeMap timeframe
  match clampPeriod period yfInterval with
  | none => .error periodError
  | some yfPeriod =>
    (history (mapSymbol symbol) yfPeriod yfInterval).map fun df ↦
      yfinanceFetchOhlcv timeframe (df.getD [])

end YfinanceProvider

/-! ### The chain -/

/-- The keys of the settings; an empty one leaves its provider out. -/
structure ProviderKeys where
  twelveDataApiKey : String := ""
  fmpApiKey : String := ""
  deriving DecidableEq, Repr

/-- What a chain meets in one fetch: the answers from outside, the day, and the limiters when their
provider is asked. -/
structure MarketWorld where
  history : String → String → String → Except PyException (Option (List OHLCVData))
  twelveData : HttpGet
  fmp : HttpGet
  today : ℕ
  twelveDataLimiter : DailyRateLimiter
  fmpLimiter : DailyRateLimiter

section Chain

variable (runtime : ProviderRuntime) (text : PyException → String) (settings : ProviderKeys)
  (world : MarketWorld)

/-- The providers of `build_fallback_chain`; `text` is `str` of an exception. -/
def buildFallbackChain : List DataProvider :=
  [{ name := "yfinance"
     priority := .primary
     fetchOhlcv := fun symbol timeframe period ↦
      (YfinanceProvider.fetchOhlcv world.history symbol timeframe period).mapError text }] ++
  (if settings.twelveDataApiKey = "" then [] else
    [{ name := "twelve_data"
       priority := .secondary
       fetchOhlcv := fun symbol timeframe period ↦
        (TwelveDataProvider.fetchOhlcv runtime settings.twelveDataApiKey world.twelveData
          world.today world.twelveDataLimiter symbol timeframe period).1.mapError text }]) ++
  if settings.fmpApiKey = "" then [] else
    [{ name := "fmp"
       priority := .tertiary
       fetchOhlcv := fun symbol timeframe period ↦
        (FMPProvider.fetchOhlcv runtime settings.fmpApiKey world.fmp world.today world.fmpLimiter
          symbol timeframe period).1.mapError text }]

/-- The answers from outside are in the order that the providers expect: Yahoo's rows in the order
of time, the records of the other two the newest first. -/
structure AnswersInOrder : Prop where
  history : ∀ ticker period interval rows,
    world.history ticker period interval = .ok (some rows) → Chronological rows
  twelveData : ∀ request response members records, world.twelveData request = .ok response →
    runtime.decodeJson response.text = .ok (.dict members) →
    members.lookup "values" = some (.list records) →
      NewestFirst (TwelveDataProvider.itemTimestamp runtime) records
  fmpDaily : ∀ request response members records, world.fmp request = .ok response →
    runtime.decodeJson response.text = .ok (.dict members) →
    members.lookup "historical" = some (.list records) →
      NewestFirst (FMPProvider.itemTimestamp runtime) records
  fmpIntraday : ∀ request response records, world.fmp request = .ok response →
    runtime.decodeJson response.text = .ok (.list records) →
      NewestFirst (FMPProvider.itemTimestamp runtime) records

end Chain

/-! ### One provider -/

section Resampling

variable {candles : List OHLCVData}

/-- The candles of buckets have timestamps of the buckets, in order. -/
theorem timestamps_buckets_sublist (buckets : List (List OHLCVData)) :
    ((buckets.filterMap bucketCandle).map OHLCVData.timestamp).Sublist
      (buckets.flatten.map OHLCVData.timestamp) := by
  have hheads : (buckets.filterMap bucketCandle).map OHLCVData.timestamp =
      (buckets.filterMap List.head?).map OHLCVData.timestamp := by
    rw [List.map_filterMap, List.map_filterMap]
    refine List.filterMap_congr fun bucket _ ↦ ?_
    cases bucket <;> rfl
  rw [hheads]
  exact (Buckets.heads_sublist_flatten buckets).map _

theorem chronological_iff_timestamps : Chronological candles ↔
    (candles.map OHLCVData.timestamp).Pairwise fun s t ↦ s.instant < t.instant := by
  rw [List.pairwise_map]
  exact Iff.rfl

/-- Resampling keeps the order of time. -/
theorem chronological_buckets {buckets : List (List OHLCVData)}
    (h : Chronological buckets.flatten) : Chronological (buckets.filterMap bucketCandle) := by
  rw [chronological_iff_timestamps] at h ⊢
  exact h.sublist (timestamps_buckets_sublist buckets)

theorem chronological_resampleTo4h (h : Chronological candles) :
    Chronological (resampleTo4h candles) := by
  have hresult : resampleTo4h candles = (Buckets.fullBuckets 4 candles).filterMap bucketCandle :=
    congrArg Prod.fst (foldl_resampleStep candles [] [])
  rw [hresult]
  exact chronological_buckets
    (h.sublist (Buckets.flatten_fullBuckets_prefix (by decide)).sublist)

theorem chronological_resampleToWeekly (h : Chronological candles) {weekly : List OHLCVData}
    (hweekly : resampleToWeekly candles = .ok weekly) : Chronological weekly := by
  rw [resampleToWeekly_eq] at hweekly
  rw [← Except.ok.inj hweekly]
  refine chronological_buckets ?_
  rwa [weeks, GreedyRuns.flatten_runs]

end Resampling

section Provider

variable {runtime : ProviderRuntime} {text : PyException → String} {settings : ProviderKeys}
  {world : MarketWorld} {symbol period : String} {timeframe : DataTimeframe}
  {candles : List OHLCVData}

/-- What a limited fetch returns is read from the payload of a response. -/
theorem exists_payload_of_limitedFetch {provider : QuotaProvider} {get : HttpGet}
    {request : Except PyException ApiRequest}
    {parse : Json ℚ → Except PyException (List OHLCVData)} {today : ℕ} {limiter : DailyRateLimiter}
    (h : (limitedFetch runtime provider get request parse today limiter).1 = .ok candles) :
    ∃ asked response data, request = .ok asked ∧ get asked = .ok response ∧
      runtime.decodeJson response.text = .ok data ∧ parse data = .ok candles := by
  rw [limitedFetch] at h
  dsimp only at h
  split at h
  · exact nomatch h
  · split at h
    · exact nomatch h
    · next response hresponse =>
      obtain ⟨asked, hasked, hget⟩ := bind_eq_ok_iff.1 hresponse
      obtain ⟨data, hdata, hparse⟩ := bind_eq_ok_iff.1 h
      rw [responsePayload] at hdata
      split at hdata
      · exact nomatch hdata
      · split at hdata
        · exact ⟨asked, response, data, hasked, hget, hdata, hparse⟩
        · exact nomatch hdata

theorem chronological_yfinance (h : AnswersInOrder runtime world)
    (hfetch : YfinanceProvider.fetchOhlcv world.history symbol timeframe period = .ok candles) :
    Chronological candles := by
  rw [YfinanceProvider.fetchOhlcv] at hfetch
  split at hfetch
  · exact nomatch hfetch
  · obtain ⟨df, hdf, rfl⟩ := exists_of_map_eq_ok hfetch
    have hrows : Chronological ((df.getD []).map OHLCVData.utcIfNaive) := by
      cases df with
      | none => exact chronological_nil
      | some rows => exact List.pairwise_map.2 (h.history _ _ _ rows hdf)
    rw [yfinanceFetchOhlcv]
    split
    · exact chronological_resampleTo4h hrows
    · exact hrows

theorem chronological_twelveData (h : AnswersInOrder runtime world) {apiKey : String} {today : ℕ}
    {limiter : DailyRateLimiter}
    (hfetch : (TwelveDataProvider.fetchOhlcv runtime apiKey world.twelveData today limiter symbol
      timeframe period).1 = .ok candles) : Chronological candles := by
  obtain ⟨asked, response, data, -, hget, hdata, hparse⟩ := exists_payload_of_limitedFetch hfetch
  obtain ⟨-, -, hparse⟩ := bind_eq_ok_iff.1 hparse
  obtain ⟨values, hvalues, hparse⟩ := bind_eq_ok_iff.1 hparse
  split at hparse
  · refine chronological_candlesOf TwelveDataProvider.readsRecords (fun records hrecords ↦ ?_)
      hparse
    cases data with
    | dict members =>
      -- records that are listed are the member, unless there is none and the list is empty
      rcases hlookup : members.lookup "values" with - | listed
      · rw [Json.getMember, hlookup, hrecords] at hvalues
        cases hvalues
        exact List.Pairwise.nil
      · rw [Json.getMember, hlookup] at hvalues
        obtain rfl := Except.ok.inj hvalues
        exact h.twelveData asked response members records hget hdata (hrecords ▸ hlookup)
    | _ => exact nomatch hvalues
  · rw [← Except.ok.inj hparse]
    exact chronological_nil

/-- The records of a daily or of an intraday answer. -/
theorem newestFirst_responseItems (h : AnswersInOrder runtime world) {asked : ApiRequest}
    {response : HttpResponse} {data : Json ℚ} (hget : world.fmp asked = .ok response)
    (hdata : runtime.decodeJson response.text = .ok data) {records : List (Json ℚ)}
    (hrecords : FMPProvider.responseItems data timeframe = .list records) :
    NewestFirst (FMPProvider.itemTimestamp runtime) records := by
  have hnil (heq : Json.list [] = Json.list records) :
      NewestFirst (FMPProvider.itemTimestamp runtime) records := by
    rw [← Json.list.inj heq]
    exact List.Pairwise.nil
  by_cases htimeframe : timeframe = .d1
  · subst htimeframe
    cases data with
    | dict members =>
      change (members.lookup "historical").getD (.list []) = _ at hrecords
      rcases hlookup : members.lookup "historical" with - | listed
      · rw [hlookup] at hrecords
        exact hnil hrecords
      · rw [hlookup] at hrecords
        exact h.fmpDaily asked response members records hget hdata
          (hlookup.trans (congrArg some hrecords))
    | _ => exact hnil hrecords
  · rw [FMPProvider.responseItems.eq_def, if_neg htimeframe] at hrecords
    cases data with
    | list listed =>
      rw [← Json.list.inj hrecords]
      exact h.fmpIntraday asked response listed hget hdata
    | _ => exact hnil hrecords

theorem chronological_fetchListed (h : AnswersInOrder runtime world) {apiKey : String} {today : ℕ}
    {limiter : DailyRateLimiter}
    (hfetch : (FMPProvider.fetchListed runtime apiKey world.fmp today limiter symbol timeframe
      period).1 = .ok candles) : Chronological candles := by
  obtain ⟨asked, response, data, -, hget, hdata, hparse⟩ := exists_payload_of_limitedFetch hfetch
  rw [FMPProvider.parseResponse] at hparse
  split at hparse
  · exact chronological_candlesOf FMPProvider.readsRecords
      (fun records hrecords ↦ newestFirst_responseItems h hget hdata hrecords) hparse
  · rw [← Except.ok.inj hparse]
    exact chronological_nil

theorem chronological_fmp (h : AnswersInOrder runtime world) {apiKey : String} {today : ℕ}
    {limiter : DailyRateLimiter}
    (hfetch : (FMPProvider.fetchOhlcv runtime apiKey world.fmp today limiter symbol timeframe
      period).1 = .ok candles) : Chronological candles := by
  rw [FMPProvider.fetchOhlcv] at hfetch
  split at hfetch
  · obtain ⟨daily, hdaily, hweekly⟩ := bind_eq_ok_iff.1 hfetch
    exact chronological_resampleToWeekly (chronological_fetchListed h hdaily) hweekly
  · exact chronological_fetchListed h hfetch

/-- A provider whose candles are in the order of time. -/
def DataProvider.InOrder (provider : DataProvider) : Prop :=
  ∀ symbol timeframe period candles, provider.fetchOhlcv symbol timeframe period = .ok candles →
    Chronological candles

/-- **Every provider of the chain gives candles in the order of time.** -/
theorem inOrder_of_mem_buildFallbackChain (h : AnswersInOrder runtime world)
    {provider : DataProvider} (hmem : provider ∈ buildFallbackChain runtime text settings world) :
    provider.InOrder := by
  have hok {x : Except PyException (List OHLCVData)} {candles : List OHLCVData}
      (hx : x.mapError text = .ok candles) : x = .ok candles := by
    cases x with
    | error e => exact nomatch hx
    | ok _ => exact congrArg Except.ok (Except.ok.inj hx)
  intro symbol timeframe period candles hfetch
  rw [buildFallbackChain, List.mem_append, List.mem_append] at hmem
  rcases hmem with (hmem | hmem) | hmem
  · obtain rfl := List.mem_singleton.1 hmem
    exact chronological_yfinance h (hok hfetch)
  · split at hmem
    · exact absurd hmem List.not_mem_nil
    · obtain rfl := List.mem_singleton.1 hmem
      exact chronological_twelveData h (hok hfetch)
  · split at hmem
    · exact absurd hmem List.not_mem_nil
    · obtain rfl := List.mem_singleton.1 hmem
      exact chronological_fmp h (hok hfetch)

end Provider

/-! ### Requests against the quota -/

section Quota

variable {runtime : ProviderRuntime} {provider : QuotaProvider} {get : HttpGet}
  {request : Except PyException ApiRequest} {parse : Json ℚ → Except PyException (List OHLCVData)}
  {limiter : DailyRateLimiter}

/-- The steps of one limited fetch in the system of all requests to the provider, for the limiter at
a place of it. -/
def fetchEvents (provider : QuotaProvider) (get : HttpGet)
    (request : Except PyException ApiRequest) (today : ℕ) (limiter : DailyRateLimiter)
    (call i : ℕ) : List QuotaEvent :=
  .check call i ::
    match (limiter.check provider today).1, request with
    | .error _, _ => []
    | .ok _, .error _ => [.fail ⟨call, i, today, false⟩]
    | .ok _, .ok asked =>
      [.send ⟨call, i, today, false⟩,
        match get asked with
        | .error _ => .fail ⟨call, i, today, true⟩
        | .ok _ => .respond ⟨call, i, today, true⟩]

theorem check_eq {today : ℕ} {outcome : Except PyException Unit}
    (h : (limiter.check provider today).1 = outcome) :
    limiter.check provider today = (outcome, limiter.refresh today) :=
  Prod.ext h (DailyRateLimiter.check_snd ..)

/-- The limiter after a fetch: refreshed, with a record of an answer. -/
theorem limitedFetch_snd {today : ℕ} {u : Unit} (h : (limiter.check provider today).1 = .ok u) :
    (limitedFetch runtime provider get request parse today limiter).2 =
      match request.bind get with
      | .error _ => limiter.refresh today
      | .ok _ => (limiter.refresh today).increment := by
  rw [limitedFetch, check_eq h]
  dsimp only
  cases request.bind get <;> rfl

variable {s : QuotaState} {i : ℕ} (call : ℕ)

/-- A check that passes opens a request. -/
theorem quotaStep_check (hi : s.limiters[i]? = some limiter) {u : Unit}
    (h : (limiter.check provider s.today).1 = .ok u) :
    quotaStep provider s (.check call i) = some
      { s with
        limiters := s.limiters.set i (limiter.refresh s.today)
        inFlight := ⟨call, i, s.today, false⟩ :: s.inFlight } := by
  simp only [quotaStep, hi, check_eq h]

/-- A request that is open is sent and stays open. -/
theorem quotaStep_send (limiters : List DailyRateLimiter) :
    quotaStep provider
      { s with limiters := limiters, inFlight := ⟨call, i, s.today, false⟩ :: s.inFlight }
      (.send ⟨call, i, s.today, false⟩) = some
        { s with
          limiters := limiters
          inFlight := ⟨call, i, s.today, true⟩ :: s.inFlight
          sends := s.sends ++ [s.today] } := by
  rw [quotaStep, if_pos ⟨List.mem_cons_self .., rfl⟩, List.erase_cons_head]

/-- A request that fails is open no longer. -/
theorem quotaStep_fail (s : QuotaState) (request : QuotaRequest) :
    quotaStep provider { s with inFlight := request :: s.inFlight } (.fail request) = some s := by
  rw [quotaStep, if_pos (List.mem_cons_self ..), List.erase_cons_head]

/-- A request that is answered is recorded and open no longer. -/
theorem quotaStep_respond (s : QuotaState) (call : ℕ) (hi : s.limiters[i]? = some limiter) :
    quotaStep provider { s with inFlight := ⟨call, i, s.today, true⟩ :: s.inFlight }
      (.respond ⟨call, i, s.today, true⟩) =
        some { s with limiters := s.limiters.set i limiter.increment } := by
  rw [quotaStep]
  simp only [hi]
  rw [if_pos ⟨List.mem_cons_self .., trivial⟩, List.erase_cons_head]

/-- The requests that one limited fetch sends. -/
def fetchSends (provider : QuotaProvider) (request : Except PyException ApiRequest) (today : ℕ)
    (limiter : DailyRateLimiter) : List ℕ :=
  match (limiter.check provider today).1, request with
  | .ok _, .ok _ => [today]
  | _, _ => []

/-- **A limited fetch is a path of the system of requests**: it leaves its limiter as the fetch
does, no request open, and one request sent where the check passed and the period could be read. -/
theorem run_fetchEvents (hi : s.limiters[i]? = some limiter) :
    Transition.run (quotaStep provider) s
        (fetchEvents provider get request s.today limiter call i) = some
      { s with
        limiters := s.limiters.set i
          (limitedFetch runtime provider get request parse s.today limiter).2
        sends := s.sends ++ fetchSends provider request s.today limiter } := by
  have hlength := (List.getElem?_eq_some_iff.1 hi).1
  rw [fetchEvents.eq_def, fetchSends.eq_def]
  rcases hresult : (limiter.check provider s.today).1 with e | u
  · rw [limitedFetch, check_eq hresult, List.append_nil]
    simp [Transition.run, quotaStep, hi, check_eq hresult]
  · rw [Transition.run, quotaStep_check call hi hresult, limitedFetch_snd hresult, Option.bind_some]
    rcases request with e | asked
    · -- the period cannot be read
      rw [List.append_nil, Transition.run_singleton]
      exact quotaStep_fail { s with limiters := s.limiters.set i (limiter.refresh s.today) } _
    · have hbind : (Except.ok asked : Except PyException ApiRequest).bind get = get asked := rfl
      rw [Transition.run, quotaStep_send, Option.bind_some, Transition.run_singleton, hbind]
      let sent : QuotaState :=
        { s with
          limiters := s.limiters.set i (limiter.refresh s.today)
          sends := s.sends ++ [s.today] }
      cases get asked with
      | error e => exact quotaStep_fail sent _
      | ok response =>
        have hi : sent.limiters[i]? = some (limiter.refresh s.today) :=
          List.getElem?_set_self hlength
        refine (quotaStep_respond sent call hi).trans ?_
        rw [List.set_set]

end Quota

/-- A request that does not get through is sent and not recorded. -/
theorem run_fetchEvents_unanswered :
    ∃ s, Transition.run (quotaStep .fmp) ⟨0, [.create 0], [], []⟩
        (fetchEvents .fmp (fun _ ↦ .error (.other "ReadTimeout"))
          (FMPProvider.request "key" "EURUSD" .h1 "30d") 0 (.create 0) 0 0) = some s ∧
      s.sends = [0] ∧ s.limiters = [⟨0, 0⟩] := by
  let runtime : ProviderRuntime := ⟨exactRuntime, fun _ ↦ none⟩
  refine ⟨_, @run_fetchEvents runtime .fmp _ _ (FMPProvider.parseResponse runtime · .h1)
    (.create 0) ⟨0, [.create 0], [], []⟩ 0 0 rfl, ?_, ?_⟩ <;> decide +kernel

end InvestmentAssistant
