import InvestmentAssistant.Api.MarketData

/-!
# Runs of the market data endpoint

A valid symbol has no colon, so a cache key tells its three parts apart, the symbol up to case
(`cacheKey_inj_iff`). Whatever a store holds under the key of a request was therefore handed to the
cache for the same symbol, time frame and period, unless it is garbled (`MarketSound`).

So in every interleaving of requests, with Redis failing at any call, candles are answered only for
the query they were fetched for, and from the cache only while they are younger than the time to
live of their time frame (`answered_of_run`).
-/

namespace InvestmentAssistant

open Transition

/-! ### Keys -/

/-- The symbol and the period of a request are accepted. -/
def MarketRequest.Valid (request : MarketRequest) : Prop :=
  SymbolValid request.symbol ∧ PeriodValid request.period

/-- Two requests ask for the same candles, up to the case of the symbol. -/
structure MarketRequest.Same (a b : MarketRequest) : Prop where
  symbol : upper a.symbol = upper b.symbol
  timeframe : a.timeframe = b.timeframe
  period : a.period = b.period

/-- An accepted symbol has no colon, in upper case either. -/
theorem colon_notMem_upper {symbol : String} (h : SymbolValid symbol) :
    ':' ∉ (upper symbol).toList := by
  rw [upper, String.toList_ofList, List.mem_map]
  rintro ⟨c, hc, hupper⟩
  obtain rfl := (CharClass.toUpper_eq_iff (by decide)).1 hupper
  rcases h.of_mem hc with hsymbol | hfeed
  · exact absurd hsymbol (by decide)
  · exact absurd hfeed (by decide)

theorem colon_notMem_text (timeframe : Timeframe) : ':' ∉ timeframe.text.toList := by
  cases timeframe <;> decide

theorem text_inj {a b : Timeframe} : a.text = b.text ↔ a = b := by
  cases a <;> cases b <;> decide

/-- **A cache key tells its parts apart.** -/
theorem cacheKey_inj_iff {a b : MarketRequest} (ha : SymbolValid a.symbol)
    (hb : SymbolValid b.symbol) : a.cacheKey = b.cacheKey ↔ a.Same b := by
  constructor
  · intro h
    have hchars := congrArg String.toList h
    simp only [MarketRequest.cacheKey, makeCacheKey, String.toList_append,
      List.append_assoc] at hchars
    have htail := List.append_cancel_left hchars
    obtain ⟨hsymbol, hrest⟩ := Substitution.append_cons_inj_of_first (colon_notMem_upper ha)
      (colon_notMem_upper hb) htail
    obtain ⟨htimeframe, hperiod⟩ := Substitution.append_cons_inj_of_first (colon_notMem_text _)
      (colon_notMem_text _) hrest
    exact ⟨String.toList_inj.1 hsymbol, text_inj.1 (String.toList_inj.1 htimeframe),
      String.toList_inj.1 hperiod⟩
  · rintro ⟨hsymbol, htimeframe, hperiod⟩
    rw [MarketRequest.cacheKey, makeCacheKey, hsymbol, htimeframe, hperiod]
    rfl

/-! ### What holds of the stores -/

section Sound

variable {V : Type} (codec : CandleCodec V) (settings : CacheSettings) (s : MarketState V)

/-- The key of a request in Redis. -/
def MarketRequest.redisKey (request : MarketRequest) : String :=
  buildKey marketKeyPrefix request.cacheKey

/-- When candles handed to the cache expire. -/
def CachedCandles.expires (c : CachedCandles) : ℚ :=
  c.time + settings.ttl c.request.cacheKind

/-- The candles came of a fetch for a request. -/
def Fetched (request : MarketRequest) (data : List OHLCVData) : Prop :=
  ∃ f ∈ s.fetches, f.request = request ∧ f.result = .ok data

/-- The candles were handed to the cache for the same query, and had not expired. -/
def Cached (answer : MarketAnswer) (data : List OHLCVData) : Prop :=
  ∃ c ∈ s.handed, c.data = data ∧ c.request.Same answer.request ∧
    c.time ≤ answer.time ∧ answer.time < c.expires settings ∧ Fetched s c.request data

/-- What an answer may say: candles of a fetch of its own, or fresh candles from the cache; or why
it was refused. -/
def Answered (call : ℕ) (answer : MarketAnswer) : Prop :=
  match answer.result with
  | .ok data => answer.request.Valid ∧
      ((∃ f ∈ s.fetches, f.call = call ∧ f.request = answer.request ∧ f.result = .ok data) ∨
        Cached settings s answer data)
  | .error e =>
    ¬ SymbolValid answer.request.symbol ∧ e = .httpException 400 "Invalid symbol format" ∨
      SymbolValid answer.request.symbol ∧ ¬ PeriodValid answer.request.period ∧
        e = .httpException 400 "Invalid period format (e.g. 30d, 6m, 1y)" ∨
      answer.request.Valid ∧
        e = .httpException 502 "Unable to fetch market data from any provider" ∧
        ∃ f ∈ s.fetches, f.call = call ∧ f.request = answer.request ∧
          ∃ failure, f.result = .error failure

/-- What holds of a request in each phase. -/
def PhaseSound (call : ℕ) : MarketPhase → Prop
  | .idle => True
  | .cancelled => True
  | .awaitGet request => request.Valid
  | .awaitInvalidate request => request.Valid
  | .awaitFetch request => request.Valid
  | .awaitSet request data => request.Valid ∧
      ∃ f ∈ s.fetches, f.call = call ∧ f.request = request ∧ f.result = .ok data
  | .finished answer => Answered settings s call answer

/-- Each entry of Redis is garbled, or candles handed to the cache under its key. -/
def RedisSound (redis : TtlCache String String) : Prop :=
  ∀ k text expires, redis.lookup k = some (text, expires) → codec.read text = none ∨
    ∃ c ∈ s.handed, k = c.request.redisKey ∧ codec.read text = some c.data ∧
      expires = c.expires settings

/-- Each entry of a fallback is candles handed to the cache under its key. -/
def FallbackSound (fallback : TtlCache String V) : Prop :=
  ∀ k v expires, fallback.lookup k = some (v, expires) → ∃ c ∈ s.handed,
    k = c.request.cacheKey ∧ codec.validate v = some c.data ∧ expires = c.expires settings

/-- **The invariant.** -/
structure MarketSound : Prop where
  redis : RedisSound codec settings s s.redis
  fallback : ∀ kind, FallbackSound codec settings s (s.fallback kind)
  handed : ∀ c ∈ s.handed, c.request.Valid ∧ c.time ≤ s.now ∧ Fetched s c.request c.data
  phase : ∀ call, PhaseSound settings s call (s.phase call)

end Sound

section Steps

variable {V : Type} {codec : CandleCodec V} {settings : CacheSettings} {s s' : MarketState V}
  {call : ℕ} {request : MarketRequest} {data : List OHLCVData}

/-- The history of a state is part of that of another. -/
structure Remembers (s s' : MarketState V) : Prop where
  fetches : s.fetches ⊆ s'.fetches
  handed : s.handed ⊆ s'.handed

theorem Fetched.mono (h : Remembers s s') (hf : Fetched s request data) : Fetched s' request data :=
  hf.imp fun _ hf ↦ ⟨h.fetches hf.1, hf.2⟩

theorem Answered.mono (h : Remembers s s') {answer : MarketAnswer}
    (ha : Answered settings s call answer) : Answered settings s' call answer := by
  rw [Answered] at ha ⊢
  split at ha
  · refine ha.imp_right (Or.imp ?_ ?_)
    · exact fun ⟨f, hf, hrest⟩ ↦ ⟨f, h.fetches hf, hrest⟩
    · rintro ⟨c, hc, hdata, hsame, hpast, hfresh, hfetched⟩
      exact ⟨c, h.handed hc, hdata, hsame, hpast, hfresh, hfetched.mono h⟩
  · refine ha.imp_right (Or.imp_right ?_)
    rintro ⟨hvalid, he, f, hf, hrest⟩
    exact ⟨hvalid, he, f, h.fetches hf, hrest⟩

theorem PhaseSound.mono (h : Remembers s s') {phase : MarketPhase}
    (hp : PhaseSound settings s call phase) : PhaseSound settings s' call phase := by
  cases phase with
  | awaitSet request data =>
    obtain ⟨hvalid, f, hf, hrest⟩ := hp
    exact ⟨hvalid, f, h.fetches hf, hrest⟩
  | finished answer => exact Answered.mono h hp
  | _ => exact hp

theorem RedisSound.mono (h : Remembers s s') {redis : TtlCache String String}
    (hr : RedisSound codec settings s redis) : RedisSound codec settings s' redis :=
  fun k text expires hlookup ↦ (hr k text expires hlookup).imp_right
    fun ⟨c, hc, hrest⟩ ↦ ⟨c, h.handed hc, hrest⟩

theorem FallbackSound.mono (h : Remembers s s') {fallback : TtlCache String V}
    (hf : FallbackSound codec settings s fallback) : FallbackSound codec settings s' fallback :=
  fun k v expires hlookup ↦ (hf k v expires hlookup).imp fun _ hc ↦ ⟨h.handed hc.1, hc.2⟩

/-- A request moves on to a phase it may be in. -/
theorem MarketSound.advance (h : MarketSound codec settings s) {phase : MarketPhase}
    (hphase : PhaseSound settings s call phase) :
    MarketSound codec settings (s.advance call phase) where
  redis := h.redis
  fallback := h.fallback
  handed := h.handed
  phase call' := by
    show PhaseSound settings s call' (Function.update s.phase call phase call')
    by_cases heq : call' = call
    · rw [heq, Function.update_self]
      exact hphase
    · rw [Function.update_of_ne heq]
      exact h.phase call'

/-- The stores hold nothing new but garbled texts. -/
theorem MarketSound.of_stores (h : MarketSound codec settings s)
    {redis : TtlCache String String} {fallback : CacheKind → TtlCache String V}
    (hredis : RedisSound codec settings s redis)
    (hfallback : ∀ kind, FallbackSound codec settings s (fallback kind)) :
    MarketSound codec settings { s with redis, fallback } where
  redis := hredis
  fallback := hfallback
  handed := h.handed
  phase := h.phase

theorem RedisSound.pop {redis : TtlCache String String} (h : RedisSound codec settings s redis)
    (k : String) : RedisSound codec settings s (redis.pop k) :=
  fun k' text expires hlookup ↦ h k' text expires (TtlCache.of_lookup_pop hlookup)

theorem FallbackSound.pop {fallback : TtlCache String V}
    (h : FallbackSound codec settings s fallback) (k : String) :
    FallbackSound codec settings s (fallback.pop k) :=
  fun k' v expires hlookup ↦ h k' v expires (TtlCache.of_lookup_pop hlookup)

theorem RedisSound.garble {redis : TtlCache String String} (h : RedisSound codec settings s redis)
    {text : String} (htext : codec.read text = none) (k : String) (expires : ℚ) :
    RedisSound codec settings s (redis.insert k (text, expires)) := by
  intro k' text' expires' hlookup
  by_cases hk : k' = k
  · rw [hk, AList.lookup_insert] at hlookup
    obtain ⟨rfl, rfl⟩ := Prod.mk.inj (Option.some.inj hlookup)
    exact .inl htext
  · rw [AList.lookup_insert_ne hk] at hlookup
    exact h k' text' expires' hlookup

/-- The fallbacks, one of them changed. -/
theorem FallbackSound.update {fallback : CacheKind → TtlCache String V}
    (h : ∀ kind, FallbackSound codec settings s (fallback kind)) {kind : CacheKind}
    {changed : TtlCache String V} (hchanged : FallbackSound codec settings s changed) :
    ∀ kind', FallbackSound codec settings s (Function.update fallback kind changed kind') := by
  intro kind'
  by_cases heq : kind' = kind
  · rw [heq, Function.update_self]
    exact hchanged
  · rw [Function.update_of_ne heq]
    exact h kind'

/-- A write to Redis of candles that were handed to the cache. -/
theorem RedisSound.write {redis : TtlCache String String} (h : RedisSound codec settings s redis)
    {ttl : ℚ} {w : TtlCache.Write String String}
    (hw : ∀ text, w.value = some text → ∃ c ∈ s.handed, w.key = c.request.redisKey ∧
      codec.read text = some c.data ∧ w.time + ttl = c.expires settings) :
    RedisSound codec settings s (redis.write ttl w) := by
  intro k text expires hlookup
  rcases TtlCache.of_lookup_write hlookup with hlookup | ⟨rfl, hentry⟩
  · exact h k text expires hlookup
  · obtain ⟨text', htext', heq⟩ := Option.map_eq_some_iff.1 hentry
    obtain ⟨rfl, rfl⟩ := Prod.mk.inj heq
    exact .inr (hw text' htext')

/-- A write to a fallback of candles that were handed to the cache. -/
theorem FallbackSound.write {fallback : TtlCache String V}
    (h : FallbackSound codec settings s fallback) {ttl : ℚ} {w : TtlCache.Write String V}
    (hw : ∀ v, w.value = some v → ∃ c ∈ s.handed, w.key = c.request.cacheKey ∧
      codec.validate v = some c.data ∧ w.time + ttl = c.expires settings) :
    FallbackSound codec settings s (fallback.write ttl w) := by
  intro k v expires hlookup
  rcases TtlCache.of_lookup_write hlookup with hlookup | ⟨rfl, hentry⟩
  · exact h k v expires hlookup
  · obtain ⟨v', hv', heq⟩ := Option.map_eq_some_iff.1 hentry
    obtain ⟨rfl, rfl⟩ := Prod.mk.inj heq
    exact hw v' hv'

/-- Candles are handed to the cache. -/
theorem MarketSound.hand (hcodec : codec.Documented) (h : MarketSound codec settings s)
    (hvalid : request.Valid) (hfetched : Fetched s request data) (availability : Availability) :
    MarketSound codec settings (s.hand codec settings request data availability) := by
  set e : CacheEvent V := ⟨.set request.cacheKey (codec.modelDump data), availability⟩
  have hstep : expiringSet codec.json marketKeyPrefix (settings.ttl request.cacheKind)
      (s.stores request.cacheKind) availability s.now request.cacheKey (codec.modelDump data) =
        expiringStep codec.json marketKeyPrefix (settings.ttl request.cacheKind)
          (s.stores request.cacheKind) (.call e s.now) := rfl
  have hmem : (⟨request, data, s.now⟩ : CachedCandles) ∈
      (s.hand codec settings request data availability).handed :=
    List.mem_append_right _ (List.mem_singleton_self _)
  have hgrows : Remembers s (s.hand codec settings request data availability) :=
    ⟨List.Subset.refl _, List.subset_append_left _ _⟩
  have hredis : RedisSound codec settings (s.hand codec settings request data availability)
      (expiringSet codec.json marketKeyPrefix (settings.ttl request.cacheKind)
        (s.stores request.cacheKind) availability s.now request.cacheKey
        (codec.modelDump data)).redis := by
    rw [hstep, expiringStep_call]
    dsimp only
    split
    · refine (h.redis.mono hgrows).write fun text htext ↦ ⟨_, hmem, rfl, ?_, rfl⟩
      rw [CandleCodec.read, hcodec.loads_dumps _ _ htext, Option.bind_some,
        hcodec.validate_modelDump]
    · exact h.redis.mono hgrows
  have hfallback : FallbackSound codec settings (s.hand codec settings request data availability)
      (expiringSet codec.json marketKeyPrefix (settings.ttl request.cacheKind)
        (s.stores request.cacheKind) availability s.now request.cacheKey
        (codec.modelDump data)).fallback := by
    rw [hstep, expiringStep_call]
    dsimp only
    split
    · refine ((h.fallback request.cacheKind).mono hgrows).write fun v hv ↦ ?_
      obtain rfl := Option.some.inj hv
      exact ⟨_, hmem, rfl, hcodec.validate_modelDump data, rfl⟩
    · exact (h.fallback request.cacheKind).mono hgrows
  refine ⟨hredis, FallbackSound.update (fun kind ↦ (h.fallback kind).mono hgrows) hfallback, ?_,
    fun call ↦ (h.phase call).mono hgrows⟩
  intro c hc
  rcases List.mem_append.1 hc with hc | hc
  · obtain ⟨hvalid, hpast, hfetched⟩ := h.handed c hc
    exact ⟨hvalid, hpast, hfetched.mono hgrows⟩
  · obtain rfl := List.mem_singleton.1 hc
    exact ⟨hvalid, le_refl s.now, hfetched.mono hgrows⟩

/-- A cached value is invalidated. -/
theorem MarketSound.invalidate (h : MarketSound codec settings s) (request : MarketRequest)
    (availability : Availability) :
    MarketSound codec settings (s.invalidate request availability) := by
  refine h.of_stores ?_ (FallbackSound.update h.fallback ((h.fallback _).pop _))
  rw [expiringInvalidate]
  dsimp only
  split
  · exact h.redis.pop _
  · exact h.redis

/-- **A cached value that is validated was handed to the cache for the same query**, and had not
expired. -/
theorem cached_of_get (h : MarketSound codec settings s) (hvalid : request.Valid)
    {availability : Availability} {v : V}
    (hget : expiringGet codec.json marketKeyPrefix (s.stores request.cacheKind) availability s.now
      request.cacheKey = some v) (hdata : codec.validate v = some data) :
    Cached settings s ⟨request, .ok data, s.now⟩ data := by
  have hcached {c : CachedCandles} (hc : c ∈ s.handed)
      (hkey : request.cacheKey = c.request.cacheKey)
      (hc_data : c.data = data) (hlive : s.now < c.expires settings) :
      Cached settings s ⟨request, .ok data, s.now⟩ data := by
    obtain ⟨hc_valid, hpast, hfetched⟩ := h.handed c hc
    exact ⟨c, hc, hc_data, (cacheKey_inj_iff hc_valid.1 hvalid.1).1 hkey.symm, hpast, hlive,
      hc_data ▸ hfetched⟩
  have hfallback (hget : (s.fallback request.cacheKind).get s.now request.cacheKey = some v) :
      Cached settings s ⟨request, .ok data, s.now⟩ data := by
    obtain ⟨expires, hlookup, hlive⟩ := TtlCache.get_eq_some_iff.1 hget
    obtain ⟨c, hc, hkey, hvalidate, rfl⟩ := h.fallback _ _ _ _ hlookup
    exact hcached hc hkey (Option.some.inj (hvalidate.symm.trans hdata)) hlive
  cases availability with
  | up =>
    obtain ⟨text, hget, hloads⟩ := Option.bind_eq_some_iff.1 hget
    obtain ⟨expires, hlookup, hlive⟩ := TtlCache.get_eq_some_iff.1 hget
    have hread : codec.read text = some data := by
      rw [CandleCodec.read, hloads, Option.bind_some, hdata]
    rcases h.redis _ _ _ hlookup with hnone | ⟨c, hc, hkey, hcread, rfl⟩
    · rw [hread] at hnone
      cases hnone
    · exact hcached hc ((buildKey_inj marketKeyPrefix).1 hkey)
        (Option.some.inj (hcread.symm.trans hread)) hlive
  | failing applied => exact hfallback hget
  | uninitialised => exact hfallback hget

/-! ### Every step keeps the invariant -/

theorem MarketSound.tick (h : MarketSound codec settings s) {seconds : ℚ} (hle : 0 ≤ seconds) :
    MarketSound codec settings { s with now := s.now + seconds } where
  redis := h.redis
  fallback := h.fallback
  handed c hc :=
    ⟨(h.handed c hc).1, (h.handed c hc).2.1.trans (le_add_of_nonneg_right hle), (h.handed c hc).2.2⟩
  phase := h.phase

/-- A fetch is recorded. -/
theorem MarketSound.fetch (h : MarketSound codec settings s) (f : MarketFetch) :
    MarketSound codec settings { s with fetches := s.fetches ++ [f] } := by
  have hgrows : Remembers s { s with fetches := s.fetches ++ [f] } :=
    ⟨List.subset_append_left _ _, List.Subset.refl _⟩
  exact ⟨h.redis.mono hgrows, fun kind ↦ (h.fallback kind).mono hgrows,
    fun c hc ↦ ⟨(h.handed c hc).1, (h.handed c hc).2.1, (h.handed c hc).2.2.mono hgrows⟩,
    fun call ↦ (h.phase call).mono hgrows⟩

theorem MarketSound.start (h : MarketSound codec settings s) (call : ℕ) (request : MarketRequest) :
    MarketSound codec settings (s.start call request) := by
  rw [MarketState.start, validateSymbol, validatePeriod]
  by_cases hsymbol : SymbolValid request.symbol
  · rw [if_pos hsymbol]
    by_cases hperiod : PeriodValid request.period
    · rw [if_pos hperiod]
      exact h.advance ⟨hsymbol, hperiod⟩
    · rw [if_neg hperiod]
      exact h.advance (.inr (.inl ⟨hsymbol, hperiod, rfl⟩))
  · rw [if_neg hsymbol]
    exact h.advance (.inl ⟨hsymbol, rfl⟩)

theorem MarketSound.takeFetched (h : MarketSound codec settings s) {f : MarketFetch}
    (hvalid : f.request.Valid) : MarketSound codec settings (s.takeFetched f) := by
  have hmem : f ∈ s.fetches ++ [f] := List.mem_append_right _ (List.mem_singleton_self f)
  rw [MarketState.takeFetched]
  cases hresult : f.result with
  | error failure =>
    exact (h.fetch f).advance (.inr (.inr ⟨hvalid, rfl, f, hmem, rfl, rfl, failure, hresult⟩))
  | ok data =>
    dsimp only
    split
    · exact (h.fetch f).advance ⟨hvalid, .inl ⟨f, hmem, rfl, rfl, hresult⟩⟩
    · exact (h.fetch f).advance ⟨hvalid, f, hmem, rfl, rfl, hresult⟩

/-- What is waited for, a sound state says. -/
theorem MarketSound.phase_eq (h : MarketSound codec settings s) {phase : MarketPhase}
    (hphase : s.phase call = phase) : PhaseSound settings s call phase :=
  hphase ▸ h.phase call

theorem MarketSound.abort (hcodec : codec.Documented) (h : MarketSound codec settings s)
    {applied : Bool} (habort : s.abort codec settings applied call (s.phase call) = some s') :
    MarketSound codec settings s' := by
  have hcancelled {t : MarketState V} (ht : MarketSound codec settings t) :
      MarketSound codec settings (t.advance call .cancelled) := ht.advance trivial
  rcases hphase : s.phase call with _ | request | request | request | ⟨request, data⟩ | answer | _
  all_goals rw [hphase, MarketState.abort] at habort
  · cases habort
  · exact Option.some.inj habort ▸ hcancelled h
  · obtain rfl := Option.some.inj habort
    refine hcancelled (h.of_stores ?_ h.fallback)
    split
    · exact h.redis.pop _
    · exact h.redis
  · exact Option.some.inj habort ▸ hcancelled h
  · obtain ⟨hvalid, f, hf, -, hrequest, hresult⟩ := h.phase_eq hphase
    split at habort
    · exact Option.some.inj habort ▸
        hcancelled (h.hand hcodec hvalid ⟨f, hf, hrequest, hresult⟩ .up)
    · exact Option.some.inj habort ▸ hcancelled h
  · cases habort
  · cases habort

/-- **Every step keeps the invariant.** -/
theorem marketSound_step (hcodec : codec.Documented) (h : MarketSound codec settings s)
    {e : MarketEvent} (hstep : marketStep codec settings s e = some s') :
    MarketSound codec settings s' := by
  cases e with
  | tick seconds =>
    rw [marketStep] at hstep
    split at hstep
    · next hle => exact Option.some.inj hstep ▸ h.tick hle
    · cases hstep
  | dropRedis redisKey => exact Option.some.inj hstep ▸ h.of_stores (h.redis.pop _) h.fallback
  | dropFallback kind key =>
    exact Option.some.inj hstep ▸
      h.of_stores h.redis (FallbackSound.update h.fallback ((h.fallback kind).pop key))
  | garble redisKey text expires =>
    rw [marketStep] at hstep
    split at hstep
    · next hnone =>
      exact Option.some.inj hstep ▸
        h.of_stores (h.redis.garble (Option.isNone_iff_eq_none.1 hnone) _ _) h.fallback
    · cases hstep
  | getMarketData call request =>
    simp only [marketStep] at hstep
    split at hstep
    · exact Option.some.inj hstep ▸ h.start call request
    · cases hstep
  | cacheGet call availability =>
    simp only [marketStep] at hstep
    split at hstep
    · next request hphase =>
      have hvalid : request.Valid := h.phase_eq hphase
      obtain rfl := Option.some.inj hstep
      rw [MarketState.takeCached.eq_def]
      split
      · exact h.advance hvalid
      · next cached hget =>
        split
        · next data hdata => exact h.advance ⟨hvalid, .inr (cached_of_get h hvalid hget hdata)⟩
        · exact h.advance hvalid
    · cases hstep
  | cacheInvalidate call availability =>
    simp only [marketStep] at hstep
    split at hstep
    · next request hphase =>
      exact Option.some.inj hstep ▸ (h.invalidate request availability).advance (h.phase_eq hphase)
    · cases hstep
  | fetch call providers =>
    simp only [marketStep] at hstep
    split at hstep
    · next request hphase => exact Option.some.inj hstep ▸ h.takeFetched (h.phase_eq hphase)
    · cases hstep
  | cacheSet call availability =>
    simp only [marketStep] at hstep
    split at hstep
    · next request data hphase =>
      obtain ⟨hvalid, f, hf, hcall, hrequest, hresult⟩ := h.phase_eq hphase
      exact Option.some.inj hstep ▸
        (h.hand hcodec hvalid ⟨f, hf, hrequest, hresult⟩ availability).advance
          ⟨hvalid, .inl ⟨f, hf, hcall, hrequest, hresult⟩⟩
    · cases hstep
  | cancel call applied => exact h.abort hcodec hstep

theorem marketSound_start : MarketSound codec settings ({} : MarketState V) where
  redis k text expires h := absurd h (by simp)
  fallback kind k v expires h := absurd h (by simp)
  handed c hc := absurd hc List.not_mem_nil
  phase _ := trivial

/-- **What is answered, in every interleaving.** A request is refused for its symbol or its period,
or because all providers failed it. Otherwise its candles are those of its own fetch, or were handed
to the cache for the same symbol, time frame and period, which happened less than the time to live
ago. -/
theorem answered_of_run (hcodec : codec.Documented) {es : List MarketEvent}
    (hrun : run (marketStep codec settings) {} es = some s) {answer : MarketAnswer}
    (hanswer : s.phase call = .finished answer) : Answered settings s call answer := by
  have hsound : MarketSound codec settings s :=
    invariant_run (fun h hstep ↦ marketSound_step hcodec h hstep) marketSound_start hrun
  exact hsound.phase_eq hanswer

end Steps

/-! ### Two spellings of a symbol -/

/-- A candle. -/
def flatCandle : OHLCVData :=
  ⟨⟨0, none⟩, 1, 1, 1, 1, 0⟩

/-- The JSON of the list of `flatCandle`. -/
def flatCandleText : String :=
  "[\x7b\"timestamp\": \"1970-01-01T00:00:00\", \"open\": 1.0, \"high\": 1.0, \"low\": 1.0, " ++
    "\"close\": 1.0, \"volume\": 0.0\x7d]"

/-- Serialisation, of the list of `flatCandle`. -/
def flatCandleCodec : CandleCodec (List OHLCVData) where
  modelDump data := data
  validate v := some v
  json :=
    { dumps v := if v = [flatCandle] then some flatCandleText else none
      loads text := if text = flatCandleText then some [flatCandle] else none }

theorem flatCandleCodec_documented : flatCandleCodec.Documented where
  validate_modelDump _ := rfl
  loads_dumps v text h := by
    change (if v = [flatCandle] then some flatCandleText else none) = some text at h
    split at h
    · next hv =>
      obtain rfl := Option.some.inj h
      show (if flatCandleText = flatCandleText then some [flatCandle] else none) = some v
      rw [if_pos rfl, hv]
    · cases h

/-- A provider with one candle. -/
def flatProvider : DataProvider where
  name := "twelve_data"
  priority := .primary
  fetchOhlcv _ _ _ := .ok [flatCandle]

/-- The second request is answered from the cache, under another spelling of the symbol. -/
theorem answered_of_run_spelling :
    ∃ (s : MarketState (List OHLCVData)) (answer : MarketAnswer),
      run (marketStep flatCandleCodec {}) {}
        [.getMarketData 0 ⟨"eur/usd", .h1, "30d"⟩, .cacheGet 0 .up, .fetch 0 [flatProvider],
          .cacheSet 0 .up, .tick 299, .getMarketData 1 ⟨"EUR/USD", .h1, "30d"⟩,
          .cacheGet 1 .up] = some s ∧
      s.phase 1 = .finished answer ∧ answer.result = .ok [flatCandle] ∧ s.fetches.length = 1 ∧
      Answered {} s 1 answer := by
  obtain ⟨s, hrun, hphase, hlength⟩ : ∃ s : MarketState (List OHLCVData),
      run (marketStep flatCandleCodec {}) {}
        [.getMarketData 0 ⟨"eur/usd", .h1, "30d"⟩, .cacheGet 0 .up, .fetch 0 [flatProvider],
          .cacheSet 0 .up, .tick 299, .getMarketData 1 ⟨"EUR/USD", .h1, "30d"⟩,
          .cacheGet 1 .up] = some s ∧
      s.phase 1 = .finished ⟨⟨"EUR/USD", .h1, "30d"⟩, .ok [flatCandle], 299⟩ ∧
      s.fetches.length = 1 :=
    ⟨_, rfl, by decide +kernel, by decide +kernel⟩
  exact ⟨s, _, hrun, hphase, rfl, hlength, answered_of_run flatCandleCodec_documented hrun hphase⟩

end InvestmentAssistant
