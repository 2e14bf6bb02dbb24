import InvestmentAssistant.DataAcquisition.OhlcvCache

/-!
# Reading candles through the cache

`OHLCVCacheService.get_ohlcv` on one database session. The session sees its own uncommitted rows,
and only what it committed survives it, so a failing upsert leaves rows that the rest of the call
can read and the table never gets (`Session`). Database errors and the provider are parameters of a
call (`DbFaults`, `FetchFn`).

A call takes one of three branches, decided by what it reads first (`CacheCase`):

* *miss* — everything fetched is stored and returned;
* *stale* — likewise, unless nothing was fetched;
* *hit* — of what was fetched, the candles not older than the newest cached one are stored, and the
  cache is returned. The filter is deliberate: it is what makes this a delta fetch, and it skips a
  candle fetched for a gap in the past.

`getOhlcv_readsThrough` says what each branch leaves in the cache and returns.
-/

namespace InvestmentAssistant

open Table

/-! ### Sessions -/

/-- A database session: the table as committed and as the session sees it. -/
structure Session where
  committed : OhlcvTable
  visible : OhlcvTable

/-- `session_factory()`. -/
def Session.start (db : OhlcvTable) : Session :=
  ⟨db, db⟩

/-- The database errors of a call: the queries that raise, and the upsert that raises after a number
of its statements. -/
structure DbFaults where
  latestTimestamp : Option PyException := none
  latestFetchedAt : Option PyException := none
  upsert : Option (ℕ × PyException) := none
  cached : Option PyException := none

/-- `upsert_ohlcv` on a session. -/
def Session.upsert (session : Session) (faults : DbFaults) (clock : ℕ → ℤ)
    (symbol timeframe : String) (candles : List OHLCVData) : Except PyException ℕ × Session :=
  match faults.upsert with
  | none =>
    let (count, db) := upsertOhlcv clock session.visible symbol timeframe candles
    (.ok count, ⟨db, db⟩)
  | some (done, e) =>
    let statements := (upsertStatements clock symbol timeframe candles).take done
    (.error e, { session with visible := statements.foldl insertChunk session.visible })

/-- `get_cached_ohlcv` on a session. -/
def Session.cached (session : Session) (faults : DbFaults) (symbol timeframe : String) :
    Except PyException (List OHLCVData) :=
  match faults.cached with
  | none => .ok (getCachedOhlcv session.visible symbol timeframe)
  | some e => .error e

/-! ### The branches -/

/-- `_STALENESS_MINUTES`, in microseconds. -/
def stalenessThreshold : ℤ := 5 * 60 * 1000000

/-- `_INTRADAY_TIMEFRAMES`. -/
def intradayTimeframes : List String :=
  ["M15", "H1", "H4"]

/-- `_is_stale`; `now` is the UTC clock it reads. -/
def isStale (fetchedAt : Option ℤ) (timeframe : String) (now : ℤ) : Bool :=
  if timeframe ∉ intradayTimeframes then false
  else
    match fetchedAt with
    | none => true
    | some fetchedAt => decide (stalenessThreshold < now - fetchedAt)

/-- The branch of a call. -/
inductive CacheCase
  | miss
  | stale
  | hit (latestTs : DateTime)
  deriving DecidableEq, Repr

/-- The branch for what the two queries returned. -/
def cacheCase (latestTs : Option DateTime) (fetchedAt : Option ℤ) (timeframe : String) (now : ℤ) :
    CacheCase :=
  match latestTs with
  | none => .miss
  | some latestTs => if isStale fetchedAt timeframe now then .stale else .hit latestTs

/-- The candles of a delta fetch: not older than the newest cached one, read without offsets. -/
def delta (latestTs : DateTime) (candles : List OHLCVData) : List OHLCVData :=
  candles.filter fun c ↦ decide (latestTs.naive.wall ≤ c.timestamp.naive.wall)

/-- What a branch hands to the upsert. -/
def CacheCase.toStore : CacheCase → List OHLCVData → List OHLCVData
  | .hit latestTs, candles => delta latestTs candles
  | _, candles => candles

/-- `fetch_fn`: symbol, time frame and period to candles. -/
abbrev FetchFn := String → String → String → Except PyException (List OHLCVData)

section Call

variable (faults : DbFaults) (clock : ℕ → ℤ) (session : Session) (symbol timeframe : String)
  (fetched : Except PyException (List OHLCVData))

/-- The branch of a miss. -/
def fullFetch : Except PyException (List OHLCVData) × Session :=
  match fetched with
  | .error e => (.error e, session)
  | .ok candles =>
    if candles = [] then (.ok candles, session)
    else
      match session.upsert faults clock symbol timeframe candles with
      | (.ok _, session) => (.ok candles, session)
      | (.error e, session) => (.error e, session)

/-- The branch of stale data. -/
def fullRefetch : Except PyException (List OHLCVData) × Session :=
  match fetched with
  | .error e => (.error e, session)
  | .ok candles =>
    if candles = [] then (session.cached faults symbol timeframe, session)
    else
      match session.upsert faults clock symbol timeframe candles with
      | (.ok _, session) => (.ok candles, session)
      | (.error e, session) => (.error e, session)

/-- The branch of a hit; a failing fetch or upsert is logged and the cache returned. -/
def deltaFetch (latestTs : DateTime) : Except PyException (List OHLCVData) × Session :=
  let session :=
    match fetched with
    | .error _ => session
    | .ok freshCandles =>
      let delta := delta latestTs freshCandles
      if delta = [] then session
      else (session.upsert faults clock symbol timeframe delta).2
  (session.cached faults symbol timeframe, session)

end Call

/-- `OHLCVCacheService.get_ohlcv`. -/
def getOhlcv (faults : DbFaults) (now : ℤ) (clock : ℕ → ℤ) (session : Session)
    (symbol timeframe period : String) (fetchFn : FetchFn) :
    Except PyException (List OHLCVData) × Session :=
  match faults.latestTimestamp, faults.latestFetchedAt with
  | some e, _ => (.error e, session)
  | none, some e => (.error e, session)
  | none, none =>
    let latestTs := getLatestTimestamp session.visible symbol timeframe
    let fetchedAt := getLatestFetchedAt session.visible symbol timeframe
    let fetched := fetchFn symbol timeframe period
    match cacheCase latestTs fetchedAt timeframe now with
    | .miss => fullFetch faults clock session symbol timeframe fetched
    | .stale => fullRefetch faults clock session symbol timeframe fetched
    | .hit latestTs => deltaFetch faults clock session symbol timeframe fetched latestTs

/-! ### What an upsert leaves -/

/-- An upsert leaves the last of its candles at each of their readings, and nothing else changes. -/
theorem cachedAt_upsertOhlcv (clock : ℕ → ℤ) (db : OhlcvTable) (symbol timeframe : String)
    (candles : List OHLCVData) (reading : ℤ) :
    cachedAt (upsertOhlcv clock db symbol timeframe candles).2 symbol timeframe reading =
      ((lastAt reading candles).map OHLCVData.naive).or
        (cachedAt db symbol timeframe reading) := by
  rw [upsertOhlcv_table, cachedAt_writeAll]
  have hown : candlesFor symbol timeframe (upsertStatements clock symbol timeframe
      candles).flatten = candles := by
    have hall : ∀ w ∈ (upsertStatements clock symbol timeframe candles).flatten,
        decide (w.symbol = symbol ∧ w.timeframe = timeframe) = true :=
      fun w hw ↦ decide_eq_true (of_mem_flatten_upsertStatements hw)
    rw [candlesFor, List.filter_eq_self.2 hall, map_candle_flatten_upsertStatements]
  rw [hown]

/-- An upsert leaves the other pairs alone. -/
theorem getCachedOhlcv_upsertOhlcv_of_ne (clock : ℕ → ℤ) (db : OhlcvTable)
    {symbol timeframe symbol' timeframe' : String} (candles : List OHLCVData)
    (hne : (symbol', timeframe') ≠ (symbol, timeframe)) :
    getCachedOhlcv (upsertOhlcv clock db symbol timeframe candles).2 symbol' timeframe' =
      getCachedOhlcv db symbol' timeframe' := by
  rw [getCachedOhlcv, getCachedOhlcv]
  congr 1
  refine slice_congr fun reading ↦ ?_
  have hnone : lastWith CacheWrite.key ((symbol', timeframe'), reading)
      (upsertStatements clock symbol timeframe candles).flatten = none := by
    refine lastWith_eq_none_iff.2 fun w hw hkey ↦ hne ?_
    obtain ⟨hs, ht⟩ := of_mem_flatten_upsertStatements hw
    rw [← (Prod.mk.inj hkey).1, hs, ht]
  rw [upsertOhlcv_table, lookup_writeAll, hnone]

/-- What is handed to an upsert is cached afterwards, the last candle of each reading. -/
theorem naive_mem_getCachedOhlcv_upsertOhlcv {clock : ℕ → ℤ} {db : OhlcvTable}
    {symbol timeframe : String} {candles : List OHLCVData} {c : OHLCVData}
    (h : lastAt c.timestamp.wall candles = some c) :
    c.naive ∈
      getCachedOhlcv (upsertOhlcv clock db symbol timeframe candles).2 symbol timeframe := by
  rw [mem_getCachedOhlcv_iff, cachedAt_upsertOhlcv, OHLCVData.naive_wall, h]
  rfl

/-- A pair without a newest candle has none. -/
theorem getCachedOhlcv_eq_nil_of_miss {db : OhlcvTable} {symbol timeframe : String}
    (h : getLatestTimestamp db symbol timeframe = none) :
    getCachedOhlcv db symbol timeframe = [] := by
  rw [getLatestTimestamp, Option.map_eq_none_iff, List.getLast?_eq_none_iff] at h
  rw [getCachedOhlcv, h]
  rfl

/-! ### What a call leaves and returns -/

/-- The branch a call takes on a table. -/
def branchOf (db : OhlcvTable) (symbol timeframe : String) (now : ℤ) : CacheCase :=
  cacheCase (getLatestTimestamp db symbol timeframe) (getLatestFetchedAt db symbol timeframe)
    timeframe now

/-- What a call that fetched `candles` in a branch does to the table and returns. -/
structure ReadsThrough (branch : CacheCase) (db db' : OhlcvTable) (symbol timeframe : String)
    (candles returned : List OHLCVData) : Prop where
  /-- Each reading holds the last candle stored for it, or what it held before. -/
  content : ∀ reading, cachedAt db' symbol timeframe reading =
    ((lastAt reading (branch.toStore candles)).map OHLCVData.naive).or
      (cachedAt db symbol timeframe reading)
  /-- The other pairs are left alone. -/
  frame : ∀ symbol' timeframe', (symbol', timeframe') ≠ (symbol, timeframe) →
    getCachedOhlcv db' symbol' timeframe' = getCachedOhlcv db symbol' timeframe'
  /-- What is stored is cached, the last candle of each reading. -/
  stored : ∀ c ∈ branch.toStore candles, lastAt c.timestamp.wall (branch.toStore candles) = some c →
    c.naive ∈ getCachedOhlcv db' symbol timeframe
  /-- On a hit the whole cache is returned. -/
  hit : ∀ latestTs, branch = .hit latestTs → returned = getCachedOhlcv db' symbol timeframe
  /-- On a miss or on stale data every fetched candle is returned. -/
  fetched : (∀ latestTs, branch ≠ .hit latestTs) → ∀ c ∈ candles, c ∈ returned
  /-- On a miss this is the whole cache, when the fetched readings increase. -/
  miss : branch = .miss → (candles.Pairwise fun a b ↦ a.timestamp.wall < b.timestamp.wall) →
    returned.map OHLCVData.naive = getCachedOhlcv db' symbol timeframe

section Upserted

variable {branch : CacheCase} {db : OhlcvTable} {symbol timeframe : String}
  {candles returned : List OHLCVData} {clock : ℕ → ℤ}

/-- In a list with increasing readings every candle is the last of its reading. -/
theorem lastAt_of_pairwise
    (h : candles.Pairwise fun a b ↦ a.timestamp.wall < b.timestamp.wall) {c : OHLCVData}
    (hc : c ∈ candles) : lastAt c.timestamp.wall candles = some c := by
  obtain ⟨c', hc'⟩ : ∃ c', lastAt c.timestamp.wall candles = some c' := exists_lastWith_of_mem hc
  obtain ⟨hmem, hwall⟩ := mem_of_lastWith_eq_some hc'
  -- no two candles share a reading
  have hinj : (candles.map fun c ↦ c.timestamp.wall).Nodup :=
    List.nodup_iff_pairwise_ne.2 (List.pairwise_map.2 (h.imp fun hlt ↦ hlt.ne))
  rw [List.inj_on_of_nodup_map hinj hmem hc hwall] at hc'
  exact hc'

/-- The cache of a pair that had no candles is what was stored, when its readings increase. -/
theorem map_naive_eq_getCachedOhlcv (hempty : getCachedOhlcv db symbol timeframe = [])
    (h : candles.Pairwise fun a b ↦ a.timestamp.wall < b.timestamp.wall) :
    candles.map OHLCVData.naive =
      getCachedOhlcv (upsertOhlcv clock db symbol timeframe candles).2 symbol timeframe := by
  refine eq_of_pairwise_of_mem_iff (List.pairwise_map.2 h) (pairwise_getCachedOhlcv _ _ _)
    fun c ↦ ?_
  have hnone : cachedAt db symbol timeframe c.timestamp.wall = none := by
    refine Option.eq_none_iff_forall_ne_some.2 fun c' hc' ↦ ?_
    have hwall := congrArg DateTime.wall (cachedAt_wall hc')
    have hmem : c' ∈ getCachedOhlcv db symbol timeframe := by
      rw [mem_getCachedOhlcv_iff, hwall]
      exact hc'
    rw [hempty] at hmem
    exact absurd hmem List.not_mem_nil
  rw [List.mem_map, mem_getCachedOhlcv_iff, cachedAt_upsertOhlcv, hnone, Option.or_none,
    Option.map_eq_some_iff]
  constructor
  · rintro ⟨w, hw, rfl⟩
    exact ⟨w, lastAt_of_pairwise h hw, rfl⟩
  · rintro ⟨w, hw, rfl⟩
    exact ⟨w, (mem_of_lastWith_eq_some hw).1, rfl⟩

/-- A call that upserted what its branch stores reads through, if it returns what its branch
does. -/
theorem readsThrough_upsert
    (hhit : ∀ latestTs, branch = .hit latestTs → returned = getCachedOhlcv
      (upsertOhlcv clock db symbol timeframe (branch.toStore candles)).2 symbol timeframe)
    (hreturned : (∀ latestTs, branch ≠ .hit latestTs) → returned = candles)
    (hmiss : branch = .miss → getCachedOhlcv db symbol timeframe = []) :
    ReadsThrough branch db (upsertOhlcv clock db symbol timeframe (branch.toStore candles)).2
      symbol timeframe candles returned where
  content := cachedAt_upsertOhlcv clock db symbol timeframe (branch.toStore candles)
  frame := fun _ _ hne ↦ getCachedOhlcv_upsertOhlcv_of_ne clock db _ hne
  stored := fun _ _ hlast ↦ naive_mem_getCachedOhlcv_upsertOhlcv hlast
  hit := hhit
  fetched := fun hne c hc ↦ hreturned hne ▸ hc
  miss := by
    rintro rfl hsorted
    rw [hreturned fun _ h ↦ nomatch h]
    exact map_naive_eq_getCachedOhlcv (hmiss rfl) hsorted

end Upserted

/-- **Reading through the cache.** For every table, every clock and every nonempty fetch, a call
without database errors returns, commits what its session sees, and reads through: what it stored is
cached, the last candle of each reading; on a hit it stored the fetched candles not older than the
newest cached one and returns the whole cache; otherwise it stored and returns every fetched candle.
-/
theorem getOhlcv_readsThrough (now : ℤ) (clock : ℕ → ℤ) (db : OhlcvTable)
    (symbol timeframe period : String) (fetchFn : FetchFn) {candles : List OHLCVData}
    (hfetch : fetchFn symbol timeframe period = .ok candles) (hne : candles ≠ []) :
    ∃ returned db', getOhlcv {} now clock (Session.start db) symbol timeframe period fetchFn =
        (.ok returned, Session.start db') ∧
      ReadsThrough (branchOf db symbol timeframe now) db db' symbol timeframe candles returned := by
  have hcall : getOhlcv {} now clock (Session.start db) symbol timeframe period fetchFn =
      match branchOf db symbol timeframe now with
      | .miss => fullFetch {} clock (Session.start db) symbol timeframe (.ok candles)
      | .stale => fullRefetch {} clock (Session.start db) symbol timeframe (.ok candles)
      | .hit latestTs => deltaFetch {} clock (Session.start db) symbol timeframe (.ok candles)
          latestTs := by
    rw [← hfetch]
    rfl
  have hmiss : branchOf db symbol timeframe now = .miss →
      getCachedOhlcv db symbol timeframe = [] := by
    intro h
    refine getCachedOhlcv_eq_nil_of_miss ?_
    unfold branchOf cacheCase at h
    split at h
    · assumption
    · split at h <;> exact nomatch h
  rw [hcall]
  -- each branch stores `toStore`, the empty delta by doing nothing
  cases hbranch : branchOf db symbol timeframe now with
  | miss =>
    refine ⟨candles, (upsertOhlcv clock db symbol timeframe candles).2, ?_,
      readsThrough_upsert (fun _ h ↦ nomatch h) (fun _ ↦ rfl) fun _ ↦ hmiss hbranch⟩
    show fullFetch {} clock (Session.start db) symbol timeframe (.ok candles) = _
    rw [fullFetch, if_neg hne]
    rfl
  | stale =>
    refine ⟨candles, (upsertOhlcv clock db symbol timeframe candles).2, ?_,
      readsThrough_upsert (fun _ h ↦ nomatch h) (fun _ ↦ rfl) fun h ↦ nomatch h⟩
    show fullRefetch {} clock (Session.start db) symbol timeframe (.ok candles) = _
    rw [fullRefetch, if_neg hne]
    rfl
  | hit latestTs =>
    refine ⟨_, (upsertOhlcv clock db symbol timeframe (delta latestTs candles)).2, ?_,
      readsThrough_upsert (fun _ _ ↦ rfl) (fun h ↦ absurd rfl (h latestTs)) fun h ↦ nomatch h⟩
    show deltaFetch {} clock (Session.start db) symbol timeframe (.ok candles) latestTs = _
    by_cases hdelta : delta latestTs candles = []
    · have hsame : (upsertOhlcv clock db symbol timeframe (delta latestTs candles)).2 = db := by
        rw [hdelta]
        rfl
      rw [CacheCase.toStore, hsame, deltaFetch]
      simp only [if_pos hdelta]
      rfl
    · rw [deltaFetch]
      simp only [if_neg hdelta]
      rfl

/-! ### A gap in the past -/

/-- A UTC candle at one price. -/
def utcCandle (reading : ℤ) (price : ℚ) : OHLCVData :=
  ⟨⟨reading, some 0⟩, price, price, price, price, 0⟩

/-- A table with one daily candle, at reading 10. -/
def oneCandleTable : OhlcvTable :=
  (upsertOhlcv (fun _ ↦ 0) ∅ "EURUSD" "D1" [utcCandle 10 1]).2

/-- A provider that also has the candle at reading 5. -/
def backfillingFetch : FetchFn := fun _ _ _ ↦
  .ok [utcCandle 5 2, utcCandle 10 3]

/-- The call on this table reads through. -/
theorem getOhlcv_readsThrough_backfill :
    ∃ returned db', getOhlcv {} 0 (fun _ ↦ 0) (Session.start oneCandleTable) "EURUSD" "D1" "200d"
        backfillingFetch = (.ok returned, Session.start db') ∧
      ReadsThrough (branchOf oneCandleTable "EURUSD" "D1" 0) oneCandleTable db' "EURUSD" "D1"
        [utcCandle 5 2, utcCandle 10 3] returned :=
  getOhlcv_readsThrough 0 (fun _ ↦ 0) oneCandleTable "EURUSD" "D1" "200d" backfillingFetch rfl
    (List.cons_ne_nil _ _)

/-- The candle at reading 5 is fetched, and neither returned nor cached. -/
theorem getOhlcv_drops_backfilled_candle :
    let call := getOhlcv {} 0 (fun _ ↦ 0) (Session.start oneCandleTable) "EURUSD" "D1" "200d"
      backfillingFetch
    backfillingFetch "EURUSD" "D1" "200d" = .ok [utcCandle 5 2, utcCandle 10 3] ∧
      call.1 = .ok [(utcCandle 10 3).naive] ∧
      getCachedOhlcv call.2.committed "EURUSD" "D1" = [(utcCandle 10 3).naive] ∧
      ¬ ∀ c ∈ [utcCandle 5 2, utcCandle 10 3],
        c.naive ∈ getCachedOhlcv call.2.committed "EURUSD" "D1" := by
  decide +kernel

end InvestmentAssistant
