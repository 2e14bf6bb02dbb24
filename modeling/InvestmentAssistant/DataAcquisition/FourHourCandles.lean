import InvestmentAssistant.Foundation.Buckets
import InvestmentAssistant.DataAcquisition.FallbackChain
import InvestmentAssistant.DataAcquisition.ReadThrough

/-!
# Four-hour candles from hourly ones

Yahoo has no four-hour candles, so its provider collects the hourly ones in buckets of four
(`resampleTo4h`). The buckets are counted from the first candle of the download, not from a fixed
hour.

So a window that starts `k` hours later has other candles, except when `k` is a multiple of four
(`agreeOnCommonHours_resample_iff`). The cache merges the candles of many windows by timestamp: they
cover no hour twice when all windows start at the same hour modulo four, in one time zone
(`coversOnce_cacheAfter`), and they may as soon as one does not.
-/

namespace InvestmentAssistant

open Buckets Table

/-! ### Resampling -/

/-- The candle of a bucket. -/
def bucketCandle : List OHLCVData → Option OHLCVData
  | [] => none
  | first :: rest => some
    { timestamp := first.timestamp
      open_ := first.open_
      high := (rest.map OHLCVData.high).foldl max first.high
      low := (rest.map OHLCVData.low).foldl min first.low
      close := ((first :: rest).getLast (List.cons_ne_nil _ _)).close
      volume := ((first :: rest).map OHLCVData.volume).sum }

/-- One candle goes into the bucket; a bucket of four becomes a candle of the result. -/
def resampleStep (s : List OHLCVData × List OHLCVData) (candle : OHLCVData) :
    List OHLCVData × List OHLCVData :=
  let bucket := s.2 ++ [candle]
  if bucket.length = 4 then (s.1 ++ (bucketCandle bucket).toList, []) else (s.1, bucket)

/-- `_resample_to_4h`: an incomplete bucket at the end is discarded. -/
def resampleTo4h (data : List OHLCVData) : List OHLCVData :=
  (data.foldl resampleStep ([], [])).1

/-- A row of the download: a timestamp without a zone is in UTC. -/
def OHLCVData.utcIfNaive (c : OHLCVData) : OHLCVData :=
  { c with timestamp := ⟨c.timestamp.wall, some (c.timestamp.utcoffset.getD 0)⟩ }

/-- `YFinanceProvider.fetch_ohlcv`, for the rows of the download. -/
def yfinanceFetchOhlcv (timeframe : DataTimeframe) (rows : List OHLCVData) : List OHLCVData :=
  let result := rows.map OHLCVData.utcIfNaive
  if timeframe = .h4 then resampleTo4h result else result

@[simp] theorem OHLCVData.utcIfNaive_instant (c : OHLCVData) :
    c.utcIfNaive.timestamp.instant = c.timestamp.instant :=
  rfl

/-! ### Hours -/

/-- One hour, in microseconds. -/
def hour : ℤ := 60 * 60 * 1000000

/-- Each candle is an hour after the one before it. -/
def GapFreeHourly (data : List OHLCVData) : Prop :=
  data.IsChain fun a b ↦ b.timestamp.instant = a.timestamp.instant + hour

/-- A four-hour candle covers the instants of the four hours from its timestamp on. -/
def OHLCVData.Covers (c : OHLCVData) (instant : ℤ) : Prop :=
  c.timestamp.instant ≤ instant ∧ instant < c.timestamp.instant + 4 * hour

/-- Wherever both lists have a candle, it is the same one. -/
def AgreeOnCommonHours (xs ys : List OHLCVData) : Prop :=
  ∀ x ∈ xs, ∀ y ∈ ys, ∀ instant, x.Covers instant → y.Covers instant → x = y

/-- The loop's result is the candles of its full buckets. -/
theorem foldl_resampleStep (data : List OHLCVData) (full : List (List OHLCVData))
    (bucket : List OHLCVData) :
    data.foldl resampleStep (full.filterMap bucketCandle, bucket) =
      ((data.foldl (step 4) (full, bucket)).1.filterMap bucketCandle,
        (data.foldl (step 4) (full, bucket)).2) := by
  induction data generalizing full bucket with
  | nil => rfl
  | cons candle data ih =>
    rw [List.foldl_cons, List.foldl_cons, step_mk]
    have hstep : resampleStep (full.filterMap bucketCandle, bucket) candle =
        if (bucket ++ [candle]).length = 4 then
          ((full ++ [bucket ++ [candle]]).filterMap bucketCandle, [])
        else (full.filterMap bucketCandle, bucket ++ [candle]) := by
      rw [List.filterMap_append, List.filterMap_cons, List.filterMap_nil]
      rw [resampleStep]
      cases bucketCandle (bucket ++ [candle]) <;> rfl
    rw [hstep]
    split
    · exact ih _ _
    · exact ih _ _

/-- The candle of the bucket at a position. -/
def candleAt (data : List OHLCVData) (i : ℕ) : Option OHLCVData :=
  bucketCandle ((data.drop i).take 4)

theorem mem_resampleTo4h_iff {data : List OHLCVData} {x : OHLCVData} :
    x ∈ resampleTo4h data ↔ ∃ j, j * 4 + 4 ≤ data.length ∧ candleAt data (j * 4) = some x := by
  have hresult : resampleTo4h data = (fullBuckets 4 data).filterMap bucketCandle :=
    congrArg Prod.fst (foldl_resampleStep data [] [])
  rw [hresult, List.mem_filterMap]
  constructor
  · rintro ⟨bucket, hbucket, hx⟩
    obtain ⟨j, hj, rfl⟩ := (mem_fullBuckets_iff (by decide)).1 hbucket
    exact ⟨j, hj, hx⟩
  · rintro ⟨j, hj, hx⟩
    exact ⟨_, (mem_fullBuckets_iff (by decide)).2 ⟨j, hj, rfl⟩, hx⟩

/-- The candles of a list without its first `k` elements. -/
theorem candleAt_drop (data : List OHLCVData) (k i : ℕ) :
    candleAt (data.drop k) i = candleAt data (k + i) := by
  rw [candleAt, List.drop_drop, candleAt]

/-- A bucket's candle has the timestamp of its first element. -/
theorem exists_candleAt (data : List OHLCVData) {i : ℕ} (hi : i < data.length) :
    ∃ x, candleAt data i = some x ∧ x.timestamp = data[i].timestamp := by
  rw [candleAt, List.drop_eq_getElem_cons hi, List.take_succ_cons]
  exact ⟨_, rfl, rfl⟩

/-! ### Moving the start -/

section Hourly

variable {data : List OHLCVData}

/-- The instant a series begins at. -/
def startInstant (data : List OHLCVData) : ℤ :=
  (data.head?.map fun c ↦ c.timestamp.instant).getD 0

/-- The instants of a gap-free series are an hour apart. -/
theorem instant_getElem (h : GapFreeHourly data) {i : ℕ} (hi : i < data.length) :
    data[i].timestamp.instant = startInstant data + i * hour := by
  induction i with
  | zero =>
    obtain ⟨c, data, rfl⟩ := List.exists_cons_of_length_pos hi
    rw [Nat.cast_zero, zero_mul, add_zero]
    rfl
  | succ i ih =>
    have hnext := List.isChain_iff_getElem.1 h i hi
    rw [hnext, ih (Nat.lt_of_succ_lt hi)]
    push_cast
    ring

/-- The candle of the bucket at a position begins as many hours after the series. -/
theorem instant_candleAt (h : GapFreeHourly data) {i : ℕ} (hi : i < data.length) {x : OHLCVData}
    (hx : candleAt data i = some x) : x.timestamp.instant = startInstant data + i * hour := by
  obtain ⟨x', hx', htimestamp⟩ := exists_candleAt data hi
  obtain rfl := Option.some.inj (hx.symm.trans hx')
  rw [htimestamp, instant_getElem h hi]

/-- Candles that both cover an instant begin less than four hours apart. -/
theorem abs_sub_lt_of_covers {x y : OHLCVData} {instant : ℤ} (hx : x.Covers instant)
    (hy : y.Covers instant) : |x.timestamp.instant - y.timestamp.instant| < 4 * hour := by
  rw [abs_lt]
  obtain ⟨hx₁, hx₂⟩ := hx
  obtain ⟨hy₁, hy₂⟩ := hy
  constructor <;> linarith

/-- Instants that are whole multiples of four hours apart, and less than four hours, are equal. -/
theorem eq_of_dvd_of_abs_lt {s t : ℤ} (hdvd : 4 * hour ∣ s - t) (hlt : |s - t| < 4 * hour) :
    s = t :=
  sub_eq_zero.1 (Int.eq_zero_of_abs_lt_dvd hdvd hlt)

/-- A start that is off by a number of hours that is no multiple of four gives a candle that
overlaps one of the whole series. -/
theorem not_agreeOnCommonHours_resample (h : GapFreeHourly data) {k : ℕ} (hk : ¬ 4 ∣ k)
    (hlen : k + 4 ≤ data.length) :
    ¬ AgreeOnCommonHours (resampleTo4h data) (resampleTo4h (data.drop k)) := by
  intro hagree
  -- the bucket of the whole series that has hour `k`, and the first one without the `k` hours
  have hdiv : k / 4 * 4 + 4 ≤ data.length := by omega
  obtain ⟨x, hx, -⟩ := exists_candleAt data (show k / 4 * 4 < data.length by omega)
  obtain ⟨y, hy, -⟩ := exists_candleAt data (show k < data.length by omega)
  have hxmem : x ∈ resampleTo4h data := mem_resampleTo4h_iff.2 ⟨k / 4, hdiv, hx⟩
  have hymem : y ∈ resampleTo4h (data.drop k) :=
    mem_resampleTo4h_iff.2 ⟨0, by rw [List.length_drop]; omega, by rw [candleAt_drop]; exact hy⟩
  have hdist : y.timestamp.instant = x.timestamp.instant + (k % 4 : ℕ) * hour := by
    have hmod : (k : ℤ) = (k / 4 * 4 : ℕ) + (k % 4 : ℕ) := by omega
    rw [instant_candleAt h (by omega) hx, instant_candleAt h (by omega) hy, hmod]
    ring
  have hhour : (0 : ℤ) < hour := by decide
  have hpos : (0 : ℤ) < (k % 4 : ℕ) * hour := mul_pos (by omega) hhour
  have hlt : ((k % 4 : ℕ) : ℤ) * hour < 4 * hour := mul_lt_mul_of_pos_right (by omega) hhour
  have hxy : x = y := by
    refine hagree x hxmem y hymem y.timestamp.instant ⟨?_, ?_⟩ ⟨le_rfl, ?_⟩ <;> linarith
  rw [hxy] at hdist
  linarith

/-- **Where a later start gives the same candles**: when it is later by a multiple of four hours, or
when it leaves no candle at all. -/
theorem agreeOnCommonHours_resample_iff (h : GapFreeHourly data) (k : ℕ) :
    AgreeOnCommonHours (resampleTo4h data) (resampleTo4h (data.drop k)) ↔
      4 ∣ k ∨ data.length < k + 4 := by
  constructor
  · intro hagree
    by_contra! hk
    exact not_agreeOnCommonHours_resample h hk.1 hk.2 hagree
  · intro hk x hx y hy instant hxc hyc
    obtain ⟨j, hj, hx⟩ := mem_resampleTo4h_iff.1 hx
    obtain ⟨j', hj', hy⟩ := mem_resampleTo4h_iff.1 hy
    rw [List.length_drop] at hj'
    rw [candleAt_drop] at hy
    rcases hk with ⟨m, rfl⟩ | hlen
    · -- both begin a multiple of four hours after the series
      have hxi := instant_candleAt h (by omega) hx
      have hyi := instant_candleAt h (by omega) hy
      have hdist : x.timestamp.instant - y.timestamp.instant =
          4 * hour * ((j : ℤ) - m - j') := by
        rw [hxi, hyi]
        push_cast
        ring
      have heq := eq_of_dvd_of_abs_lt ⟨_, hdist⟩ (abs_sub_lt_of_covers hxc hyc)
      have hj : j * 4 = 4 * m + j' * 4 := by
        rw [hxi, hyi, add_right_inj, mul_left_inj' (by decide)] at heq
        exact_mod_cast heq
      rw [← hj] at hy
      exact Option.some.inj (hx.symm.trans hy)
    · omega

end Hourly

/-! ### The cache over many windows -/

/-- One call of `get_ohlcv` with the Yahoo provider behind it: its database errors and clocks, what
it asks for, and what the download returns. -/
structure OhlcvCall where
  faults : DbFaults := {}
  now : ℤ
  clock : ℕ → ℤ
  symbol : String
  timeframe : DataTimeframe
  period : String
  download : Except PyException (List OHLCVData)

namespace OhlcvCall

/-- The candles the provider makes of the download. -/
def fetched (call : OhlcvCall) : Except PyException (List OHLCVData) :=
  call.download.map (yfinanceFetchOhlcv call.timeframe)

/-- The table that the call leaves behind. -/
def perform (db : OhlcvTable) (call : OhlcvCall) : OhlcvTable :=
  (getOhlcv call.faults call.now call.clock (Session.start db) call.symbol call.timeframe.value
    call.period fun _ _ _ ↦ call.fetched).2.committed

/-- A call for the four-hour candles of a symbol. -/
def IsH4 (call : OhlcvCall) (symbol : String) : Prop :=
  call.symbol = symbol ∧ call.timeframe = .h4

instance (call : OhlcvCall) (symbol : String) : Decidable (call.IsH4 symbol) :=
  inferInstanceAs (Decidable (_ ∧ _))

end OhlcvCall

/-- The table after a list of calls, from an empty one. -/
def cacheAfter (calls : List OhlcvCall) : OhlcvTable :=
  calls.foldl OhlcvCall.perform ∅

/-- The four-hour candles of a symbol that a list of calls fetched. -/
def fetchedH4 (symbol : String) (calls : List OhlcvCall) : List OHLCVData :=
  (calls.filter fun call ↦ decide (call.IsH4 symbol)).flatMap fun call ↦
    call.fetched.toOption.getD []

/-- A cached candle covers the hours of the fetched candle it came from. -/
def CachedCovers (fetched : List OHLCVData) (c : OHLCVData) (instant : ℤ) : Prop :=
  ∃ x ∈ fetched, x.naive = c ∧ x.Covers instant

/-- The cached four-hour candles of a symbol all come from the calls, and cover no hour twice. -/
structure CoversOnce (symbol : String) (calls : List OhlcvCall) : Prop where
  fetched : ∀ c ∈ getCachedOhlcv (cacheAfter calls) symbol DataTimeframe.h4.value,
    ∃ x ∈ fetchedH4 symbol calls, x.naive = c
  once : ∀ c ∈ getCachedOhlcv (cacheAfter calls) symbol DataTimeframe.h4.value,
    ∀ c' ∈ getCachedOhlcv (cacheAfter calls) symbol DataTimeframe.h4.value,
    ∀ instant, CachedCovers (fetchedH4 symbol calls) c instant →
      CachedCovers (fetchedH4 symbol calls) c' instant → c = c'

/-- A downloaded window: hourly without gaps, in a time zone, and starting on a grid of four
hours. -/
structure AlignedWindow (zone : ℤ → ℤ) (phase : ℤ) (rows : List OHLCVData) : Prop where
  hourly : GapFreeHourly rows
  zone : ∀ c ∈ rows, c.timestamp.utcoffset.getD 0 = zone c.timestamp.instant
  phase : ∀ c ∈ rows.head?, 4 * hour ∣ c.timestamp.instant - phase

/-- An upsert commits all of its candles or nothing. -/
theorem committed_upsert (faults : DbFaults) (clock : ℕ → ℤ) (db : OhlcvTable)
    (symbol timeframe : String) (candles : List OHLCVData) :
    ((Session.start db).upsert faults clock symbol timeframe candles).2.committed = db ∨
      ((Session.start db).upsert faults clock symbol timeframe candles).2.committed =
        (upsertOhlcv clock db symbol timeframe candles).2 := by
  rw [Session.upsert]
  split
  · exact .inr rfl
  · exact .inl rfl

section Branches

variable (faults : DbFaults) (clock : ℕ → ℤ) (session : Session) (symbol timeframe : String)
  (fetched : Except PyException (List OHLCVData))

/-- A branch leaves the session as it was, or upserts some of the fetched candles. -/
def StoresFetched (session' : Session) : Prop :=
  session' = session ∨ ∃ stored, (∀ x ∈ stored, x ∈ fetched.toOption.getD []) ∧
    session' = (session.upsert faults clock symbol timeframe stored).2

theorem storesFetched_fullFetch :
    StoresFetched faults clock session symbol timeframe fetched
      (fullFetch faults clock session symbol timeframe fetched).2 := by
  rcases fetched with e | candles
  · exact .inl rfl
  · rw [fullFetch]
    split
    · exact .inl rfl
    · refine .inr ⟨candles, fun _ hx ↦ hx, ?_⟩
      split <;> next h => rw [h]

/-- Stale data and no data are stored alike. -/
theorem fullRefetch_snd :
    (fullRefetch faults clock session symbol timeframe fetched).2 =
      (fullFetch faults clock session symbol timeframe fetched).2 := by
  rcases fetched with e | candles
  · rfl
  · rw [fullRefetch, fullFetch]
    split <;> rfl

theorem storesFetched_deltaFetch (latestTs : DateTime) :
    StoresFetched faults clock session symbol timeframe fetched
      (deltaFetch faults clock session symbol timeframe fetched latestTs).2 := by
  rcases fetched with e | candles
  · exact .inl rfl
  · rw [deltaFetch]
    dsimp only
    split
    · exact .inl rfl
    · exact .inr ⟨delta latestTs candles, fun _ hx ↦ List.mem_of_mem_filter hx, rfl⟩

theorem storesFetched_getOhlcv (now : ℤ) (period : String) (fetchFn : FetchFn) :
    StoresFetched faults clock session symbol timeframe (fetchFn symbol timeframe period)
      (getOhlcv faults now clock session symbol timeframe period fetchFn).2 := by
  rw [getOhlcv]
  split
  · exact .inl rfl
  · exact .inl rfl
  · dsimp only
    split
    · exact storesFetched_fullFetch ..
    · rw [fullRefetch_snd]
      exact storesFetched_fullFetch ..
    · exact storesFetched_deltaFetch ..

end Branches

/-- **What a call leaves behind**: the table as it was, or with some of the fetched candles
upserted. -/
theorem OhlcvCall.perform_eq (db : OhlcvTable) (call : OhlcvCall) :
    call.perform db = db ∨ ∃ stored, (∀ x ∈ stored, x ∈ call.fetched.toOption.getD []) ∧
      call.perform db =
        (upsertOhlcv call.clock db call.symbol call.timeframe.value stored).2 := by
  rcases storesFetched_getOhlcv call.faults call.clock (Session.start db) call.symbol
    call.timeframe.value call.now call.period (fun _ _ _ ↦ call.fetched)
      with h | ⟨stored, hstored, h⟩
  · exact .inl (congrArg Session.committed h)
  · rcases committed_upsert call.faults call.clock db call.symbol call.timeframe.value stored with
      hcommitted | hcommitted
    · exact .inl ((congrArg Session.committed h).trans hcommitted)
    · exact .inr ⟨stored, hstored, (congrArg Session.committed h).trans hcommitted⟩

/-- Different time frames have different values. -/
theorem DataTimeframe.value_inj {s t : DataTimeframe} : s.value = t.value ↔ s = t := by
  cases s <;> cases t <;> decide

/-- What a call adds to the cache of a pair is a candle it fetched for that pair. -/
theorem OhlcvCall.mem_getCachedOhlcv_perform {db : OhlcvTable} {call : OhlcvCall} {symbol : String}
    {c : OHLCVData} (hc : c ∈ getCachedOhlcv (call.perform db) symbol DataTimeframe.h4.value) :
    c ∈ getCachedOhlcv db symbol DataTimeframe.h4.value ∨
      call.IsH4 symbol ∧ ∃ x ∈ call.fetched.toOption.getD [], x.naive = c := by
  rcases call.perform_eq db with h | ⟨stored, hstored, h⟩
  · exact .inl (h ▸ hc)
  rw [h] at hc
  by_cases hown : call.IsH4 symbol
  · obtain ⟨rfl, htimeframe⟩ := hown
    rw [htimeframe, mem_getCachedOhlcv_iff, cachedAt_upsertOhlcv, Option.or_eq_some_iff] at hc
    rcases hc with hc | ⟨-, hc⟩
    · obtain ⟨x, hx, rfl⟩ := Option.map_eq_some_iff.1 hc
      exact .inr ⟨⟨rfl, htimeframe⟩, x, hstored x (mem_of_lastWith_eq_some hx).1, rfl⟩
    · exact .inl (mem_getCachedOhlcv_iff.2 hc)
  · rw [getCachedOhlcv_upsertOhlcv_of_ne] at hc
    · exact .inl hc
    · intro heq
      obtain ⟨hsymbol, htimeframe⟩ := Prod.mk.inj heq
      exact hown ⟨hsymbol.symm, (DataTimeframe.value_inj.1 htimeframe).symm⟩

/-- **Every cached four-hour candle was fetched.** -/
theorem exists_fetchedH4_of_mem_getCachedOhlcv {symbol : String} {calls : List OhlcvCall}
    {c : OHLCVData} (hc : c ∈ getCachedOhlcv (cacheAfter calls) symbol DataTimeframe.h4.value) :
    ∃ x ∈ fetchedH4 symbol calls, x.naive = c := by
  induction calls using List.reverseRecOn with
  | nil => exact absurd hc List.not_mem_nil
  | append_singleton calls call ih =>
    rw [cacheAfter, List.foldl_append] at hc
    rw [fetchedH4, List.filter_append, List.flatMap_append]
    rcases OhlcvCall.mem_getCachedOhlcv_perform hc with hc | ⟨hown, x, hx, rfl⟩
    · obtain ⟨x, hx, rfl⟩ := ih hc
      exact ⟨x, List.mem_append_left _ hx, rfl⟩
    · refine ⟨x, List.mem_append_right _ (List.mem_flatMap.2 ⟨call, ?_, hx⟩), rfl⟩
      exact List.mem_filter.2 ⟨List.mem_singleton_self _, decide_eq_true hown⟩

/-- The candles of an aligned window begin on the grid, in the zone. -/
theorem AlignedWindow.of_mem_yfinanceFetchOhlcv {zone : ℤ → ℤ} {phase : ℤ} {rows : List OHLCVData}
    (h : AlignedWindow zone phase rows) {x : OHLCVData} (hx : x ∈ yfinanceFetchOhlcv .h4 rows) :
    4 * hour ∣ x.timestamp.instant - phase ∧
      x.timestamp.utcoffset = some (zone x.timestamp.instant) := by
  rw [yfinanceFetchOhlcv, if_pos rfl] at hx
  obtain ⟨j, hj, hx⟩ := mem_resampleTo4h_iff.1 hx
  rw [List.length_map] at hj
  have hlen : j * 4 < rows.length := by omega
  obtain ⟨x', hx', htimestamp⟩ := exists_candleAt (rows.map OHLCVData.utcIfNaive)
    (hlen.trans_eq (List.length_map _).symm)
  obtain rfl := Option.some.inj (hx.symm.trans hx')
  rw [List.getElem_map] at htimestamp
  rw [htimestamp]
  constructor
  · have hstart : 4 * hour ∣ startInstant rows - phase := by
      obtain ⟨c, rows, rfl⟩ := List.exists_cons_of_length_pos (Nat.zero_lt_of_lt hlen)
      exact h.phase c rfl
    rw [OHLCVData.utcIfNaive_instant, instant_getElem h.hourly hlen, add_sub_right_comm]
    refine dvd_add hstart ⟨j, ?_⟩
    push_cast
    ring
  · rw [OHLCVData.utcIfNaive_instant, ← h.zone _ (List.getElem_mem hlen)]
    rfl

/-- A fetched four-hour candle is one of the candles of a window. -/
theorem exists_download_of_mem_fetchedH4 {symbol : String} {calls : List OhlcvCall} {x : OHLCVData}
    (hx : x ∈ fetchedH4 symbol calls) :
    ∃ call ∈ calls, call.IsH4 symbol ∧ ∃ rows, call.download = .ok rows ∧
      x ∈ yfinanceFetchOhlcv .h4 rows := by
  obtain ⟨call, hcall, hx⟩ := List.mem_flatMap.1 hx
  obtain ⟨hcall, hown⟩ := List.mem_filter.1 hcall
  have hown := of_decide_eq_true hown
  rw [OhlcvCall.fetched, hown.2] at hx
  rcases hdownload : call.download with e | rows
  · rw [hdownload] at hx
    exact absurd hx List.not_mem_nil
  · rw [hdownload] at hx
    exact ⟨call, hcall, hown, rows, hdownload, hx⟩

/-- **Aligned windows cover no hour twice**, whatever the calls' clocks, database errors and failed
downloads, and whatever the calls for other symbols and time frames do. -/
theorem coversOnce_cacheAfter (zone : ℤ → ℤ) (phase : ℤ) {symbol : String} {calls : List OhlcvCall}
    (haligned : ∀ call ∈ calls, call.IsH4 symbol → ∀ rows, call.download = .ok rows →
      AlignedWindow zone phase rows) : CoversOnce symbol calls where
  fetched := fun _ hc ↦ exists_fetchedH4_of_mem_getCachedOhlcv hc
  once := by
    rintro c hc c' hc' instant ⟨x, hx, rfl, hxc⟩ ⟨x', hx', rfl, hxc'⟩
    obtain ⟨call, hcall, hown, rows, hrows, hx⟩ := exists_download_of_mem_fetchedH4 hx
    obtain ⟨call', hcall', hown', rows', hrows', hx'⟩ := exists_download_of_mem_fetchedH4 hx'
    obtain ⟨hgrid, hzone⟩ := (haligned call hcall hown rows hrows).of_mem_yfinanceFetchOhlcv hx
    obtain ⟨hgrid', hzone'⟩ :=
      (haligned call' hcall' hown' rows' hrows').of_mem_yfinanceFetchOhlcv hx'
    -- on one grid, sharing an instant means beginning at the same one
    have hinstant : x.timestamp.instant = x'.timestamp.instant := by
      refine eq_of_dvd_of_abs_lt ?_ (abs_sub_lt_of_covers hxc hxc')
      rw [← sub_sub_sub_cancel_right _ _ phase]
      exact dvd_sub hgrid hgrid'
    have hwall : x.timestamp.wall = x'.timestamp.wall := by
      have hoffset : x.timestamp.utcoffset = x'.timestamp.utcoffset := by
        rw [hzone, hzone', hinstant]
      rw [DateTime.instant, DateTime.instant, hoffset] at hinstant
      exact sub_left_inj.1 hinstant
    rw [mem_getCachedOhlcv_iff, OHLCVData.naive_wall] at hc hc'
    rw [hwall] at hc
    exact Option.some.inj (hc.symm.trans hc')

/-! ### The result -/

/-- **Four-hour candles and the start of the window.** For a gap-free hourly series, the candles of
the series without its first `k` hours agree with those of the whole exactly when `k` is a multiple
of four or leaves no candle; and the cache covers no hour twice after calls whose windows are
aligned. -/
theorem four_hour_candles {data : List OHLCVData} (hdata : GapFreeHourly data) (k : ℕ)
    (zone : ℤ → ℤ) (phase : ℤ) {symbol : String} {calls : List OhlcvCall}
    (haligned : ∀ call ∈ calls, call.IsH4 symbol → ∀ rows, call.download = .ok rows →
      AlignedWindow zone phase rows) :
    (AgreeOnCommonHours (resampleTo4h data) (resampleTo4h (data.drop k)) ↔
      4 ∣ k ∨ data.length < k + 4) ∧
    CoversOnce symbol calls :=
  ⟨agreeOnCommonHours_resample_iff hdata k, coversOnce_cacheAfter zone phase haligned⟩

/-- The hourly candles of a window, in UTC. -/
def hourlyCandles (first n : ℕ) : List OHLCVData :=
  (List.range n).map fun i ↦ utcCandle ((first + i : ℕ) * hour) 1

/-- A call for gold that downloads the eight hours of a window. -/
def windowCall (first : ℕ) : OhlcvCall where
  now := 0
  clock := fun _ ↦ 0
  symbol := "XAUUSD"
  timeframe := .h4
  period := "60d"
  download := .ok (hourlyCandles first 8)

theorem gapFreeHourly_hourlyCandles (first n : ℕ) : GapFreeHourly (hourlyCandles first n) := by
  refine List.isChain_iff_getElem.2 fun i hi ↦ ?_
  simp only [hourlyCandles, List.getElem_map, List.getElem_range, utcCandle, DateTime.instant]
  push_cast
  ring

/-- Windows that start four hours apart are on one grid. -/
theorem alignedWindow_hourlyCandles {call : OhlcvCall} (hcall : call ∈ [windowCall 0, windowCall 4])
    {rows : List OHLCVData} (hrows : call.download = .ok rows) :
    AlignedWindow (fun _ ↦ 0) 0 rows := by
  have hwindow : ∀ first ∈ [0, 4], AlignedWindow (fun _ ↦ 0) 0 (hourlyCandles first 8) := by
    intro first hfirst
    refine ⟨gapFreeHourly_hourlyCandles first 8, ?_, ?_⟩
    · revert first
      decide
    · revert first
      decide
  rcases List.mem_pair.1 hcall with rfl | rfl
  · obtain rfl := Except.ok.inj hrows
    exact hwindow 0 (by decide)
  · obtain rfl := Except.ok.inj hrows
    exact hwindow 4 (by decide)

/-- Windows four hours apart: the candles agree, and the cache covers no hour twice. -/
theorem four_hour_candles_aligned :
    AgreeOnCommonHours (resampleTo4h (hourlyCandles 0 9))
      (resampleTo4h ((hourlyCandles 0 9).drop 4)) ∧
    CoversOnce "XAUUSD" [windowCall 0, windowCall 4] := by
  have h := @four_hour_candles _ (gapFreeHourly_hourlyCandles 0 9) 4 (fun _ ↦ 0) 0 "XAUUSD"
    [windowCall 0, windowCall 4] fun _ hcall _ _ hrows ↦ alignedWindow_hourlyCandles hcall hrows
  exact ⟨h.1.2 (.inl (by decide)), h.2⟩

/-- Eight hours, and the same hours without the first: different candles cover hour 4. Two calls
whose windows are an hour apart leave candles for the hours 4 to 8 and 5 to 9 in the cache. -/
theorem four_hour_candles_shift :
    GapFreeHourly (hourlyCandles 0 8) ∧
    (resampleTo4h (hourlyCandles 0 8)).map (fun c ↦ c.timestamp.wall / hour) = [0, 4] ∧
    (resampleTo4h ((hourlyCandles 0 8).drop 1)).map (fun c ↦ c.timestamp.wall / hour) = [1] ∧
    ¬ AgreeOnCommonHours (resampleTo4h (hourlyCandles 0 8))
      (resampleTo4h ((hourlyCandles 0 8).drop 1)) ∧
    (getCachedOhlcv (cacheAfter [windowCall 0, windowCall 1]) "XAUUSD" "H4").map
      (fun c ↦ c.timestamp.wall / hour) = [0, 4, 5] ∧
    ¬ CoversOnce "XAUUSD" [windowCall 0, windowCall 1] := by
  refine ⟨gapFreeHourly_hourlyCandles 0 8, by decide, by decide,
    not_agreeOnCommonHours_resample (gapFreeHourly_hourlyCandles 0 8) (by decide) (by decide),
    by decide, fun h ↦ ?_⟩
  -- the candles of the hours 4 and 5
  let c₄ : OHLCVData := ⟨⟨4 * hour, some 0⟩, 1, 1, 1, 1, 0⟩
  let c₅ : OHLCVData := ⟨⟨5 * hour, some 0⟩, 1, 1, 1, 1, 0⟩
  have heq : c₄.naive = c₅.naive := by
    refine h.once c₄.naive (by decide +kernel) c₅.naive (by decide +kernel) (5 * hour)
      ⟨c₄, by decide +kernel, rfl, ?_⟩ ⟨c₅, by decide +kernel, rfl, ?_⟩
    · exact ⟨by decide, by decide⟩
    · exact ⟨by decide, by decide⟩
  exact absurd heq (by decide)

end InvestmentAssistant
