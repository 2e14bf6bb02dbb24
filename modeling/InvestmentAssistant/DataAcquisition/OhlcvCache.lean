import InvestmentAssistant.Core.Models
import InvestmentAssistant.Foundation.KeyedTable

/-!
# The candle cache

The table `ohlcv_cache`: one row per symbol, time frame and stored timestamp. The `DateTime` column
keeps the wall-clock reading of a timestamp and drops its offset, so the reading *is* the key
(`CacheWrite.key`), and what is read back carries no offset.

An upsert goes out in statements of at most 500 rows, each with its own `fetched_at`; chunking is
invisible (`upsertOhlcv_table`): the call writes its candles in order, and a later one replaces an
earlier one with the same reading. So the contents after any list of calls are known from the
candles written (`mem_getCachedOhlcv_iff`, `pairwise_getCachedOhlcv`).
-/

namespace InvestmentAssistant

open Table

/-! ### Rows -/

/-- The columns of a row beside its key. `fetched_at` is the UTC time of the statement, in
microseconds. -/
structure CacheRow where
  open_ : ℚ
  high : ℚ
  low : ℚ
  close : ℚ
  volume : ℚ
  fetchedAt : ℤ
  deriving DecidableEq, Repr

/-- One row handed to a statement, with the statement's clock. -/
structure CacheWrite where
  symbol : String
  timeframe : String
  candle : OHLCVData
  fetchedAt : ℤ
  deriving DecidableEq, Repr

/-- The unique key: symbol, time frame and the stored timestamp, which is the reading alone. -/
def CacheWrite.key (w : CacheWrite) : (String × String) × ℤ :=
  ((w.symbol, w.timeframe), w.candle.timestamp.wall)

/-- The inserted or replacing columns. -/
def CacheWrite.row (w : CacheWrite) : Option CacheRow :=
  some ⟨w.candle.open_, w.candle.high, w.candle.low, w.candle.close, w.candle.volume, w.fetchedAt⟩

/-- The table `ohlcv_cache`. -/
abbrev OhlcvTable := Table ((String × String) × ℤ) CacheRow

/-- A row read back: its timestamp has no offset. -/
def CacheRow.candle (row : CacheRow) (timestamp : ℤ) : OHLCVData :=
  ⟨⟨timestamp, none⟩, row.open_, row.high, row.low, row.close, row.volume⟩

/-- A candle as it is read back. -/
def OHLCVData.naive (c : OHLCVData) : OHLCVData :=
  { c with timestamp := c.timestamp.naive }

@[simp] theorem OHLCVData.naive_wall (c : OHLCVData) :
    c.naive.timestamp.wall = c.timestamp.wall := rfl

/-! ### Queries -/

/-- `get_cached_ohlcv`. -/
def getCachedOhlcv (db : OhlcvTable) (symbol timeframe : String) : List OHLCVData :=
  (slice db (symbol, timeframe)).map fun row ↦ row.2.candle row.1

/-- `get_latest_timestamp`. -/
def getLatestTimestamp (db : OhlcvTable) (symbol timeframe : String) : Option DateTime :=
  (slice db (symbol, timeframe)).getLast?.map fun row ↦ ⟨row.1, none⟩

/-- `get_latest_fetched_at`. -/
def getLatestFetchedAt (db : OhlcvTable) (symbol timeframe : String) : Option ℤ :=
  ((slice db (symbol, timeframe)).map fun row ↦ row.2.fetchedAt).max?

/-! ### Upserts -/

/-- `_UPSERT_CHUNK_SIZE`. -/
def upsertChunkSize : ℕ := 500

/-- `rows[i : i + size]` for `i` in `range(0, len(rows), size)`. -/
def chunks {α : Type} (rows : List α) : List (List α) :=
  (List.range ((rows.length + upsertChunkSize - 1) / upsertChunkSize)).map fun i ↦
    (rows.drop (i * upsertChunkSize)).take upsertChunkSize

/-- `INSERT … ON CONFLICT DO UPDATE` of one chunk: its rows, in order. -/
def insertChunk (db : OhlcvTable) (chunk : List CacheWrite) : OhlcvTable :=
  writeAll CacheWrite.key CacheWrite.row db chunk

/-- The statements of an upsert; `clock i` is the time of the `i`-th one. -/
def upsertStatements (clock : ℕ → ℤ) (symbol timeframe : String) (candles : List OHLCVData) :
    List (List CacheWrite) :=
  (chunks candles).zipIdx.map fun chunk ↦
    chunk.1.map fun c ↦ ⟨symbol, timeframe, c, clock chunk.2⟩

/-- `upsert_ohlcv`: the number of rows written and the table afterwards. -/
def upsertOhlcv (clock : ℕ → ℤ) (db : OhlcvTable) (symbol timeframe : String)
    (candles : List OHLCVData) : ℕ × OhlcvTable :=
  if candles = [] then (0, db)
  else
    (candles.length, (upsertStatements clock symbol timeframe candles).foldl insertChunk db)

/-- Consecutive pieces of a list, enough of them to cover it, make up the list. -/
theorem flatten_map_take_drop {α : Type} (rows : List α) (size m : ℕ) :
    ((List.range m).map fun i ↦ (rows.drop (i * size)).take size).flatten =
      rows.take (m * size) := by
  induction m with
  | zero => simp
  | succ m ih =>
    rw [List.range_succ, List.map_append, List.flatten_append, ih, Nat.succ_mul, List.take_add]
    simp

/-- **Chunking loses and reorders nothing.** -/
theorem flatten_chunks {α : Type} (rows : List α) : (chunks rows).flatten = rows := by
  rw [chunks, flatten_map_take_drop, List.take_of_length_le]
  show rows.length ≤ (rows.length + 500 - 1) / 500 * 500
  omega

/-- The statements of an upsert hold its candles, in order. -/
theorem map_candle_flatten_upsertStatements (clock : ℕ → ℤ) (symbol timeframe : String)
    (candles : List OHLCVData) :
    (upsertStatements clock symbol timeframe candles).flatten.map CacheWrite.candle = candles := by
  have hcandle : ∀ chunk : List OHLCVData × ℕ,
      (chunk.1.map fun c ↦ (⟨symbol, timeframe, c, clock chunk.2⟩ : CacheWrite)).map
        CacheWrite.candle = chunk.1 := by
    intro chunk
    rw [List.map_map]
    exact List.map_id _
  rw [upsertStatements, List.map_flatten, List.map_map]
  have hmap : List.map CacheWrite.candle ∘ (fun chunk : List OHLCVData × ℕ ↦
      chunk.1.map fun c ↦ (⟨symbol, timeframe, c, clock chunk.2⟩ : CacheWrite)) = Prod.fst :=
    funext hcandle
  rw [hmap, List.zipIdx_map_fst, flatten_chunks]

/-- The statements of an upsert go to its own pair. -/
theorem of_mem_flatten_upsertStatements {clock : ℕ → ℤ} {symbol timeframe : String}
    {candles : List OHLCVData} {w : CacheWrite}
    (h : w ∈ (upsertStatements clock symbol timeframe candles).flatten) :
    w.symbol = symbol ∧ w.timeframe = timeframe := by
  obtain ⟨statement, hs, hw⟩ := List.mem_flatten.1 h
  obtain ⟨chunk, -, rfl⟩ := List.mem_map.1 hs
  obtain ⟨c, -, rfl⟩ := List.mem_map.1 hw
  exact ⟨rfl, rfl⟩

/-- **An upsert writes its candles in order**, whatever the chunks. -/
theorem upsertOhlcv_table (clock : ℕ → ℤ) (db : OhlcvTable) (symbol timeframe : String)
    (candles : List OHLCVData) :
    (upsertOhlcv clock db symbol timeframe candles).2 =
      writeAll CacheWrite.key CacheWrite.row db
        (upsertStatements clock symbol timeframe candles).flatten := by
  unfold upsertOhlcv
  split
  · next h => subst h; rfl
  · exact foldl_writeAll _ _ _ _

/-! ### What the cache holds -/

/-- The candles of a list of writes that go to one pair. -/
def candlesFor (symbol timeframe : String) (ws : List CacheWrite) : List OHLCVData :=
  (ws.filter fun w ↦ decide (w.symbol = symbol ∧ w.timeframe = timeframe)).map CacheWrite.candle

/-- The last candle of a list to a reading. -/
def lastAt (reading : ℤ) (candles : List OHLCVData) : Option OHLCVData :=
  lastWith (fun c ↦ c.timestamp.wall) reading candles

/-- The cached candle of a reading. -/
def cachedAt (db : OhlcvTable) (symbol timeframe : String) (reading : ℤ) : Option OHLCVData :=
  (db.lookup ((symbol, timeframe), reading)).map fun row ↦ row.candle reading

/-- The last write to a key holds the last candle of the pair to that reading. -/
theorem map_candle_lastWith_key (symbol timeframe : String) (reading : ℤ) (ws : List CacheWrite) :
    (lastWith CacheWrite.key ((symbol, timeframe), reading) ws).map CacheWrite.candle =
      lastAt reading (candlesFor symbol timeframe ws) := by
  rw [lastAt, candlesFor, lastWith_map, ← lastWith_filter (p := fun w ↦
    decide (w.symbol = symbol ∧ w.timeframe = timeframe))]
  · congr 1
    refine lastWith_congr fun w hw ↦ ?_
    obtain ⟨rfl, rfl⟩ := of_decide_eq_true (List.mem_filter.1 hw).2
    simp [CacheWrite.key]
  · intro w _ hw
    obtain ⟨hpair, -⟩ := Prod.mk.inj hw
    exact decide_eq_true (Prod.mk.inj hpair)

/-- **What a reading holds after a list of writes**: the last candle written to it, or what it held
before. -/
theorem cachedAt_writeAll (db : OhlcvTable) (symbol timeframe : String) (ws : List CacheWrite)
    (reading : ℤ) :
    cachedAt (writeAll CacheWrite.key CacheWrite.row db ws) symbol timeframe reading =
      ((lastAt reading (candlesFor symbol timeframe ws)).map OHLCVData.naive).or
        (cachedAt db symbol timeframe reading) := by
  rw [cachedAt, lookup_writeAll, ← map_candle_lastWith_key]
  cases h : lastWith CacheWrite.key ((symbol, timeframe), reading) ws with
  | none => rfl
  | some w =>
    obtain ⟨-, hreading⟩ := Prod.mk.inj (mem_of_lastWith_eq_some h).2
    subst hreading
    rfl

/-- The cache lists exactly the cached candle of each reading. -/
theorem mem_getCachedOhlcv_iff {db : OhlcvTable} {symbol timeframe : String} {c : OHLCVData} :
    c ∈ getCachedOhlcv db symbol timeframe ↔
      cachedAt db symbol timeframe c.timestamp.wall = some c := by
  rw [getCachedOhlcv, List.mem_map, cachedAt, Option.map_eq_some_iff]
  constructor
  · rintro ⟨⟨reading, row⟩, hrow, rfl⟩
    exact ⟨row, mem_slice.1 hrow, rfl⟩
  · rintro ⟨row, hrow, hc⟩
    exact ⟨(c.timestamp.wall, row), mem_slice.2 hrow, hc⟩

/-- The cache lists its candles in the order of their readings, one per reading. -/
theorem pairwise_getCachedOhlcv (db : OhlcvTable) (symbol timeframe : String) :
    (getCachedOhlcv db symbol timeframe).Pairwise
      fun a b ↦ a.timestamp.wall < b.timestamp.wall :=
  List.pairwise_map.2 (pairwise_slice db (symbol, timeframe))

/-- The readings of cached candles are exact: no offset. -/
theorem cachedAt_wall {db : OhlcvTable} {symbol timeframe : String} {reading : ℤ} {c : OHLCVData}
    (h : cachedAt db symbol timeframe reading = some c) : c.timestamp = ⟨reading, none⟩ := by
  obtain ⟨row, -, rfl⟩ := Option.map_eq_some_iff.1 h
  rfl

end InvestmentAssistant
