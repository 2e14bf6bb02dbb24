import InvestmentAssistant.DataAcquisition.OhlcvCache

/-!
# The store the candle cache stands for

Abstractly the candles written for a pair form a *chronicle*: one candle per instant, the last one
written for it, in the order of the instants. The cache is keyed and ordered by the wall-clock
reading instead, and a reading determines the instant only together with its offset. Providers do
not agree on the offset: one emits exchange-local timestamps, the others UTC.

`store_law_iff` says exactly for which timestamps the cache is the chronicle whatever is written:
the readings have to be ordered as the instants are. Two candles that break this are enough to break
the law, so the condition cannot be weakened for any set of timestamps.
-/

namespace InvestmentAssistant

open Table

/-! ### Runs -/

/-- One call of `upsert_ohlcv`, with the clocks of its statements. -/
structure UpsertCall where
  symbol : String
  timeframe : String
  clock : ℕ → ℤ
  candles : List OHLCVData

/-- Perform one call. -/
def UpsertCall.perform (db : OhlcvTable) (call : UpsertCall) : OhlcvTable :=
  (upsertOhlcv call.clock db call.symbol call.timeframe call.candles).2

/-- The table after a list of calls, from an empty one. -/
def tableAfter (calls : List UpsertCall) : OhlcvTable :=
  calls.foldl UpsertCall.perform ∅

/-- The candles a list of calls writes for one pair, in order. -/
def written (symbol timeframe : String) (calls : List UpsertCall) : List OHLCVData :=
  (calls.filter fun call ↦ decide (call.symbol = symbol ∧ call.timeframe = timeframe)).flatMap
    UpsertCall.candles

/-- The rows of all statements of a list of calls. -/
def statementRows (calls : List UpsertCall) : List CacheWrite :=
  calls.flatMap fun call ↦
    (upsertStatements call.clock call.symbol call.timeframe call.candles).flatten

/-- A run of calls is one list of writes. -/
theorem tableAfter_eq (calls : List UpsertCall) :
    tableAfter calls = writeAll CacheWrite.key CacheWrite.row ∅ (statementRows calls) := by
  induction calls using List.reverseRecOn with
  | nil => rfl
  | append_singleton calls call ih =>
    have hstep : tableAfter (calls ++ [call]) = call.perform (tableAfter calls) := by
      rw [tableAfter, List.foldl_append]
      rfl
    rw [hstep, UpsertCall.perform, upsertOhlcv_table, ih, ← writeAll_append, statementRows,
      statementRows, List.flatMap_append, List.flatMap_singleton]

/-- The rows that go to a pair hold the candles written for it. -/
theorem candlesFor_statementRows (symbol timeframe : String) (calls : List UpsertCall) :
    candlesFor symbol timeframe (statementRows calls) = written symbol timeframe calls := by
  induction calls with
  | nil => rfl
  | cons call calls ih =>
    have hrows : ∀ w ∈ (upsertStatements call.clock call.symbol call.timeframe
        call.candles).flatten, decide (w.symbol = symbol ∧ w.timeframe = timeframe) =
          decide (call.symbol = symbol ∧ call.timeframe = timeframe) := by
      intro w hw
      obtain ⟨hs, ht⟩ := of_mem_flatten_upsertStatements hw
      rw [hs, ht]
    rw [statementRows, List.flatMap_cons, candlesFor, List.filter_append, List.map_append,
      List.filter_congr hrows, written, List.filter_cons]
    change _ ++ candlesFor symbol timeframe (statementRows calls) = _
    rw [ih]
    by_cases h : call.symbol = symbol ∧ call.timeframe = timeframe
    · rw [decide_eq_true h, if_pos rfl, List.flatMap_cons, List.filter_true,
        map_candle_flatten_upsertStatements]
      rfl
    · rw [decide_eq_false h, if_neg Bool.false_ne_true, List.filter_false]
      rfl

/-- **What a reading holds after a run**: the last candle written to it. -/
theorem cachedAt_tableAfter (symbol timeframe : String) (calls : List UpsertCall) (reading : ℤ) :
    cachedAt (tableAfter calls) symbol timeframe reading =
      (lastAt reading (written symbol timeframe calls)).map OHLCVData.naive := by
  rw [tableAfter_eq, cachedAt_writeAll, candlesFor_statementRows, cachedAt, AList.lookup_empty]
  exact Option.or_none

/-! ### The chronicle -/

/-- The last candle of a list for an instant. -/
def lastFor (instant : ℤ) (candles : List OHLCVData) : Option OHLCVData :=
  lastWith (fun c ↦ c.timestamp.instant) instant candles

/-- The abstract store: the last candle written for each instant, in the order of the instants. -/
def chronicle (candles : List OHLCVData) : List OHLCVData :=
  (slice (writeAll (fun c ↦ ((), c.timestamp.instant)) some ∅ candles) ()).map Prod.snd

theorem mem_chronicle_iff {candles : List OHLCVData} {c : OHLCVData} :
    c ∈ chronicle candles ↔ lastFor c.timestamp.instant candles = some c := by
  have hlookup : ∀ i : ℤ, (writeAll (fun c : OHLCVData ↦ ((), c.timestamp.instant)) some ∅
      candles).lookup ((), i) = lastFor i candles := by
    intro i
    have hkeys : lastWith (fun c : OHLCVData ↦ ((), c.timestamp.instant)) ((), i) candles =
        lastFor i candles := lastWith_congr fun c _ ↦ by simp
    rw [lookup_writeAll, hkeys]
    cases lastFor i candles <;> rfl
  rw [chronicle, List.mem_map]
  constructor
  · rintro ⟨⟨i, c⟩, hc, rfl⟩
    have hlast : lastFor i candles = some c := (hlookup i).symm.trans (mem_slice.1 hc)
    obtain rfl : c.timestamp.instant = i := (mem_of_lastWith_eq_some hlast).2
    exact hlast
  · intro hlast
    exact ⟨(c.timestamp.instant, c), mem_slice.2 ((hlookup _).trans hlast), rfl⟩

theorem pairwise_chronicle (candles : List OHLCVData) :
    (chronicle candles).Pairwise fun a b ↦ a.timestamp.instant < b.timestamp.instant := by
  refine List.pairwise_map.2 ((pairwise_slice _ ()).imp_of_mem ?_)
  rintro ⟨i, c⟩ ⟨i', c'⟩ hc hc' hlt
  have hinstant : ∀ {i : ℤ} {c : OHLCVData}, (i, c) ∈ slice (writeAll
      (fun c : OHLCVData ↦ ((), c.timestamp.instant)) some ∅ candles) () →
        c.timestamp.instant = i := by
    intro i c h
    rw [mem_slice, lookup_writeAll] at h
    split at h
    · next w hw =>
      obtain rfl := Option.some.inj h
      exact (Prod.mk.inj (mem_of_lastWith_eq_some hw).2).2
    · exact nomatch h
  exact (hinstant hc).symm ▸ (hinstant hc').symm ▸ hlt

/-! ### The law -/

/-- The cache of a pair, read back, is the chronicle of what was written for it: every instant once,
with the values last written for it, in chronological order. -/
def StoreLaw (symbol timeframe : String) (calls : List UpsertCall) : Prop :=
  getCachedOhlcv (tableAfter calls) symbol timeframe =
    (chronicle (written symbol timeframe calls)).map OHLCVData.naive

/-- The readings are ordered as the instants are. -/
def ReadingsFollowInstants (timestamps : Set DateTime) : Prop :=
  ∀ a ∈ timestamps, ∀ b ∈ timestamps, a.instant < b.instant ↔ a.wall < b.wall

theorem ReadingsFollowInstants.eq_iff {timestamps : Set DateTime}
    (h : ReadingsFollowInstants timestamps) {a b : DateTime} (ha : a ∈ timestamps)
    (hb : b ∈ timestamps) : a.instant = b.instant ↔ a.wall = b.wall := by
  have hab := h a ha b hb
  have hba := h b hb a ha
  omega

/-- A list that is strictly ordered in two ways is ordered the same way by both. -/
theorem lt_iff_lt_of_pairwise {α : Type} {f g : α → ℤ} {l : List α}
    (hf : l.Pairwise fun a b ↦ f a < f b) (hg : l.Pairwise fun a b ↦ g a < g b) {a b : α}
    (ha : a ∈ l) (hb : b ∈ l) : f a < f b ↔ g a < g b := by
  have hboth : l.Pairwise fun a b ↦
      (f a < f b ↔ g a < g b) ∧ (f b < f a ↔ g b < g a) :=
    hf.imp₂ (fun _ _ hlt hlt' ↦ ⟨iff_of_true hlt hlt', iff_of_false hlt.asymm hlt'.asymm⟩) hg
  have : Std.Symm fun a b ↦ (f a < f b ↔ g a < g b) ∧ (f b < f a ↔ g b < g a) :=
    ⟨fun _ _ h ↦ ⟨h.2, h.1⟩⟩
  refine (List.Pairwise.forall_of_forall (fun _ _ ↦ ?_) hboth ha hb).1
  exact ⟨iff_of_false (lt_irrefl _) (lt_irrefl _), iff_of_false (lt_irrefl _) (lt_irrefl _)⟩

section Sufficiency

variable {symbol timeframe : String} {calls : List UpsertCall}

/-- Where the readings follow the instants, the cache is the chronicle. -/
theorem storeLaw_of_readingsFollowInstants {timestamps : Set DateTime}
    (hT : ReadingsFollowInstants timestamps)
    (hcalls : ∀ c ∈ written symbol timeframe calls, c.timestamp ∈ timestamps) :
    StoreLaw symbol timeframe calls := by
  have hmem : ∀ c ∈ chronicle (written symbol timeframe calls), c.timestamp ∈ timestamps :=
    fun c hc ↦ hcalls c (mem_of_lastWith_eq_some (mem_chronicle_iff.1 hc)).1
  -- the last write of a candle's reading is the last write of its instant
  have hlast : ∀ c ∈ written symbol timeframe calls,
      lastFor c.timestamp.instant (written symbol timeframe calls) =
        lastAt c.timestamp.wall (written symbol timeframe calls) :=
    fun c hc ↦ lastWith_congr fun w hw ↦ hT.eq_iff (hcalls w hw) (hcalls c hc)
  have hsorted : ((chronicle (written symbol timeframe calls)).map OHLCVData.naive).Pairwise
      fun a b ↦ a.timestamp.wall < b.timestamp.wall :=
    List.pairwise_map.2 ((pairwise_chronicle _).imp_of_mem fun ha hb hlt ↦
      (hT _ (hmem _ ha) _ (hmem _ hb)).1 hlt)
  refine eq_of_pairwise_of_mem_iff (pairwise_getCachedOhlcv _ _ _) hsorted fun c ↦ ?_
  rw [mem_getCachedOhlcv_iff, cachedAt_tableAfter, Option.map_eq_some_iff, List.mem_map]
  constructor
  · rintro ⟨w, hw, rfl⟩
    have hw' := (mem_of_lastWith_eq_some hw).1
    exact ⟨w, mem_chronicle_iff.2 ((hlast w hw').trans hw), rfl⟩
  · rintro ⟨w, hw, rfl⟩
    have hw' := mem_chronicle_iff.1 hw
    exact ⟨w, (hlast w (mem_of_lastWith_eq_some hw').1).symm.trans hw', rfl⟩

end Sufficiency

/-! ### Two candles decide -/

section Necessity

variable {symbol timeframe : String}

/-- A candle that holds nothing but its timestamp. -/
def blankCandle (t : DateTime) : OHLCVData :=
  ⟨t, 0, 0, 0, 0, 0⟩

/-- One call that writes a blank candle at `a` and then one at `b`. -/
def writePair (symbol timeframe : String) (a b : DateTime) : List UpsertCall :=
  [⟨symbol, timeframe, fun _ ↦ 0, [blankCandle a, blankCandle b]⟩]

theorem written_writePair (a b : DateTime) :
    written symbol timeframe (writePair symbol timeframe a b) = [blankCandle a, blankCandle b] := by
  simp [written, writePair]

/-- If the law holds for the two candles, their readings are ordered as their instants. -/
theorem lt_iff_lt_of_storeLaw {a b : DateTime}
    (h : StoreLaw symbol timeframe (writePair symbol timeframe a b)) :
    a.instant < b.instant ↔ a.wall < b.wall := by
  have hl := pairwise_chronicle [blankCandle a, blankCandle b]
  unfold StoreLaw at h
  rw [written_writePair] at h
  -- the chronicle is ordered by the readings too, being what the cache lists
  have hl' : (chronicle [blankCandle a, blankCandle b]).Pairwise
      fun a b ↦ a.timestamp.wall < b.timestamp.wall := by
    have hcached := pairwise_getCachedOhlcv
      (tableAfter (writePair symbol timeframe a b)) symbol timeframe
    rw [h, List.pairwise_map] at hcached
    exact hcached
  have hb : blankCandle b ∈ chronicle [blankCandle a, blankCandle b] :=
    mem_chronicle_iff.2 (by simp [lastFor, lastWith])
  -- `a` is in the chronicle as soon as either of its two keys tells it from `b`
  suffices ha : a.instant ≠ b.instant ∨ a.wall ≠ b.wall →
      blankCandle a ∈ chronicle [blankCandle a, blankCandle b] by
    constructor
    · intro hlt
      exact (lt_iff_lt_of_pairwise hl hl' (ha (.inl hlt.ne)) hb).1 hlt
    · intro hlt
      exact (lt_iff_lt_of_pairwise hl hl' (ha (.inr hlt.ne)) hb).2 hlt
  rintro (hne | hne)
  · refine mem_chronicle_iff.2 ?_
    simp [lastFor, lastWith, blankCandle, hne.symm]
  · have hcached : (blankCandle a).naive ∈
        getCachedOhlcv (tableAfter (writePair symbol timeframe a b)) symbol timeframe := by
      rw [mem_getCachedOhlcv_iff, cachedAt_tableAfter, written_writePair]
      simp [lastAt, lastWith, blankCandle, hne.symm]
    rw [h, List.mem_map] at hcached
    obtain ⟨c, hc, hnaive⟩ := hcached
    have hwall : c.timestamp.wall = a.wall := congrArg (fun c ↦ c.timestamp.wall) hnaive
    rcases List.mem_cons.1 (mem_of_lastWith_eq_some (mem_chronicle_iff.1 hc)).1 with rfl | hcb
    · exact hc
    · rw [List.mem_singleton.1 hcb] at hwall
      exact absurd hwall.symm hne

end Necessity

/-- **The store law, exactly.** For every pair and every set of timestamps: the cache is the
chronicle after every run that writes only these timestamps for the pair — any number of calls, of
any length, with calls for other pairs in between — if and only if the readings of the timestamps
are ordered as their instants. -/
theorem store_law_iff (symbol timeframe : String) (timestamps : Set DateTime) :
    (∀ calls : List UpsertCall,
      (∀ c ∈ written symbol timeframe calls, c.timestamp ∈ timestamps) →
        StoreLaw symbol timeframe calls) ↔ ReadingsFollowInstants timestamps := by
  constructor
  · intro h a ha b hb
    refine lt_iff_lt_of_storeLaw (h (writePair symbol timeframe a b) fun c hc ↦ ?_)
    rw [written_writePair] at hc
    rcases List.mem_cons.1 hc with rfl | hc
    · exact ha
    · rw [List.mem_singleton.1 hc]
      exact hb
  · intro h calls hcalls
    exact storeLaw_of_readingsFollowInstants h hcalls

/-- The hour that is read twice when the clock is set back: two candles an hour apart have one
reading, and the cache keeps the second only. -/
theorem fold_hour_loses_candle :
    let summer : DateTime := ⟨5400000000, some (-14400000000)⟩
    let winter : DateTime := ⟨5400000000, some (-18000000000)⟩
    let calls := writePair "SPX500" "H1" summer winter
    winter.instant - summer.instant = 3600000000 ∧
      (chronicle (written "SPX500" "H1" calls)).length = 2 ∧
      (getCachedOhlcv (tableAfter calls) "SPX500" "H1").length = 1 ∧
      ¬ StoreLaw "SPX500" "H1" calls := by
  refine ⟨by decide, by decide, by decide, fun h ↦ ?_⟩
  have hlength := congrArg List.length h
  revert hlength
  decide

end InvestmentAssistant
