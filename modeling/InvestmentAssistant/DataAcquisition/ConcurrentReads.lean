import InvestmentAssistant.DataAcquisition.ReadThrough
import InvestmentAssistant.Foundation.Transition

/-!
# Concurrent reads of one pair

Any number of `get_ohlcv` calls for one symbol and time frame, each suspended wherever it awaits: it
reads the newest cached timestamp, reads the newest `fetched_at` and takes its branch, gets the
provider's response, and upserts what its branch stores of it. Each of these is an event of its own
(`ReadEvent`), so the runs of `readStep` are all interleavings. A call may also end early: the fetch
or the upsert raises, or there is nothing to store.

No order is kept between the calls. What the code guarantees is that the last *upsert* to carry a
timestamp wins (`ReadInv.content`), so the latest *response* does exactly as far as the upserts come
in the order of the responses (`cached_value_of_run`).
-/

namespace InvestmentAssistant

open Table Transition

/-! ### The system -/

/-- Where a call is. -/
inductive ReadPhase
  | idle
  | readLatest (latestTs : Option DateTime)
  | fetching (branch : CacheCase)
  | responded (candles : List OHLCVData)
  | finished
  deriving DecidableEq

/-- What a call stores: the call and its candles. -/
abbrev StoredResponse := ℕ × List OHLCVData

/-- The table, the calls, and the history: the responses in the order they arrived and the upserts
in the order they were committed. -/
structure ReadState where
  db : OhlcvTable
  phase : ℕ → ReadPhase := fun _ ↦ .idle
  responses : List StoredResponse := []
  upserts : List StoredResponse := []

/-- The events of the calls. -/
inductive ReadEvent
  | readLatest (call : ℕ)
  | takeBranch (call : ℕ) (now : ℤ)
  | respond (call : ℕ) (candles : List OHLCVData)
  | upsert (call : ℕ) (clock : ℕ → ℤ)
  | fail (call : ℕ)

/-- A call moves on. -/
def ReadState.advance (s : ReadState) (call : ℕ) (phase : ReadPhase) : ReadState :=
  { s with phase := Function.update s.phase call phase }

/-- One step of one call of `get_ohlcv`. -/
def readStep (symbol timeframe : String) (s : ReadState) : ReadEvent → Option ReadState
  | .readLatest call =>
    match s.phase call with
    | .idle => some (s.advance call (.readLatest (getLatestTimestamp s.db symbol timeframe)))
    | _ => none
  | .takeBranch call now =>
    match s.phase call with
    | .readLatest latestTs =>
      let fetchedAt := getLatestFetchedAt s.db symbol timeframe
      some (s.advance call (.fetching (cacheCase latestTs fetchedAt timeframe now)))
    | _ => none
  | .respond call candles =>
    match s.phase call with
    | .fetching branch =>
      let stored := branch.toStore candles
      if stored = [] then some (s.advance call .finished)
      else some
        { s.advance call (.responded stored) with responses := s.responses ++ [(call, stored)] }
    | _ => none
  | .upsert call clock =>
    match s.phase call with
    | .responded stored => some
        { s.advance call .finished with
          db := (upsertOhlcv clock s.db symbol timeframe stored).2
          upserts := s.upserts ++ [(call, stored)] }
    | _ => none
  | .fail call =>
    match s.phase call with
    | .finished => none
    | _ => some (s.advance call .finished)

/-! ### The invariant -/

/-- The call has its response. -/
def ReadPhase.HasResponded : ReadPhase → Prop
  | .responded _ => True
  | .finished => True
  | _ => False

/-- The cache is what the upserts left, in their order, on top of what was there; and a call
responds once. -/
structure ReadInv (symbol timeframe : String) (db₀ : OhlcvTable) (s : ReadState) : Prop where
  content : ∀ reading, cachedAt s.db symbol timeframe reading =
    ((lastAt reading (s.upserts.flatMap Prod.snd)).map OHLCVData.naive).or
      (cachedAt db₀ symbol timeframe reading)
  responded : ∀ r ∈ s.responses, (s.phase r.1).HasResponded
  nodup : s.responses.Nodup

section Invariant

variable {symbol timeframe : String} {db₀ : OhlcvTable} {s s' : ReadState}

/-- Moving a call on to a phase that has responded, or one that has not yet, keeps the invariant. -/
theorem ReadInv.advance (h : ReadInv symbol timeframe db₀ s) {call : ℕ} {phase : ReadPhase}
    (hphase : (s.phase call).HasResponded → phase.HasResponded) :
    ReadInv symbol timeframe db₀ (s.advance call phase) where
  content := h.content
  responded := by
    intro r hr
    show (Function.update s.phase call phase r.1).HasResponded
    by_cases hcall : r.1 = call
    · rw [hcall, Function.update_self]
      exact hphase (hcall ▸ h.responded r hr)
    · rw [Function.update_of_ne hcall]
      exact h.responded r hr
  nodup := h.nodup

/-- The candles a further upsert adds are consulted first. -/
theorem lastAt_flatMap_concat (reading : ℤ) (upserts : List StoredResponse) (r : StoredResponse) :
    lastAt reading ((upserts ++ [r]).flatMap Prod.snd) =
      (lastAt reading r.2).or (lastAt reading (upserts.flatMap Prod.snd)) := by
  rw [List.flatMap_append, List.flatMap_singleton]
  exact lastWith_append (fun c : OHLCVData ↦ c.timestamp.wall) reading _ _

/-- The response of a call that had none keeps the invariant. -/
theorem ReadInv.respond (h : ReadInv symbol timeframe db₀ s) {call : ℕ} (stored : List OHLCVData)
    (hphase : ¬ (s.phase call).HasResponded) :
    ReadInv symbol timeframe db₀
      { s.advance call (.responded stored) with responses := s.responses ++ [(call, stored)] } := by
  have hadv : ReadInv symbol timeframe db₀ (s.advance call (.responded stored)) :=
    h.advance fun _ ↦ trivial
  refine ⟨hadv.content, ?_, ?_⟩
  · intro r hr
    rcases List.mem_append.1 hr with hr | hr
    · exact hadv.responded r hr
    · rw [List.mem_singleton.1 hr]
      show (Function.update s.phase call _ call).HasResponded
      rw [Function.update_self]
      trivial
  · refine List.nodup_append.2 ⟨h.nodup, List.nodup_singleton _, ?_⟩
    intro r hr r' hr' heq
    obtain rfl : r = (call, stored) := heq.trans (List.mem_singleton.1 hr')
    exact hphase (h.responded _ hr)

/-- An upsert keeps the invariant. -/
theorem ReadInv.upsert (h : ReadInv symbol timeframe db₀ s) (clock : ℕ → ℤ) (call : ℕ)
    (stored : List OHLCVData) :
    ReadInv symbol timeframe db₀
      { s.advance call .finished with
        db := (upsertOhlcv clock s.db symbol timeframe stored).2
        upserts := s.upserts ++ [(call, stored)] } := by
  have hadv : ReadInv symbol timeframe db₀ (s.advance call .finished) := h.advance fun _ ↦ trivial
  refine ⟨fun reading ↦ ?_, hadv.responded, h.nodup⟩
  show cachedAt (upsertOhlcv clock s.db symbol timeframe stored).2 symbol timeframe reading = _
  rw [cachedAt_upsertOhlcv, h.content, lastAt_flatMap_concat, ← Option.or_assoc]
  cases lastAt reading stored <;> rfl

/-- **Every step of every call keeps the invariant.** -/
theorem readInv_step (h : ReadInv symbol timeframe db₀ s) {e : ReadEvent}
    (hstep : readStep symbol timeframe s e = some s') : ReadInv symbol timeframe db₀ s' := by
  cases e with
  | readLatest call =>
    simp only [readStep] at hstep
    split at hstep
    · next hphase =>
      obtain rfl := Option.some.inj hstep
      exact h.advance fun hr ↦ by rw [hphase] at hr; exact hr.elim
    · exact nomatch hstep
  | takeBranch call now =>
    simp only [readStep] at hstep
    split at hstep
    · next hphase =>
      obtain rfl := Option.some.inj hstep
      exact h.advance fun hr ↦ by rw [hphase] at hr; exact hr.elim
    · exact nomatch hstep
  | respond call candles =>
    simp only [readStep] at hstep
    split at hstep
    · next branch hphase =>
      split at hstep
      · obtain rfl := Option.some.inj hstep
        exact h.advance fun _ ↦ trivial
      · obtain rfl := Option.some.inj hstep
        -- a call that is still fetching has not responded
        exact h.respond _ fun hr ↦ by rw [hphase] at hr; exact hr.elim
    · exact nomatch hstep
  | upsert call clock =>
    simp only [readStep] at hstep
    split at hstep
    · obtain rfl := Option.some.inj hstep
      exact h.upsert clock call _
    · exact nomatch hstep
  | fail call =>
    simp only [readStep] at hstep
    split at hstep
    · exact nomatch hstep
    · obtain rfl := Option.some.inj hstep
      exact h.advance fun _ ↦ trivial

/-- The invariant holds throughout every interleaving. -/
theorem readInv_of_run {events : List ReadEvent}
    (h : run (readStep symbol timeframe) { db := db₀ } events = some s) :
    ReadInv symbol timeframe db₀ s := by
  refine invariant_run (fun hs he ↦ readInv_step hs he) ⟨fun reading ↦ rfl, ?_, List.nodup_nil⟩ h
  exact fun r hr ↦ absurd hr List.not_mem_nil

end Invariant

/-! ### The latest response -/

/-- The response stores a candle for the reading. -/
def StoredResponse.Carries (reading : ℤ) (r : StoredResponse) : Prop :=
  (lastAt reading r.2).isSome = true

instance (reading : ℤ) : DecidablePred (StoredResponse.Carries reading) :=
  fun r ↦ inferInstanceAs (Decidable ((lastAt reading r.2).isSome = true))

/-- The upserts that carry a reading. -/
def ReadState.upsertsAt (s : ReadState) (reading : ℤ) : List StoredResponse :=
  s.upserts.filter fun r ↦ decide (r.Carries reading)

/-- The responses that carry a reading and were upserted, in the order they arrived. -/
def ReadState.responsesAt (s : ReadState) (reading : ℤ) : List StoredResponse :=
  s.responses.filter fun r ↦ decide (r ∈ s.upsertsAt reading)

/-- The upserts that carry a reading were committed in the order of their responses: none overtook
another. -/
def InResponseOrder (reading : ℤ) (s : ReadState) : Prop :=
  (s.upsertsAt reading).Sublist s.responses

/-- A sublist of a list without repetitions is what the list has in common with it. -/
theorem filter_eq_of_sublist {α : Type} {p : α → Bool} {l l' : List α} (h : l.Sublist l')
    (hnodup : l'.Nodup) (hp : ∀ a ∈ l', p a = true ↔ a ∈ l) : l'.filter p = l := by
  induction h with
  | slnil => rfl
  | cons a hl ih =>
    obtain ⟨ha, hnodup⟩ := List.nodup_cons.1 hnodup
    obtain ⟨hpa, hp⟩ := List.forall_mem_cons.1 hp
    have hnot : ¬ p a = true := fun hpos ↦ ha (hl.subset (hpa.1 hpos))
    rw [List.filter_cons_of_neg hnot, ih hnodup hp]
  | cons_cons a hl ih =>
    obtain ⟨ha, hnodup⟩ := List.nodup_cons.1 hnodup
    obtain ⟨hpa, hp⟩ := List.forall_mem_cons.1 hp
    rw [List.filter_cons_of_pos (hpa.2 (List.mem_cons_self ..)), ih hnodup]
    intro b hb
    rw [hp b hb, List.mem_cons, or_iff_right]
    exact fun heq ↦ ha (heq ▸ hb)

/-- The last candle of a list of upserts to a reading is that of the last one to carry it. -/
theorem lastAt_flatMap_eq (reading : ℤ) (upserts : List StoredResponse) :
    lastAt reading (upserts.flatMap Prod.snd) =
      (upserts.filter fun r ↦ decide (r.Carries reading)).getLast?.bind
        fun r ↦ lastAt reading r.2 := by
  induction upserts using List.reverseRecOn with
  | nil => rfl
  | append_singleton upserts r ih =>
    rw [lastAt_flatMap_concat, List.filter_append]
    cases hr : lastAt reading r.2 with
    | none =>
      have hnot : ¬ r.Carries reading := by simp [StoredResponse.Carries, hr]
      simp [hnot, ih]
    | some c =>
      have hcarries : r.Carries reading := by simp [StoredResponse.Carries, hr]
      simp [hcarries, hr]

/-- **Last upsert, latest response.** For every interleaving of any number of calls: the cache holds
at each reading the candle of the last upsert to carry it, or what it held before. If the upserts
that carry the reading came in the order of their responses, this is the candle of the latest
response upserted for it: an older snapshot never overwrites a newer one. -/
theorem cached_value_of_run {symbol timeframe : String} {db₀ : OhlcvTable}
    {events : List ReadEvent} {s : ReadState}
    (h : run (readStep symbol timeframe) { db := db₀ } events = some s) (reading : ℤ) :
    cachedAt s.db symbol timeframe reading =
        (((s.upsertsAt reading).getLast?.bind fun r ↦ lastAt reading r.2).map
          OHLCVData.naive).or (cachedAt db₀ symbol timeframe reading) ∧
      (InResponseOrder reading s → cachedAt s.db symbol timeframe reading =
        (((s.responsesAt reading).getLast?.bind fun r ↦ lastAt reading r.2).map
          OHLCVData.naive).or (cachedAt db₀ symbol timeframe reading)) := by
  have hinv := readInv_of_run h
  have hlast : cachedAt s.db symbol timeframe reading =
      (((s.upsertsAt reading).getLast?.bind fun r ↦ lastAt reading r.2).map
        OHLCVData.naive).or (cachedAt db₀ symbol timeframe reading) := by
    rw [hinv.content, lastAt_flatMap_eq]
    rfl
  refine ⟨hlast, fun horder ↦ ?_⟩
  have hresponses : s.responsesAt reading = s.upsertsAt reading :=
    filter_eq_of_sublist horder hinv.nodup fun _ _ ↦ decide_eq_true_iff
  rw [hresponses]
  exact hlast

/-! ### An upsert that overtakes -/

/-- Two calls on an empty cache; the responses arrive in the order 0, 1 and are upserted in the
order `first`, `second`. -/
def twoReads (first second : ℕ) : List ReadEvent :=
  [.readLatest 0, .takeBranch 0 0, .readLatest 1, .takeBranch 1 0,
    .respond 0 [utcCandle 10 1], .respond 1 [utcCandle 10 2],
    .upsert first fun _ ↦ 0, .upsert second fun _ ↦ 0]

/-- Upserted in the order of the responses, the later candle stays. -/
theorem cached_value_of_twoReads :
    ∃ s, run (readStep "EURUSD" "H1") { db := ∅ } (twoReads 0 1) = some s ∧
      cachedAt s.db "EURUSD" "H1" 10 = some (utcCandle 10 2).naive := by
  obtain ⟨s, hrun, horder, hlatest⟩ : ∃ s,
      run (readStep "EURUSD" "H1") { db := ∅ } (twoReads 0 1) = some s ∧
        (s.upsertsAt 10).Sublist s.responses ∧
        s.responsesAt 10 = [(0, [utcCandle 10 1]), (1, [utcCandle 10 2])] :=
    ⟨_, rfl, by decide +kernel, by decide +kernel⟩
  refine ⟨s, hrun, ((cached_value_of_run hrun 10).2 horder).trans ?_⟩
  rw [hlatest]
  decide +kernel

/-- Upserted the other way round, the earlier candle overwrites the later one. -/
theorem overtaken_response_is_lost :
    (run (readStep "EURUSD" "H1") { db := ∅ } (twoReads 1 0)).map (fun s ↦
        (s.responses, getCachedOhlcv s.db "EURUSD" "H1")) =
      some ([(0, [utcCandle 10 1]), (1, [utcCandle 10 2])], [(utcCandle 10 1).naive]) := by
  decide +kernel

end InvestmentAssistant
