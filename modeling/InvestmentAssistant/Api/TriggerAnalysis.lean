import InvestmentAssistant.Api.Validators
import InvestmentAssistant.DataAcquisition.FallbackChain
import InvestmentAssistant.Foundation.BoundedCache
import InvestmentAssistant.Foundation.Decimal
import InvestmentAssistant.Orchestration.Pipeline
import InvestmentAssistant.TechnicalAnalysis.TechnicalStep

/-!
# Triggering an analysis

`trigger_analysis` validates the symbol, builds the pipeline, and then refuses the analysis when its
identifier is taken or too many are running. The guards run under a lock that is never held across a
wait, so a call is one step on the two tables (`AnalysisTables`).

The pipeline's constructor publishes the pending status, so a call that a guard refuses has added it
already, and in a full table evicted another. It leaves the tables as they were exactly when
`analysis_tasks` had that status before (`refusesCleanly_iff`).
-/

namespace InvestmentAssistant

open Table

/-! ### The two tables -/

/-- `AnalysisRequest`. -/
structure AnalysisRequest where
  symbol : String
  timeframe : Timeframe := .h1
  preset : IndicatorPreset := .investing
  deriving DecidableEq, Repr

/-- `AnalysisResponse`. -/
structure AnalysisResponse where
  analysisId : String
  status : String
  deriving DecidableEq, Repr

/-- A pipeline that was built for a request, with the parts that a run of it reads. -/
structure BuiltPipeline where
  pipeline : AnalysisPipeline
  chain : List DataProvider
  preset : IndicatorPreset

/-- `analysis_tasks` and `_background_tasks`. A task is the pipeline it runs. -/
structure AnalysisTables (tasks : BoundedCache String AnalysisStatus) where
  analysisTasks : tasks.State
  backgroundTasks : Table String BuiltPipeline

/-- The size of `analysis_tasks`. -/
def maxAnalysisTasks : ℕ := 1000

/-- `_MAX_BACKGROUND_TASKS`. -/
def maxBackgroundTasks : ℕ := 100

/-- The status a pipeline starts with. -/
def pendingStatus (analysisId : String) : AnalysisStatus where
  id := analysisId

section Trigger

variable {tasks : BoundedCache String AnalysisStatus}

/-- `AnalysisPipeline.__init__`, without a chain given; `uuid` is the identifier it draws. -/
def initPipeline (buildFallbackChain : Except PyException (List DataProvider)) (uuid : String)
    (body : AnalysisRequest) (tables : AnalysisTables tasks) :
    Except PyException BuiltPipeline × AnalysisTables tasks :=
  match buildFallbackChain with
  | .error e => (.error e, tables)
  | .ok chain =>
    (.ok ⟨⟨uuid, body.symbol, body.timeframe⟩, chain, body.preset⟩,
      { tables with analysisTasks := tasks.set tables.analysisTasks uuid (pendingStatus uuid) })

/-- `trigger_analysis`. -/
def triggerAnalysis (buildFallbackChain : Except PyException (List DataProvider)) (uuid : String)
    (body : AnalysisRequest) (tables : AnalysisTables tasks) :
    Except PyException AnalysisResponse × AnalysisTables tasks :=
  match validateSymbol body.symbol with
  | .error e => (.error e, tables)
  | .ok _ =>
    match initPipeline buildFallbackChain uuid body tables with
    | (.error e, tables) => (.error e, tables)
    | (.ok built, tables) =>
      let analysisId := built.pipeline.analysisId
      if (tables.backgroundTasks.lookup analysisId).isSome then
        (.error (.httpException 409 "Analysis already running for this ID"), tables)
      else if maxBackgroundTasks ≤ size tables.backgroundTasks then
        (.error (.httpException 503 "Too many concurrent analyses"), tables)
      else
        (.ok ⟨analysisId, "pending"⟩,
          { tables with backgroundTasks := put tables.backgroundTasks analysisId (some built) })

/-! ### What a refused call leaves -/

/-- The tables are as they were. -/
def Unchanged (tables tables' : AnalysisTables tasks) : Prop :=
  tasks.SameEntries tables.analysisTasks tables'.analysisTasks ∧
    tables'.backgroundTasks = tables.backgroundTasks

/-- The identifier is taken, or too many analyses are running. -/
def Refused (uuid : String) (tables : AnalysisTables tasks) : Prop :=
  (tables.backgroundTasks.lookup uuid).isSome ∨ maxBackgroundTasks ≤ size tables.backgroundTasks

/-- A call that raises leaves the tables as they were. -/
def RefusesCleanly (buildFallbackChain : Except PyException (List DataProvider)) (uuid : String)
    (body : AnalysisRequest) (tables : AnalysisTables tasks) : Prop :=
  (∃ e, (triggerAnalysis buildFallbackChain uuid body tables).1 = .error e) →
    Unchanged tables (triggerAnalysis buildFallbackChain uuid body tables).2

variable {buildFallbackChain : Except PyException (List DataProvider)} {uuid : String}
  {body : AnalysisRequest} {tables : AnalysisTables tasks}

/-- A call that does not get to the guards leaves the tables alone. -/
theorem triggerAnalysis_of_not_built
    (h : ¬ SymbolValid body.symbol ∨ ∃ e, buildFallbackChain = .error e) :
    (triggerAnalysis buildFallbackChain uuid body tables).2 = tables := by
  rw [triggerAnalysis, validateSymbol]
  by_cases hvalid : SymbolValid body.symbol
  · obtain ⟨e, rfl⟩ := h.resolve_left (not_not.2 hvalid)
    rw [if_pos hvalid]
    rfl
  · rw [if_neg hvalid]

/-- A call that gets to the guards raises when they refuse it, with the status published. -/
theorem triggerAnalysis_of_built {chain : List DataProvider} (hvalid : SymbolValid body.symbol) :
    (Refused uuid tables →
      (∃ e, (triggerAnalysis (.ok chain) uuid body tables).1 = .error e) ∧
      (triggerAnalysis (.ok chain) uuid body tables).2 =
        { tables with analysisTasks := tasks.set tables.analysisTasks uuid (pendingStatus uuid) }) ∧
    (¬ Refused uuid tables →
      (triggerAnalysis (.ok chain) uuid body tables).1 = .ok ⟨uuid, "pending"⟩) := by
  rw [Refused, triggerAnalysis, validateSymbol, if_pos hvalid]
  dsimp only [initPipeline]
  split
  · next htaken => exact ⟨fun _ ↦ ⟨⟨_, rfl⟩, rfl⟩, fun h ↦ absurd (.inl htaken) h⟩
  · next htaken =>
    split
    · next hfull => exact ⟨fun _ ↦ ⟨⟨_, rfl⟩, rfl⟩, fun h ↦ absurd (.inr hfull) h⟩
    · next hfull => exact ⟨fun h ↦ absurd h (not_or.2 ⟨htaken, hfull⟩), fun _ ↦ rfl⟩

/-- A refused call leaves the tables alone when it publishes what was there. -/
theorem refusesCleanly_of_refused {chain : List DataProvider} (hvalid : SymbolValid body.symbol)
    (hrefused : Refused uuid tables) :
    RefusesCleanly (.ok chain) uuid body tables ↔
      tasks.get tables.analysisTasks uuid = some (pendingStatus uuid) := by
  obtain ⟨hraises, htables⟩ :=
    (@triggerAnalysis_of_built tasks uuid body tables chain hvalid).1 hrefused
  rw [← tasks.sameEntries_set_iff, RefusesCleanly, htables]
  exact ⟨fun hclean ↦ (hclean hraises).1, fun hsame _ ↦ ⟨hsame, rfl⟩⟩

/-- Among too many analyses a new one is refused with 503. -/
theorem triggerAnalysis_of_full {chain : List DataProvider} (hvalid : SymbolValid body.symbol)
    (hfree : tables.backgroundTasks.lookup uuid = none)
    (hfull : maxBackgroundTasks ≤ size tables.backgroundTasks) :
    triggerAnalysis (.ok chain) uuid body tables =
      (.error (.httpException 503 "Too many concurrent analyses"),
        { tables with
          analysisTasks := tasks.set tables.analysisTasks uuid (pendingStatus uuid) }) := by
  rw [triggerAnalysis, validateSymbol, if_pos hvalid]
  dsimp only [initPipeline]
  rw [hfree, Option.isSome_none, if_neg Bool.false_ne_true, if_pos hfull]

/-- **When a refused analysis leaves no trace.** For every cache of statuses, every state of the two
tables and every request: a call that raises leaves the tables as they were exactly if the symbol is
invalid or the pipeline cannot be built, or no guard refuses the call, or `analysis_tasks` already
held the pending status under the new identifier. -/
theorem refusesCleanly_iff (tasks : BoundedCache String AnalysisStatus)
    (buildFallbackChain : Except PyException (List DataProvider)) (uuid : String)
    (body : AnalysisRequest) (tables : AnalysisTables tasks) :
    RefusesCleanly buildFallbackChain uuid body tables ↔
      (¬ SymbolValid body.symbol ∨ ∃ e, buildFallbackChain = .error e) ∨
      ¬ Refused uuid tables ∨
      tasks.get tables.analysisTasks uuid = some (pendingStatus uuid) := by
  by_cases hbuilt : ¬ SymbolValid body.symbol ∨ ∃ e, buildFallbackChain = .error e
  · refine iff_of_true (fun _ ↦ ?_) (.inl hbuilt)
    rw [triggerAnalysis_of_not_built hbuilt]
    exact ⟨fun _ ↦ rfl, rfl⟩
  rw [or_iff_right hbuilt]
  obtain ⟨hvalid, hchain⟩ := not_or.1 hbuilt
  rcases buildFallbackChain with e | chain
  · exact absurd ⟨e, rfl⟩ hchain
  rw [not_not] at hvalid
  by_cases h : Refused uuid tables
  · rw [or_iff_right (not_not.2 h)]
    exact refusesCleanly_of_refused hvalid h
  · refine iff_of_true (fun ⟨e, he⟩ ↦ ?_) (.inl h)
    rw [triggerAnalysis_of_built hvalid |>.2 h] at he
    exact nomatch he

end Trigger

/-! ### Full tables -/

/-- The identifier of the `i`-th analysis. -/
def numberedId (i : ℕ) : String :=
  "00000000-0000-4000-8000-" ++ String.ofList (Nat.toDigits 10 (100000000000 + i))

theorem numberedId_injective : Function.Injective numberedId := by
  intro i j h
  have hdigits := String.ofList_injective ((String.append_right_inj _).1 h)
  exact Nat.add_left_cancel (Decimal.toDigits_injective hdigits)

/-- The status of the `i`-th analysis. -/
def numberedStatus (i : ℕ) : AnalysisStatus where
  id := numberedId i
  status := .running

/-- The cache of statuses, with the least recently set one evicted. -/
abbrev statusCache (maxsize : ℕ) : BoundedCache String AnalysisStatus :=
  BoundedCache.lruCache String AnalysisStatus maxsize

/-- A full table of statuses, the newest first, and a number of running analyses. -/
def numberedTables (statuses running : ℕ) : AnalysisTables (statusCache statuses) where
  analysisTasks := (List.range statuses).map fun i ↦ (numberedId i, numberedStatus i)
  backgroundTasks :=
    ⟨(List.range running).map fun i ↦ ⟨numberedId i,
      ⟨⟨numberedId i, "EURUSD", .h1⟩, [], .investing⟩⟩,
      by
        rw [List.NodupKeys, List.keys, List.map_map]
        exact List.nodup_range.map numberedId_injective⟩

theorem get_numberedTables (statuses running i : ℕ) :
    (statusCache statuses).get (numberedTables statuses running).analysisTasks (numberedId i) =
      if i < statuses then some (numberedStatus i) else none := by
  have h := BoundedCache.entryOf_map numberedId_injective numberedStatus (List.range statuses) i
  simp only [List.mem_range] at h
  exact h

/-- The oldest status goes when a new one is set. -/
theorem get_set_numberedTables (n running : ℕ) {i : ℕ} (hi : n + 1 ≤ i) (status : AnalysisStatus) :
    (statusCache (n + 1)).get ((statusCache (n + 1)).set
      (numberedTables (n + 1) running).analysisTasks
      (numberedId i) status) (numberedId n) = none := by
  have hsplit : (numberedTables (n + 1) running).analysisTasks =
      (List.range n).map (fun i ↦ (numberedId i, numberedStatus i)) ++
        [(numberedId n, numberedStatus n)] := by
    rw [numberedTables, List.range_succ, List.map_append]
    rfl
  have hnew := get_numberedTables (n + 1) running i
  have hlast := BoundedCache.entryOf_map numberedId_injective numberedStatus (List.range n) n
  rw [if_neg (not_lt.2 hi)] at hnew
  rw [if_neg List.not_mem_range_self] at hlast
  rw [hsplit] at hnew ⊢
  refine BoundedCache.get_lruCache_set_full status ?_ hnew hlast
  rw [List.length_map, List.length_range]

theorem lookup_numberedTables (statuses running : ℕ) {i : ℕ} (hi : running ≤ i) :
    (numberedTables statuses running).backgroundTasks.lookup (numberedId i) = none := by
  refine Option.eq_none_iff_forall_ne_some.2 fun built hbuilt ↦ ?_
  obtain ⟨j, hj, heq⟩ := List.mem_map.1 (AList.mem_lookup_iff.1 hbuilt)
  obtain rfl := numberedId_injective (congrArg Sigma.fst heq)
  exact absurd (List.mem_range.1 hj) (not_lt.2 hi)

theorem size_numberedTables (statuses running : ℕ) :
    size (numberedTables statuses running).backgroundTasks = running := by
  rw [size, AList.keys, numberedTables, List.keys, List.length_map, List.length_map,
    List.length_range]

/-- With a thousand statuses and a hundred running analyses the call is refused with 503; its status
was added, and the oldest one is gone. -/
theorem refused_analysis_evicts_status :
    let cache := statusCache maxAnalysisTasks
    let tables := numberedTables maxAnalysisTasks maxBackgroundTasks
    let call := triggerAnalysis (.ok []) (numberedId 1000) { symbol := "EURUSD" } tables
    call.1 = .error (.httpException 503 "Too many concurrent analyses") ∧
      cache.get tables.analysisTasks (numberedId 1000) = none ∧
      cache.get call.2.analysisTasks (numberedId 1000) = some (pendingStatus (numberedId 1000)) ∧
      cache.get tables.analysisTasks (numberedId 999) = some (numberedStatus 999) ∧
      cache.get call.2.analysisTasks (numberedId 999) = none ∧
      ¬ RefusesCleanly (.ok []) (numberedId 1000) { symbol := "EURUSD" } tables := by
  have hnew := get_numberedTables maxAnalysisTasks maxBackgroundTasks 1000
  have hold := get_numberedTables maxAnalysisTasks maxBackgroundTasks 999
  rw [if_neg (by decide)] at hnew
  rw [if_pos (by decide)] at hold
  have hcall := @triggerAnalysis_of_full _ (numberedId 1000) { symbol := "EURUSD" }
    (numberedTables maxAnalysisTasks maxBackgroundTasks) [] (by decide)
    (lookup_numberedTables maxAnalysisTasks maxBackgroundTasks (by decide))
    (size_numberedTables maxAnalysisTasks maxBackgroundTasks).ge
  have hset := (statusCache maxAnalysisTasks).get_set_self
    (numberedTables maxAnalysisTasks maxBackgroundTasks).analysisTasks (numberedId 1000)
    (pendingStatus (numberedId 1000))
  have hevicted := @get_set_numberedTables 999 maxBackgroundTasks 1000 le_rfl
    (pendingStatus (numberedId 1000))
  have hclean := @refusesCleanly_of_refused _ (numberedId 1000) { symbol := "EURUSD" }
    (numberedTables maxAnalysisTasks maxBackgroundTasks) [] (by decide)
    (.inr (size_numberedTables maxAnalysisTasks maxBackgroundTasks).ge)
  rw [hnew] at hclean
  simp only [hcall]
  exact ⟨trivial, hnew, hset, hold, hevicted, fun h ↦ Option.some_ne_none _ (hclean.1 h).symm⟩

end InvestmentAssistant
