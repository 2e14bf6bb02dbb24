import InvestmentAssistant.Api.Analysis

/-!
# The report of a completed analysis

A report is stored in up to three places, and a request looks in two of them: the store of the cache
that the state of Redis at the moment selects, and the database row. What a store accepted stays
there (`RetrievalInv`), so a request is answered with the report exactly when one of the stores it
consults has accepted it (`response_is_report_iff`) — which is not the same as some store having it:
a report that went to the fallback during an outage is out of reach once Redis is back.
-/

namespace InvestmentAssistant

open Table Transition

variable {Report V : Type} (format : ReportFormat Report V) (codec : JsonCodec V)
  (analysisId : String)

/-! ### Stores that a request consults -/

/-- The call puts something under the key into the store. -/
def CacheEvent.Accepted (key : String) (backend : Backend) (e : CacheEvent V) : Prop :=
  (∃ value, e.call = .set key value) ∧ e.reaches codec backend = true

/-- The request consults a store that has accepted the report. -/
def Consults (request : ℕ) (s : RetrievalState Report V) : RetrievalEvent V → Prop
  | .readCache i availability =>
    i = request ∧ ∃ e ∈ s.cacheCalls, e.Accepted codec analysisId availability.backend
  | .loadRow i readable => i = request ∧ readable = true ∧ s.row ≠ none
  | _ => False

/-! ### The invariant -/

/-- A request has the report, or is on the way to it, exactly when it has reached it. -/
def RequestPhase.Agrees (Built : Report → Prop) (reached : Prop) : RequestPhase Report → Prop
  | .invalidating _ => False
  | .refilling r => Built r ∧ reached
  | .responded (.report r) => Built r ∧ reached
  | _ => ¬ reached

/-- Only the report of the analysis is stored, and no request loses it. -/
structure RetrievalInv (Built : Report → Prop) (s₀ : RetrievalState Report V)
    (events : List (RetrievalEvent V)) (s : RetrievalState Report V) : Prop where
  pending : ∀ r ∈ storedReports s.pending, Built r
  calls : ∀ e ∈ s.cacheCalls, e.key = analysisId →
    ∃ r availability, Built r ∧ e = cacheReportEvent format analysisId r availability
  row : ∀ resultJson, s.row = some resultJson → ∃ r, Built r ∧ resultJson = format.modelDumpJson r
  phase : ∀ request, (s.phase request).Agrees Built
    (SomeStep (retrievalStep format codec analysisId) (Consults codec analysisId request) s₀ events)

section Invariant

variable {format codec analysisId} {Built : Report → Prop} {s₀ s s' : RetrievalState Report V}
  {events : List (RetrievalEvent V)}

/-- What a call leaves in a store it reaches is read back as the report. -/
theorem leaves_bind_modelValidate {r : Report} (hr : format.RoundTrips codec r)
    (availability : Availability) (backend : Backend) :
    ((cacheReportEvent format analysisId r availability).leaves codec backend).bind
      format.modelValidate = some r := by
  cases backend with
  | redis => exact hr.validate_json
  | fallback => exact hr.validate_dump

/-- A store of the cache that has accepted the report gives it back. -/
theorem RetrievalInv.cacheGet_of_accepted
    (h : RetrievalInv format codec analysisId Built s₀ events s)
    (hformat : ∀ r, Built r → format.RoundTrips codec r) {availability : Availability}
    (haccepted : ∃ e ∈ s.cacheCalls, e.Accepted codec analysisId availability.backend) :
    ∃ cached r, cacheGet codec analysisResultPrefix (s.stores codec) availability analysisId =
      some cached ∧ format.modelValidate cached = some r ∧ Built r := by
  obtain ⟨e, he, ⟨value, hset⟩, hreaches⟩ := haccepted
  have hkey : e.key = analysisId := by rw [CacheEvent.key, hset]
  have hmem : e ∈ s.cacheCalls.filter (CacheEvent.reaches codec availability.backend) :=
    List.mem_filter.2 ⟨he, hreaches⟩
  obtain ⟨last, hlast⟩ : ∃ last,
      lastReaching codec availability.backend analysisId s.cacheCalls = some last :=
    hkey ▸ exists_lastWith_of_mem hmem
  -- every call on the key is a set of the report, so the last one to reach the store is
  obtain ⟨hlastmem, hlastkey⟩ := mem_of_lastWith_eq_some hlast
  obtain ⟨r, a, hbuilt, rfl⟩ := h.calls last (List.mem_filter.1 hlastmem).1 hlastkey
  obtain ⟨cached, hleaves, hvalidate⟩ := Option.bind_eq_some_iff.1
    (leaves_bind_modelValidate (hformat r hbuilt) a availability.backend)
  refine ⟨cached, r, ?_, hvalidate, hbuilt⟩
  rw [RetrievalState.stores, cacheGet_storesAfter, hlast]
  exact hleaves

/-- A store of the cache that has not accepted the report has nothing. -/
theorem RetrievalInv.cacheGet_of_not_accepted
    (h : RetrievalInv format codec analysisId Built s₀ events s) {availability : Availability}
    (haccepted : ¬ ∃ e ∈ s.cacheCalls, e.Accepted codec analysisId availability.backend) :
    cacheGet codec analysisResultPrefix (s.stores codec) availability analysisId = none := by
  have hlast : lastReaching codec availability.backend analysisId s.cacheCalls = none := by
    refine lastWith_eq_none_iff.2 fun e he hkey ↦ haccepted ?_
    obtain ⟨hmem, hreaches⟩ := List.mem_filter.1 he
    obtain ⟨r, a, -, rfl⟩ := h.calls e hmem hkey
    exact ⟨_, hmem, ⟨_, rfl⟩, hreaches⟩
  rw [RetrievalState.stores, cacheGet_storesAfter, hlast]
  rfl

/-- A row that can be read gives the report back. -/
theorem RetrievalInv.loadReportFromDb_of_row
    (h : RetrievalInv format codec analysisId Built s₀ events s)
    (hformat : ∀ r, Built r → format.RoundTrips codec r) {readable : Bool}
    (hrow : readable = true ∧ s.row ≠ none) :
    ∃ r, loadReportFromDb format s.row readable = some r ∧ Built r := by
  obtain ⟨resultJson, hjson⟩ := Option.ne_none_iff_exists'.1 hrow.2
  obtain ⟨r, hbuilt, rfl⟩ := h.row resultJson hjson
  refine ⟨r, ?_, hbuilt⟩
  have hr := hformat r hbuilt
  rw [loadReportFromDb, if_pos hrow.1, hjson]
  show (if format.modelDumpJson r ≠ "" then _ else none) = _
  rw [if_pos hr.dumpJson_ne_empty, hr.validate_dumpJson]

/-- A row that is missing or cannot be read gives nothing. -/
theorem loadReportFromDb_of_not_row {row : Option String} {readable : Bool}
    (hrow : ¬ (readable = true ∧ row ≠ none)) : loadReportFromDb format row readable = none := by
  rw [loadReportFromDb]
  split
  · next hreadable =>
    obtain rfl : row = none := by_contra fun hne ↦ hrow ⟨hreadable, hne⟩
    rfl
  · rfl

/-! ### One step -/

/-- One more call on the cache. -/
theorem RetrievalInv.calls_concat (h : RetrievalInv format codec analysisId Built s₀ events s)
    {e : CacheEvent V}
    (he : e.key = analysisId →
      ∃ r availability, Built r ∧ e = cacheReportEvent format analysisId r availability) :
    ∀ e' ∈ (s.call e).cacheCalls, e'.key = analysisId →
      ∃ r availability, Built r ∧ e' = cacheReportEvent format analysisId r availability := by
  intro e' he' hkey
  rcases List.mem_append.1 he' with he' | he'
  · exact h.calls e' he' hkey
  · obtain rfl := List.mem_singleton.1 he'
    exact he hkey

section Step

variable (h : RetrievalInv format codec analysisId Built s₀ events s)
  (hrun : run (retrievalStep format codec analysisId) s₀ events = some s)

include h hrun

/-- A step in which nobody consults a store with the report. -/
theorem RetrievalInv.phase_concat {e : RetrievalEvent V}
    (hnone : ∀ request, ¬ Consults codec analysisId request s e) (request : ℕ) :
    (s.phase request).Agrees Built (SomeStep (retrievalStep format codec analysisId)
      (Consults codec analysisId request) s₀ (events ++ [e])) := by
  rw [propext (someStep_concat hrun), propext (or_iff_left (hnone request))]
  exact h.phase request

/-- A step in which one request moves on. -/
theorem RetrievalInv.phase_advance {e : RetrievalEvent V} {request : ℕ}
    {phase : RequestPhase Report}
    (hother : ∀ other, other ≠ request → ¬ Consults codec analysisId other s e)
    (hphase : phase.Agrees Built (SomeStep (retrievalStep format codec analysisId)
      (Consults codec analysisId request) s₀ events ∨ Consults codec analysisId request s e))
    (other : ℕ) :
    ((s.advance request phase).phase other).Agrees Built
      (SomeStep (retrievalStep format codec analysisId) (Consults codec analysisId other) s₀
        (events ++ [e])) := by
  rw [propext (someStep_concat hrun)]
  show (Function.update s.phase request phase other).Agrees Built _
  by_cases hne : other = request
  · rw [hne, Function.update_self]
    exact hphase
  · rw [Function.update_of_ne hne, propext (or_iff_left (hother other hne))]
    exact h.phase other

end Step

/-- A request that starts has not reached the report. -/
theorem agrees_startRequest {reached : Prop} (hreached : ¬ reached)
    (status : Option AnalysisStatus) :
    (startRequest status : RequestPhase Report).Agrees Built reached := by
  cases status with
  | none => exact hreached
  | some status =>
    rw [startRequest]
    split
    · exact hreached
    · exact hreached

section Events

variable (hformat : ∀ r, Built r → format.RoundTrips codec r)
  (h : RetrievalInv format codec analysisId Built s₀ events s)
  (hrun : run (retrievalStep format codec analysisId) s₀ events = some s)

include h hrun

/-- The pipeline stores the report, and no other. -/
theorem RetrievalInv.step_pipeline
    (hstep : retrievalStep format codec analysisId s .pipeline = some s') :
    RetrievalInv format codec analysisId Built s₀ (events ++ [.pipeline]) s' := by
  simp only [retrievalStep] at hstep
  split at hstep
  · next effect pending hpending =>
    obtain rfl := Option.some.inj hstep
    have hphase := h.phase_concat hrun (e := .pipeline) fun _ ↦ id
    have hrest : ∀ r ∈ storedReports pending, Built r := fun r hr ↦ by
      refine h.pending r ?_
      rw [hpending, ← List.singleton_append, storedReports, List.filterMap_append]
      exact List.mem_append_right _ hr
    cases effect with
    | published status => exact ⟨hrest, h.calls, h.row, hphase⟩
    | rowStored r =>
      have hbuilt : Built r := h.pending r (hpending ▸ List.mem_cons_self ..)
      exact ⟨hrest, h.calls, fun _ hjson ↦ ⟨r, hbuilt, (Option.some.inj hjson).symm⟩, hphase⟩
    | reportCached r availability =>
      have hbuilt : Built r := h.pending r (hpending ▸ List.mem_cons_self ..)
      exact ⟨hrest, h.calls_concat fun _ ↦ ⟨r, availability, hbuilt, rfl⟩, h.row, hphase⟩
  · cases hstep

include hformat

/-- A cache read finds the report in a store that accepted it, and nothing in another. -/
theorem RetrievalInv.step_readCache {request : ℕ} {availability : Availability}
    (hstep : retrievalStep format codec analysisId s (.readCache request availability) = some s') :
    RetrievalInv format codec analysisId Built s₀ (events ++ [.readCache request availability])
      s' := by
  simp only [retrievalStep] at hstep
  split at hstep
  · next status hreading =>
    have hphase := h.phase request
    rw [hreading] at hphase
    have hother : ∀ other, other ≠ request →
        ¬ Consults codec analysisId other s (.readCache request availability) :=
      fun _ hne hc ↦ hne hc.1.symm
    by_cases haccepted : ∃ e ∈ s.cacheCalls, e.Accepted codec analysisId availability.backend
    · obtain ⟨cached, r, hget, hvalidate, hbuilt⟩ := h.cacheGet_of_accepted hformat haccepted
      simp only [hget, hvalidate] at hstep
      obtain rfl := Option.some.inj hstep
      exact ⟨h.pending, h.calls, h.row,
        h.phase_advance hrun hother ⟨hbuilt, Or.inr ⟨rfl, haccepted⟩⟩⟩
    · simp only [h.cacheGet_of_not_accepted haccepted] at hstep
      obtain rfl := Option.some.inj hstep
      exact ⟨h.pending, h.calls, h.row, h.phase_advance hrun hother fun hreached ↦
        hreached.elim hphase fun hc ↦ haccepted hc.2⟩
  · exact nomatch hstep

/-- A database read finds the report in the row, if there is one and it can be read. -/
theorem RetrievalInv.step_loadRow {request : ℕ} {readable : Bool}
    (hstep : retrievalStep format codec analysisId s (.loadRow request readable) = some s') :
    RetrievalInv format codec analysisId Built s₀ (events ++ [.loadRow request readable]) s' := by
  simp only [retrievalStep] at hstep
  split at hstep
  · next status hloading =>
    have hphase := h.phase request
    rw [hloading] at hphase
    have hother : ∀ other, other ≠ request →
        ¬ Consults codec analysisId other s (.loadRow request readable) :=
      fun _ hne hc ↦ hne hc.1.symm
    by_cases hrow : readable = true ∧ s.row ≠ none
    · obtain ⟨r, hload, hbuilt⟩ := h.loadReportFromDb_of_row hformat hrow
      simp only [hload] at hstep
      obtain rfl := Option.some.inj hstep
      exact ⟨h.pending, h.calls, h.row,
        h.phase_advance hrun hother ⟨hbuilt, Or.inr ⟨rfl, hrow⟩⟩⟩
    · simp only [loadReportFromDb_of_not_row hrow] at hstep
      obtain rfl := Option.some.inj hstep
      exact ⟨h.pending, h.calls, h.row, h.phase_advance hrun hother fun hreached ↦
        hreached.elim hphase fun hc ↦ hrow hc.2⟩
  · exact nomatch hstep

/-- **Every step keeps the invariant.** -/
theorem retrievalInv_step {e : RetrievalEvent V}
    (hstep : retrievalStep format codec analysisId s e = some s') :
    RetrievalInv format codec analysisId Built s₀ (events ++ [e]) s' := by
  cases e with
  | pipeline => exact h.step_pipeline hrun hstep
  | readCache request availability => exact h.step_readCache hformat hrun hstep
  | loadRow request readable => exact h.step_loadRow hformat hrun hstep
  | other e =>
    simp only [retrievalStep] at hstep
    split at hstep
    · exact nomatch hstep
    · next hkey =>
      obtain rfl := Option.some.inj hstep
      exact ⟨h.pending, h.calls_concat fun heq ↦ absurd heq hkey, h.row,
        h.phase_concat hrun fun _ ↦ id⟩
  | start request =>
    simp only [retrievalStep] at hstep
    split at hstep
    · next hidle =>
      obtain rfl := Option.some.inj hstep
      refine ⟨h.pending, h.calls, h.row, h.phase_advance hrun (fun _ _ ↦ id) ?_⟩
      have hphase := h.phase request
      rw [hidle] at hphase
      exact agrees_startRequest (fun hreached ↦ hreached.elim hphase id) s.status
    · exact nomatch hstep
  | invalidate request availability =>
    simp only [retrievalStep] at hstep
    split at hstep
    · next status hinvalidating =>
      -- a cached report is valid, so no request gets here
      have hphase := h.phase request
      rw [hinvalidating] at hphase
      exact hphase.elim
    · exact nomatch hstep
  | refillTakesEffect request =>
    simp only [retrievalStep] at hstep
    split at hstep
    · next r hrefilling =>
      have hphase := h.phase request
      rw [hrefilling] at hphase
      obtain rfl := Option.some.inj hstep
      exact ⟨h.pending, h.calls_concat fun _ ↦ ⟨r, .up, hphase.1, rfl⟩, h.row,
        h.phase_concat hrun fun _ ↦ id⟩
    · exact nomatch hstep
  | refill request availability =>
    simp only [retrievalStep] at hstep
    split at hstep
    · next r hrefilling =>
      have hphase := h.phase request
      rw [hrefilling] at hphase
      obtain rfl := Option.some.inj hstep
      exact ⟨h.pending, h.calls_concat fun _ ↦ ⟨r, availability, hphase.1, rfl⟩, h.row,
        h.phase_advance hrun (fun _ _ ↦ id) ⟨hphase.1, Or.inl hphase.2⟩⟩
    · exact nomatch hstep

end Events

end Invariant

/-- The invariant holds throughout every interleaving of requests with an analysis. -/
theorem retrievalInv_of_run (p : AnalysisPipeline) (calls : PipelineCalls Report)
    (hformat : ∀ r, p.analyse calls = .ok (some r) → format.RoundTrips codec r)
    {events : List (RetrievalEvent V)} {s : RetrievalState Report V}
    (hrun : run (retrievalStep format codec p.analysisId) (retrievalStart V p calls) events =
      some s) :
    RetrievalInv format codec p.analysisId (fun r ↦ p.analyse calls = .ok (some r))
      (retrievalStart V p calls) events s := by
  refine invariant_history (fun hrun h hstep ↦ retrievalInv_step hformat h hrun hstep) ?_ hrun
  refine ⟨fun r hr ↦ p.analyse_of_mem_storedReports calls hr, fun e he ↦ (nomatch he),
    fun _ hjson ↦ (nomatch hjson), fun request ↦ id⟩

/-- **A request is answered with the report exactly when it consults a store that has it.** For
every analysis, whatever becomes of its calls, and for every interleaving of it with requests and
with other analyses, Redis and the database failing and recovering at any moment: a request that has
been answered was answered with a report if and only if, at its cache read, the store that the read
goes to had accepted the report, or, at its database read, the row was stored and could be read. The
report is that of the analysis. -/
theorem response_is_report_iff (p : AnalysisPipeline) (calls : PipelineCalls Report)
    (hformat : ∀ r, p.analyse calls = .ok (some r) → format.RoundTrips codec r)
    {events : List (RetrievalEvent V)} {s : RetrievalState Report V}
    (hrun : run (retrievalStep format codec p.analysisId) (retrievalStart V p calls) events =
      some s)
    {request : ℕ} {response : Response Report} (hresponse : s.phase request = .responded response) :
    ((∃ r, response = .report r) ↔
        SomeStep (retrievalStep format codec p.analysisId) (Consults codec p.analysisId request)
          (retrievalStart V p calls) events) ∧
      ∀ r, response = .report r → p.analyse calls = .ok (some r) := by
  have hphase := (retrievalInv_of_run format codec p calls hformat hrun).phase request
  rw [hresponse] at hphase
  cases response with
  | report r =>
    refine ⟨⟨fun _ ↦ hphase.2, fun _ ↦ ⟨r, rfl⟩⟩, fun r' hr' ↦ ?_⟩
    rw [← Response.report.inj hr']
    exact hphase.1
  | status status =>
    exact ⟨⟨fun ⟨_, hr⟩ ↦ (nomatch hr), fun hreached ↦ absurd hreached hphase⟩,
      fun _ hr ↦ nomatch hr⟩
  | notFound =>
    exact ⟨⟨fun ⟨_, hr⟩ ↦ (nomatch hr), fun hreached ↦ absurd hreached hphase⟩,
      fun _ hr ↦ nomatch hr⟩

/-! ### An outage while the report is cached -/

/-- Texts as reports, between quotation marks in the row. -/
def textFormat : ReportFormat String String where
  modelDump r := r
  modelValidate := some
  modelDumpJson r := "\"" ++ r ++ "\""
  modelValidateJson := quotingCodec.loads

/-- An analysis of one candle, with what becomes of the two writes of its report. -/
def oneCandle (persisted : WriteOutcome Unit) (cached : WriteOutcome Availability) :
    PipelineCalls String :=
  calmCalls [⟨⟨0, none⟩, 1, 1, 1, 1, 0⟩] "report" persisted cached

/-- The whole pipeline, then the start of one request. -/
def pipelineThenStart : List (RetrievalEvent String) :=
  List.replicate 15 .pipeline ++ [.start 0]

/-- A report that Redis accepted is what a request is answered with while Redis is up. -/
theorem response_is_report_of_redis :
    ∃ s, run (retrievalStep textFormat quotingCodec "a")
        (retrievalStart String eurUsd (oneCandle ⟨none, .ok ()⟩ ⟨some .up, .ok ()⟩))
        (pipelineThenStart ++ [.readCache 0 .up]) = some s ∧
      ∃ r, s.phase 0 = .responded (.report r) := by
  obtain ⟨s₁, hrun₁, haccepted⟩ : ∃ s₁, run (retrievalStep textFormat quotingCodec "a")
      (retrievalStart String eurUsd (oneCandle ⟨none, .ok ()⟩ ⟨some .up, .ok ()⟩))
      pipelineThenStart = some s₁ ∧ ∃ e ∈ s₁.cacheCalls, e.Accepted quotingCodec "a" .redis :=
    ⟨_, rfl, _, List.mem_cons_self .., ⟨_, rfl⟩, by decide⟩
  obtain ⟨s, hrun, response, hresponse⟩ : ∃ s, run (retrievalStep textFormat quotingCodec "a")
      (retrievalStart String eurUsd (oneCandle ⟨none, .ok ()⟩ ⟨some .up, .ok ()⟩))
      (pipelineThenStart ++ [.readCache 0 .up]) = some s ∧
        ∃ response, s.phase 0 = .responded response := ⟨_, rfl, _, rfl⟩
  have hformat : ∀ r, eurUsd.analyse (oneCandle ⟨none, .ok ()⟩ ⟨some .up, .ok ()⟩) = .ok (some r) →
      textFormat.RoundTrips quotingCodec r := by
    intro r hr
    obtain rfl : "report" = r := Option.some.inj (Except.ok.inj hr)
    exact ⟨rfl, by decide, by decide, by decide⟩
  obtain ⟨r, rfl⟩ := (response_is_report_iff textFormat quotingCodec eurUsd _ hformat hrun
    hresponse).1.2 ((someStep_concat hrun₁).2 (Or.inr ⟨rfl, haccepted⟩))
  exact ⟨s, hrun, r, hresponse⟩

/-- The report went to the fallback and to no other store; with Redis back, the request is answered
with the status. -/
theorem report_in_fallback_is_out_of_reach :
    ∃ s, run (retrievalStep textFormat quotingCodec "a")
        (retrievalStart String eurUsd
          (oneCandle ⟨none, .error (.raised "down")⟩ ⟨some (.failing false), .ok ()⟩))
        (pipelineThenStart ++ [.readCache 0 .up, .loadRow 0 true]) = some s ∧
      (∃ e ∈ s.cacheCalls, e.Accepted quotingCodec "a" .fallback) ∧
      ∃ status, status.status = .completed ∧ s.phase 0 = .responded (.status status) :=
  ⟨_, rfl, ⟨_, List.mem_cons_self .., ⟨_, rfl⟩, by decide⟩, _, rfl, rfl⟩

end InvestmentAssistant
