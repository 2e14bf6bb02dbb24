import InvestmentAssistant.Orchestration.Pipeline

/-!
# The published status

The values a status takes in one analysis, from its creation to the end of `_run_pipeline`, are to
follow a law (`LawfulTrace`): progress never falls, the completed steps are the first ones in order,
`COMPLETED` comes after all six, and a terminal value is the last one.

A run keeps the law (`Ongoing`) up to its end. There, a run that fails publishes its failure,
returns `none`, and the wrapper publishes a failure of its own over it: so the law holds exactly of
the analyses that do not fail, or fail with the very message of the wrapper
(`lawfulTrace_effects_iff`).
-/

namespace InvestmentAssistant

open Stateful

/-! ### The law -/

/-- The status will not change any more. -/
def AnalysisStatusType.Terminal (t : AnalysisStatusType) : Prop :=
  t = .completed ∨ t = .failed

instance (t : AnalysisStatusType) : Decidable t.Terminal :=
  inferInstanceAs (Decidable (_ ∨ _))

/-- The law of the published status. -/
structure LawfulTrace (trace : List AnalysisStatus) : Prop where
  progress : trace.Pairwise fun a b ↦ a.progressPct ≤ b.progressPct
  steps : ∀ a ∈ trace, a.stepsCompleted <+: pipelineSteps
  completed : ∀ a ∈ trace, a.status = .completed → a.stepsCompleted = pipelineSteps
  terminal : trace.Pairwise fun a b ↦ a.status.Terminal → b = a

/-- One more element of a list in which each stands in a relation to the later ones. -/
theorem pairwise_concat_iff {α : Type} {R : α → α → Prop} {l : List α} {b : α} :
    (l ++ [b]).Pairwise R ↔ l.Pairwise R ∧ ∀ a ∈ l, R a b := by
  simp [List.pairwise_append]

/-- The law of a longer trace. -/
theorem lawfulTrace_concat {trace : List AnalysisStatus} {b : AnalysisStatus} :
    LawfulTrace (trace ++ [b]) ↔ LawfulTrace trace ∧
      (∀ a ∈ trace, a.progressPct ≤ b.progressPct) ∧ b.stepsCompleted <+: pipelineSteps ∧
      (b.status = .completed → b.stepsCompleted = pipelineSteps) ∧
      ∀ a ∈ trace, a.status.Terminal → b = a := by
  constructor
  · rintro ⟨hprogress, hsteps, hcompleted, hterminal⟩
    rw [pairwise_concat_iff] at hprogress hterminal
    rw [List.forall_mem_append, List.forall_mem_singleton] at hsteps hcompleted
    exact ⟨⟨hprogress.1, hsteps.1, hcompleted.1, hterminal.1⟩, hprogress.2, hsteps.2, hcompleted.2,
      hterminal.2⟩
  · rintro ⟨h, hprogress, hsteps, hcompleted, hterminal⟩
    refine ⟨pairwise_concat_iff.2 ⟨h.progress, hprogress⟩, ?_, ?_,
      pairwise_concat_iff.2 ⟨h.terminal, hterminal⟩⟩
    · exact List.forall_mem_append.2 ⟨h.steps, List.forall_mem_singleton.2 hsteps⟩
    · exact List.forall_mem_append.2 ⟨h.completed, List.forall_mem_singleton.2 hcompleted⟩

section Runs

variable {Report : Type}

/-- The published values. -/
def statuses (log : List (PipelineEffect Report)) : List AnalysisStatus :=
  log.filterMap fun
    | .published status => some status
    | _ => none

/-- The reports that were written to a store. -/
def storedReports (log : List (PipelineEffect Report)) : List Report :=
  log.filterMap fun
    | .published _ => none
    | .rowStored report => some report
    | .reportCached report _ => some report

@[simp]
theorem statuses_publish (f : AnalysisStatus → AnalysisStatus) (s : PipelineState Report) :
    statuses (publish f s).log = statuses s.log ++ [f s.status] := by
  simp [publish, statuses]

@[simp]
theorem storedReports_publish (f : AnalysisStatus → AnalysisStatus) (s : PipelineState Report) :
    storedReports (publish f s).log = storedReports s.log := by
  simp [publish, storedReports]

/-! ### The invariants -/

/-- The published values keep the law, the current status is one of them, and none shows more
progress; `Built` holds of the reports that were stored. -/
structure Published (Built : Report → Prop) (s : PipelineState Report) : Prop where
  lawful : LawfulTrace (statuses s.log)
  mem : s.status ∈ statuses s.log
  progress_le : ∀ a ∈ statuses s.log, a.progressPct ≤ s.status.progressPct
  built : ∀ r ∈ storedReports s.log, Built r

/-- After `k` steps, with the end still open. -/
structure Ongoing (Built : Report → Prop) (k : ℕ) (s : PipelineState Report) : Prop
    extends Published Built s where
  not_terminal : ∀ a ∈ statuses s.log, ¬ a.status.Terminal
  progress : s.status.progressPct ≤ min ((k : ℚ) / pipelineSteps.length * 100) 99
  steps : s.status.stepsCompleted = pipelineSteps.take k

/-- Stopped on the way. -/
def Unfinished (Built : Report → Prop) (s : PipelineState Report) : Prop :=
  ∃ k, Ongoing Built k s

/-- Failed just now, with this message. -/
structure Failed (Built : Report → Prop) (message : String) (s : PipelineState Report) : Prop
    extends Published Built s where
  terminal : ∀ a ∈ statuses s.log, a.status.Terminal → s.status = a
  failed : s.status.status = .failed
  error : s.status.errorMessage = some message

variable {Built : Report → Prop} {k : ℕ} {s : PipelineState Report}

/-- One more value. -/
theorem Published.publish (h : Published Built s) (f : AnalysisStatus → AnalysisStatus)
    (hle : s.status.progressPct ≤ (f s.status).progressPct)
    (hsteps : (f s.status).stepsCompleted <+: pipelineSteps)
    (hcompleted : (f s.status).status = .completed → (f s.status).stepsCompleted = pipelineSteps)
    (hterminal : ∀ a ∈ statuses s.log, a.status.Terminal → f s.status = a) :
    Published Built (publish f s) where
  lawful := by
    rw [statuses_publish]
    exact lawfulTrace_concat.2 ⟨h.lawful, fun a ha ↦ (h.progress_le a ha).trans hle, hsteps,
      hcompleted, hterminal⟩
  mem := by
    rw [statuses_publish]
    exact List.mem_append_right _ (List.mem_singleton_self _)
  progress_le a ha := by
    rw [statuses_publish, List.mem_append, List.mem_singleton] at ha
    obtain ha | rfl := ha
    · exact (h.progress_le a ha).trans hle
    · exact le_rfl
  built := by
    rw [storedReports_publish]
    exact h.built

/-- One more value with the end still open. -/
theorem Ongoing.publish {k' : ℕ} (h : Ongoing Built k s) (f : AnalysisStatus → AnalysisStatus)
    (hopen : ¬ (f s.status).status.Terminal) (hle : s.status.progressPct ≤ (f s.status).progressPct)
    (hprogress : (f s.status).progressPct ≤ min ((k' : ℚ) / pipelineSteps.length * 100) 99)
    (hsteps : (f s.status).stepsCompleted = pipelineSteps.take k') :
    Ongoing Built k' (InvestmentAssistant.publish f s) where
  toPublished := h.toPublished.publish f hle (hsteps ▸ List.take_prefix _ _)
    (fun hc ↦ absurd (Or.inl hc) hopen) fun a ha ht ↦ absurd ht (h.not_terminal a ha)
  not_terminal a ha := by
    rw [statuses_publish, List.mem_append, List.mem_singleton] at ha
    obtain ha | rfl := ha
    · exact h.not_terminal a ha
    · exact hopen
  progress := hprogress
  steps := hsteps

/-- A store is not published. -/
theorem Ongoing.store {ω : Type} (h : Ongoing Built k s) (outcome : WriteOutcome ω)
    {effect : ω → PipelineEffect Report} (hstatus : ∀ w, statuses [effect w] = [])
    (hbuilt : ∀ w, ∀ r ∈ storedReports [effect w], Built r) :
    Ongoing Built k (store outcome effect s) := by
  have hstatuses : statuses (InvestmentAssistant.store outcome effect s).log = statuses s.log := by
    show statuses (s.log ++ _) = _
    rw [statuses, List.filterMap_append]
    cases outcome.effect with
    | none => exact List.append_nil _
    | some w => exact (congrArg _ (hstatus w)).trans (List.append_nil _)
  refine ⟨⟨?_, ?_, ?_, ?_⟩, ?_, h.progress, h.steps⟩
  · rw [hstatuses]
    exact h.lawful
  · rw [hstatuses]
    exact h.mem
  · rw [hstatuses]
    exact h.progress_le
  · intro r hr
    rw [InvestmentAssistant.store, storedReports, List.filterMap_append, List.mem_append] at hr
    obtain hr | hr := hr
    · exact h.built r hr
    · cases hw : outcome.effect with
      | none =>
        rw [hw] at hr
        exact nomatch hr
      | some w =>
        rw [hw] at hr
        exact hbuilt w r hr
  · rw [hstatuses]
    exact h.not_terminal

/-- The second of two failures in a row changes the status, unless it says the same. -/
theorem Failed.lawfulTrace_publish_iff {message error : String} (h : Failed Built message s) :
    LawfulTrace (statuses (InvestmentAssistant.publish (fun status ↦
      { status with status := .failed, errorMessage := some error }) s).log) ↔ error = message := by
  rw [statuses_publish, lawfulTrace_concat]
  constructor
  · rintro ⟨-, -, -, -, hterminal⟩
    -- the first failure is terminal, so the law asks the second to be the same value
    have heq := hterminal s.status h.mem (Or.inr h.failed)
    have herror : some error = s.status.errorMessage := congrArg AnalysisStatus.errorMessage heq
    exact Option.some.inj (herror.trans h.error)
  · rintro rfl
    have heq : { s.status with status := .failed, errorMessage := some error } = s.status := by
      rw [← h.failed, ← h.error]
    rw [heq]
    refine ⟨h.lawful, h.progress_le, h.lawful.steps _ h.mem, ?_, h.terminal⟩
    exact h.lawful.completed _ h.mem

/-! ### One step of the pipeline -/

section Steps

variable {err : PipelineState Report → Prop}

/-- `_update_status` before the next step. -/
theorem realizes_updateStatus (stepName : String) :
    Realizes (Ongoing Built k) (updateStatus k stepName) (.ok ())
      (fun _ ↦ Ongoing Built k) err := by
  refine Realizes.update fun s hs ↦ hs.publish _ ?_ hs.progress le_rfl hs.steps
  exact fun h ↦ h.elim (fun h ↦ nomatch h) fun h ↦ nomatch h

/-- `_complete_step` of the next step. -/
theorem realizes_completeStep (hk : k < pipelineSteps.length) :
    Realizes (Ongoing Built k) (completeStep pipelineSteps[k]) (.ok ())
      (fun _ ↦ Ongoing Built (k + 1)) err := by
  refine Realizes.update fun s hs ↦ hs.publish _ ?_ le_rfl (hs.progress.trans ?_) ?_
  · exact hs.not_terminal s.status hs.mem
  · push_cast
    gcongr
    linarith
  · show s.status.stepsCompleted ++ [pipelineSteps[k]] = _
    rw [hs.steps]
    exact List.take_append_getElem hk

/-- `fail` on the way. -/
theorem realizes_fail (error : String) :
    Realizes (Ongoing Built k) (fail error) (.ok ()) (fun _ ↦ Failed Built error) err := by
  refine Realizes.update fun s hs ↦ ?_
  have hpub : Published Built (publish (fun status ↦
      { status with status := .failed, errorMessage := some error }) s) :=
    hs.toPublished.publish _ le_rfl (hs.lawful.steps s.status hs.mem) (fun h ↦ nomatch h)
      fun a ha ht ↦ absurd ht (hs.not_terminal a ha)
  refine ⟨hpub, fun a ha ht ↦ ?_, rfl, rfl⟩
  rw [statuses_publish, List.mem_append, List.mem_singleton] at ha
  obtain ha | rfl := ha
  · exact absurd ht (hs.not_terminal a ha)
  · rfl

/-- `complete` after the last step. -/
theorem realizes_complete :
    Realizes (Ongoing Built pipelineSteps.length) complete (.ok ()) (fun _ ↦ Published Built)
      err := by
  refine Realizes.update fun s hs ↦ ?_
  have hsteps : s.status.stepsCompleted = pipelineSteps := hs.steps
  refine hs.toPublished.publish _ ?_ (hs.lawful.steps s.status hs.mem) (fun _ ↦ hsteps)
    fun a ha ht ↦ absurd ht (hs.not_terminal a ha)
  have hprogress : s.status.progressPct ≤ 99 := hs.progress.trans (min_le_right _ _)
  show s.status.progressPct ≤ 100
  linarith

/-- A write of a report. -/
theorem realizes_store {ω : Type} (outcome : WriteOutcome ω) {effect : ω → PipelineEffect Report}
    (hstatus : ∀ w, statuses [effect w] = [])
    (hbuilt : ∀ w, ∀ r ∈ storedReports [effect w], Built r) :
    Realizes (Ongoing Built k) (.update (store outcome effect) : PipelineM Report Unit) (.ok ())
      (fun _ ↦ Ongoing Built k) err :=
  Realizes.update fun _ hs ↦ hs.store outcome hstatus hbuilt

end Steps

end Runs

/-! ### The phases -/

namespace AnalysisPipeline

variable {Report : Type} (p : AnalysisPipeline) (calls : PipelineCalls Report)
  {Built : Report → Prop}

/-- A call on the way. -/
theorem realizes_call {k : ℕ} {α : Type} (o : Call α) :
    Realizes (Ongoing Built k) (.call o) o (fun _ ↦ Ongoing Built k) (Unfinished Built) :=
  Realizes.call (fun _ _ _ hs ↦ hs) fun _ _ _ hs ↦ ⟨k, hs⟩

/-- The fetch phase ends with candles, or fails without them. -/
theorem realizes_runFetchPhase (ctx : PipelineContext) :
    Realizes (Ongoing Built 0) (p.runFetchPhase calls ctx) (p.fetchOutcome calls ctx)
      (fun
        | none => Failed Built noMarketData
        | some ctx => fun s ↦ Ongoing Built 1 s ∧ ctx.fetchBundle ≠ none)
      (Unfinished Built) := by
  refine (realizes_updateStatus _).step ((realizes_call _).bind fun fetchBundle _ ↦ ?_)
  refine (realizes_completeStep (by decide)).step (Realizes.ite (fun _ ↦ ?_) fun _ ↦ ?_)
  · exact (realizes_fail _).step (Realizes.pure fun _ hs ↦ hs)
  · refine (realizes_call _).bind fun pivotCandle _ ↦ ?_
    exact Realizes.pure fun s hs ↦ ⟨hs, fun h ↦ nomatch h⟩

/-- The analysis phase of a context with candles. -/
theorem realizes_runAnalysisPhase {ctx : PipelineContext} (hctx : ctx.fetchBundle ≠ none) :
    Realizes (Ongoing Built 1) (p.runAnalysisPhase calls ctx) (p.analysisOutcome calls ctx)
      (fun _ ↦ Ongoing Built 4) (Unfinished Built) := by
  -- the guard against a missing bundle is not taken
  obtain ⟨fetchBundle, hbundle⟩ := Option.ne_none_iff_exists'.1 hctx
  unfold runAnalysisPhase analysisOutcome
  rw [hbundle]
  refine (realizes_updateStatus _).step ?_
  refine (realizes_call _).bind fun ctx _ ↦ (realizes_completeStep (by decide)).step ?_
  refine (realizes_updateStatus _).step ?_
  refine (realizes_call _).bind fun ctx _ ↦ (realizes_completeStep (by decide)).step ?_
  refine (realizes_updateStatus _).step ?_
  refine (realizes_call _).bind_return fun ctx _ ↦ (realizes_completeStep (by decide)).step ?_
  exact Realizes.pure fun _ hs ↦ hs

/-- The aggregation phase. -/
theorem realizes_runAggregationPhase (ctx : PipelineContext) :
    Realizes (Ongoing Built 4) (runAggregationPhase calls ctx) (aggregationBody calls ctx)
      (fun _ ↦ Ongoing Built 5) (Unfinished Built) := by
  refine (realizes_updateStatus _).step ?_
  refine (realizes_call _).bind_return fun ctx _ ↦ (realizes_completeStep (by decide)).step ?_
  exact Realizes.pure fun _ hs ↦ hs

/-- The report phase stores nothing but the report it built. -/
theorem realizes_runReportPhase {ctx : PipelineContext}
    (hbuilt : ∀ r, calls.buildReport ctx = .ok r → Built r) :
    Realizes (Ongoing Built 5) (runReportPhase calls ctx)
      (calls.buildReport ctx >>= persistOutcome calls) (fun _ ↦ Ongoing Built 6)
      (Unfinished Built) := by
  refine (realizes_updateStatus _).step ?_
  refine (realizes_call _).bind fun report hreport ↦ (realizes_completeStep (by decide)).step ?_
  have hpersist : Realizes (Ongoing Built 6) (persistResult calls report)
      ((calls.persist report).result.recover fun _ ↦ ()) (fun _ ↦ Ongoing Built 6)
      (Unfinished Built) := by
    refine (realizes_store _ (fun _ ↦ rfl) fun _ r hr ↦ ?_).step (realizes_call _)
    rw [List.mem_singleton.1 hr]
    exact hbuilt report hreport
  exact hpersist.bind fun _ _ ↦ Realizes.pure fun _ hs ↦ hs

/-- The phases after the fetch. -/
theorem realizes_runPhases {ctx : PipelineContext} (hctx : ctx.fetchBundle ≠ none)
    (hbuilt : ∀ r, p.reportOutcome calls ctx = .ok r → Built r) :
    Realizes (Ongoing Built 1) (p.runPhases calls ctx)
      (p.reportOutcome calls ctx >>= persistOutcome calls) (fun _ ↦ Ongoing Built 6)
      (Unfinished Built) := by
  have houtcome : p.reportOutcome calls ctx >>= persistOutcome calls =
      p.analysisOutcome calls ctx >>= fun ctx ↦ aggregationBody calls ctx >>= fun ctx ↦
        calls.buildReport ctx >>= persistOutcome calls := by
    simp only [reportOutcome, bind_assoc]
  rw [houtcome]
  refine (p.realizes_runAnalysisPhase calls hctx).bind fun ctx' hanalysis ↦ ?_
  refine (realizes_runAggregationPhase calls ctx').bind fun ctx'' haggregation ↦ ?_
  refine realizes_runReportPhase calls fun r hr ↦ hbuilt r ?_
  rw [reportOutcome, hanalysis]
  show aggregationBody calls ctx' >>= _ = _
  rw [haggregation]
  exact hr

/-- What becomes of the report of an analysis, if it has one. -/
def finishOutcome : Option Report → Call (Option Report)
  | none => .ok none
  | some report => do return some (← persistOutcome calls report)

/-- The outcome of the `try` block of `run`, phase by phase. -/
theorem analyse_bind_finishOutcome :
    p.analyse calls >>= finishOutcome calls =
      calls.classifyInstrument p.symbol >>= fun instrumentType ↦
        p.fetchOutcome calls
          { symbol := p.symbol, timeframe := p.timeframe, instrumentType } >>= fun
          | none => .ok none
          | some ctx => do return some (← p.reportOutcome calls ctx >>= persistOutcome calls) := by
  rw [analyse, bind_assoc]
  refine congrArg _ (funext fun instrumentType ↦ ?_)
  rw [bind_assoc]
  refine congrArg _ (funext fun found ↦ ?_)
  cases found with
  | none => rfl
  | some ctx =>
    show (p.reportOutcome calls ctx >>= fun r ↦ .ok (some r)) >>= finishOutcome calls =
      (p.reportOutcome calls ctx >>= persistOutcome calls) >>= fun r ↦ .ok (some r)
    cases p.reportOutcome calls ctx <;> rfl

/-- Where the `try` block of `run` returns: without candles, or after all steps. -/
def ReturnsAt (Built : Report → Prop) : Option Report → PipelineState Report → Prop
  | none => Failed Built noMarketData
  | some _ => Ongoing Built 6

/-- The `try` block of `run` follows the analysis. -/
theorem realizes_runBody (hbuilt : ∀ r, p.analyse calls = .ok (some r) → Built r) :
    Realizes (Ongoing Built 0) (p.runBody calls) (p.analyse calls >>= finishOutcome calls)
      (ReturnsAt Built) (Unfinished Built) := by
  rw [analyse_bind_finishOutcome]
  refine (realizes_call _).bind fun instrumentType hinstrument ↦ ?_
  refine (p.realizes_runFetchPhase calls _).bind fun found hfound ↦ ?_
  cases found with
  | none => exact Realizes.pure fun _ hs ↦ hs
  | some ctx =>
    intro s ⟨hs, hctx⟩
    have hphases : Realizes (Ongoing Built 1) (p.runPhases calls ctx >>= fun r ↦ pure (some r))
        ((p.reportOutcome calls ctx >>= persistOutcome calls) >>= fun r ↦ .ok (some r))
        (ReturnsAt Built) (Unfinished Built) := by
      refine (p.realizes_runPhases calls hctx fun r hr ↦ hbuilt r ?_).bind
        fun r _ ↦ Realizes.pure fun _ hs ↦ hs
      rw [analyse, hinstrument]
      show p.fetchOutcome calls _ >>= _ = _
      rw [hfound]
      show p.reportOutcome calls ctx >>= _ = _
      rw [hr]
      rfl
    exact hphases s hs

/-- A recovered call stops short only when it is cancelled. -/
theorem eq_cancelled_of_recover {α : Type} {call : Call α} {default : String → α} {e : Stop}
    (h : call.recover default = .error e) : e = .cancelled := by
  rcases call with (message | -) | a
  · exact nomatch h
  · exact (Except.error.inj h).symm
  · exact nomatch h

/-- A report that is not persisted is still returned, unless the run is cancelled. -/
theorem finishOutcome_eq (found : Option Report) :
    finishOutcome calls found = .ok found ∨ finishOutcome calls found = .error .cancelled := by
  rcases found with - | report
  · exact Or.inl rfl
  · rcases hpersist : (calls.persist report).result.recover fun _ ↦ () with e | u
    · refine Or.inr ?_
      rw [finishOutcome, persistOutcome, hpersist, eq_cancelled_of_recover hpersist]
      rfl
    · refine Or.inl ?_
      rw [finishOutcome, persistOutcome, hpersist]
      rfl

/-- What the `try` block of `run` ends with is what the analysis ends with, unless the run is
cancelled. -/
theorem analyse_of_finish {o : Call (Option Report)}
    (h : (p.analyse calls >>= finishOutcome calls) = o) (ho : o ≠ .error .cancelled) :
    p.analyse calls = o := by
  rcases hanalyse : p.analyse calls with e | found
  · rw [hanalyse] at h
    exact h
  · rw [hanalyse] at h
    have hfinish : finishOutcome calls found = o := h
    obtain hok | hcancelled := finishOutcome_eq calls found
    · rw [← hfinish, hok]
    · exact absurd (hfinish.symm.trans hcancelled) ho

/-- A cancelled run has not failed. -/
theorem failureMessage_of_cancelled
    (h : (p.analyse calls >>= finishOutcome calls) = .error .cancelled) :
    failureMessage (p.analyse calls) = none := by
  rcases hanalyse : p.analyse calls with e | (- | report)
  · rw [hanalyse] at h
    have he : e = .cancelled := Except.error.inj h
    rw [he]
    rfl
  · rw [hanalyse] at h
    exact nomatch h
  · rfl

/-- Where `run` returns: with a failure published, or with a report after all steps. -/
def RunReturnsAt (Built : Report → Prop) : Option Report → PipelineState Report → Prop
  | none => fun s ↦ ∃ message, failureMessage (p.analyse calls) = some message ∧
      Failed Built message s
  | some report => fun s ↦ p.analyse calls = .ok (some report) ∧ Ongoing Built 6 s

/-- Where a cancelled `run` is. -/
def RunCancelledAt (Built : Report → Prop) (s : PipelineState Report) : Prop :=
  failureMessage (p.analyse calls) = none ∧ Unfinished Built s

/-- What `run` ends with. -/
def runOutcome : Call (Option Report) :=
  tryCatch (p.analyse calls >>= finishOutcome calls) fun
    | .raised _ => .ok none
    | .cancelled => .error .cancelled

/-- `run` answers every exception. -/
theorem runOutcome_eq_cancelled {e : Stop} (h : p.runOutcome calls = .error e) :
    e = .cancelled := by
  rw [runOutcome] at h
  rcases hbody : p.analyse calls >>= finishOutcome calls with (message | -) | found
  · rw [hbody] at h
    exact nomatch h
  · rw [hbody] at h
    exact (Except.error.inj h).symm
  · rw [hbody] at h
    exact nomatch h

/-- `run` returns a report with all steps done, or fails once. -/
theorem realizes_run (hbuilt : ∀ r, p.analyse calls = .ok (some r) → Built r) :
    Realizes (Ongoing Built 0) (p.run calls) (p.runOutcome calls) (p.RunReturnsAt calls Built)
      (p.RunCancelledAt calls Built) := by
  refine Realizes.handle ((p.realizes_runBody calls hbuilt).mono ?_ fun _ _ _ hs ↦ hs) ?_
  · intro found hfound s hs
    have hanalyse : p.analyse calls = .ok found :=
      p.analyse_of_finish calls hfound (fun h ↦ nomatch h)
    cases found with
    | none => exact ⟨noMarketData, congrArg failureMessage hanalyse, hs⟩
    | some report => exact ⟨hanalyse, hs⟩
  · intro e he
    cases e with
    | raised message =>
      -- wherever the exception came from, the end was open, and the failure is the first one
      have hmessage : failureMessage (p.analyse calls) = some message :=
        congrArg failureMessage (p.analyse_of_finish calls he fun h ↦ nomatch h)
      exact Realizes.of_exists fun k ↦
        (realizes_fail message).step (Realizes.pure fun s hs ↦ ⟨message, hmessage, hs⟩)
    | cancelled =>
      exact Realizes.throw fun s hs ↦ ⟨p.failureMessage_of_cancelled calls he, hs⟩

/-- How an analysis ends: the law is kept unless a failure was published twice. -/
def EndsAt (Built : Report → Prop) (s : PipelineState Report) : Prop :=
  (LawfulTrace (statuses s.log) ↔
    ∀ message, failureMessage (p.analyse calls) = some message → message = noReport) ∧
  ∀ r ∈ storedReports s.log, Built r

/-- A run that did not fail keeps the law. -/
theorem endsAt_of_published {Built : Report → Prop} {s : PipelineState Report}
    (hs : Published Built s)
    (h : failureMessage (p.analyse calls) = none) : p.EndsAt calls Built s := by
  refine ⟨⟨fun _ message hmessage ↦ ?_, fun _ ↦ hs.lawful⟩, hs.built⟩
  rw [h] at hmessage
  exact nomatch hmessage

/-- What the `try` block of `_run_pipeline` ends with. -/
def runPipelineBodyOutcome : Call Unit := do
  match ← p.runOutcome calls with
  | some report => (calls.cacheReport report).result.recover fun _ ↦ ()
  | none => return ()

/-- No exception leaves the `try` block of `_run_pipeline`. -/
theorem runPipelineBodyOutcome_eq_cancelled {e : Stop}
    (h : p.runPipelineBodyOutcome calls = .error e) : e = .cancelled := by
  rw [runPipelineBodyOutcome] at h
  rcases hrun : p.runOutcome calls with e' | (- | report)
  · rw [hrun] at h
    have he : e' = e := Except.error.inj h
    exact he ▸ p.runOutcome_eq_cancelled calls hrun
  · rw [hrun] at h
    exact nomatch h
  · rw [hrun] at h
    exact eq_cancelled_of_recover h

/-- The `try` block of `_run_pipeline` ends with a report cached, or fails once more. -/
theorem realizes_runPipelineBody (hbuilt : ∀ r, p.analyse calls = .ok (some r) → Built r) :
    Realizes (Ongoing Built 0) (p.runPipelineBody calls) (p.runPipelineBodyOutcome calls)
      (fun _ ↦ p.EndsAt calls Built) (p.EndsAt calls Built) := by
  have hrun : Realizes (Ongoing Built 0) (p.run calls) (p.runOutcome calls)
      (p.RunReturnsAt calls Built) (p.EndsAt calls Built) :=
    (p.realizes_run calls hbuilt).mono (fun _ _ _ hs ↦ hs) fun _ _ s ⟨hnone, k, hs⟩ ↦
      p.endsAt_of_published calls hs.toPublished hnone
  refine hrun.bind fun found _ ↦ ?_
  cases found with
  | none =>
    -- `run` has published its failure already
    refine Realizes.of_exists fun message ↦ Realizes.update fun s ⟨hmessage, hs⟩ ↦ ⟨?_, ?_⟩
    · rw [hs.lawfulTrace_publish_iff, hmessage]
      exact ⟨fun h m hm ↦ (Option.some.inj hm).symm.trans h.symm, fun h ↦ (h message rfl).symm⟩
    · rw [storedReports_publish]
      exact hs.built
  | some report =>
    intro s ⟨hanalyse, hs⟩
    have hnone : failureMessage (p.analyse calls) = none := congrArg failureMessage hanalyse
    have hend : Realizes (Ongoing Built 6)
        (do
          .update (store (calls.cacheReport report) (.reportCached report))
          .call ((calls.cacheReport report).result.recover fun _ ↦ ())
          complete)
        ((calls.cacheReport report).result.recover fun _ ↦ ()) (fun _ ↦ p.EndsAt calls Built)
        (p.EndsAt calls Built) := by
      refine (realizes_store _ (fun _ ↦ rfl) fun _ r hr ↦ ?_).step ?_
      · rw [List.mem_singleton.1 hr]
        exact hbuilt report hanalyse
      refine Realizes.bind_return (Realizes.call (fun _ _ _ hs ↦ hs) fun _ _ _ hs ↦ ?_) fun _ _ ↦ ?_
      · exact p.endsAt_of_published calls hs.toPublished hnone
      · exact realizes_complete.mono (fun _ _ _ hs ↦ p.endsAt_of_published calls hs hnone)
          fun _ _ _ hs ↦ hs
    exact hend s hs

/-- `_run_pipeline` ends with a report cached, or fails once more. -/
theorem realizes_runPipeline (hbuilt : ∀ r, p.analyse calls = .ok (some r) → Built r) :
    Realizes (Ongoing Built 0) (p.runPipeline calls) (p.runPipelineBodyOutcome calls)
      (fun _ ↦ p.EndsAt calls Built) (p.EndsAt calls Built) := by
  -- the outer handler is never reached: what leaves the block is a cancellation
  have houtcome : tryCatch (p.runPipelineBodyOutcome calls) Except.error =
      p.runPipelineBodyOutcome calls := by
    cases p.runPipelineBodyOutcome calls <;> rfl
  rw [← houtcome]
  refine Realizes.handle (p.realizes_runPipelineBody calls hbuilt) fun e he ↦ ?_
  obtain rfl := p.runPipelineBodyOutcome_eq_cancelled calls he
  exact Realizes.throw fun _ hs ↦ hs

/-- A new analysis has nothing done and nothing wrong. -/
theorem ongoing_initial : Ongoing Built 0 p.initial := by
  have hmem : ∀ a ∈ statuses (p.initial : PipelineState Report).log, a = { id := p.analysisId } :=
    fun a ha ↦ List.mem_singleton.1 ha
  refine ⟨⟨⟨List.pairwise_singleton _ _, ?_, ?_, List.pairwise_singleton _ _⟩,
    List.mem_singleton_self _, ?_, fun r hr ↦ nomatch hr⟩, ?_, ?_, rfl⟩
  · intro a ha
    rw [hmem a ha]
    exact List.nil_prefix
  · intro a ha hc
    rw [hmem a ha] at hc
    exact nomatch hc
  · intro a ha
    rw [hmem a ha]
    exact le_rfl
  · intro a ha
    rw [hmem a ha]
    exact fun h ↦ h.elim (fun h ↦ nomatch h) fun h ↦ nomatch h
  · show (0 : ℚ) ≤ _
    norm_num

/-- The end of a whole analysis. -/
theorem endsAt_runPipeline :
    p.EndsAt calls (fun r ↦ p.analyse calls = .ok (some r))
      ((p.runPipeline calls).exec p.initial).2 := by
  obtain ⟨-, hok, herror⟩ :=
    p.realizes_runPipeline calls (fun _ hr ↦ hr) p.initial p.ongoing_initial
  rcases ho : p.runPipelineBodyOutcome calls with e | u
  · exact herror e ho
  · exact hok u ho

/-- Every report that is stored is the one the calls lead to. -/
theorem analyse_of_mem_storedReports {r : Report} (hr : r ∈ storedReports (p.effects calls)) :
    p.analyse calls = .ok (some r) :=
  (p.endsAt_runPipeline calls).2 r hr

/-- **The status keeps its law exactly when no failure is published twice.** For every analysis and
whatever becomes of the calls it makes — each of them may return anything, raise, or be cancelled —
the values its status takes follow the law if and only if the analysis does not fail, by an
exception or for want of candles, or fails with the message that `_run_pipeline` has for it. -/
theorem lawfulTrace_effects_iff :
    LawfulTrace (statuses (p.effects calls)) ↔
      ∀ message, failureMessage (p.analyse calls) = some message → message = noReport :=
  (p.endsAt_runPipeline calls).1

end AnalysisPipeline

/-! ### A failed fetch -/

/-- An analysis of one currency pair. -/
def eurUsd : AnalysisPipeline where
  analysisId := "a"
  symbol := "EURUSD"
  timeframe := .h1

/-- These candles are fetched, this report is built, and no call raises but perhaps the writes. -/
def calmCalls {Report : Type} (candles : List OHLCVData) (report : Report)
    (persisted : WriteOutcome Unit) (cached : WriteOutcome Availability) :
    PipelineCalls Report where
  classifyInstrument _ := .ok (some .forex)
  fetch _ plan := .ok
    { mainTimeframe := plan.mainTimeframe
      candlesByTimeframe := Table.put ∅ plan.mainTimeframe (some candles) }
  getPivotCandle candles := .ok candles.getLast?
  technicalAnalysis _ _ := .ok ([], [], [], none)
  buildLongTermTrend _ := .ok none
  patternRecognition _ _ := .ok []
  consolidatePatterns _ := .ok []
  analyzeFundamentals instrumentType _ := .ok { instrumentType }
  calculateWeightedScore aggregator :=
    .ok (InvestmentAssistant.calculateWeightedScore aggregator none)
  determineDirection score := .ok (InvestmentAssistant.determineDirection score none none)
  buildReport _ := .ok report
  persist _ := persisted
  cacheReport _ := cached

/-- An analysis without candles. -/
def noCandles : PipelineCalls Unit :=
  calmCalls [] () ⟨some (), .ok ()⟩ ⟨some .up, .ok ()⟩

/-- The message of a failed analysis is replaced after it was published. -/
theorem failure_is_published_twice :
    ((statuses (eurUsd.effects noCandles)).map fun a ↦ (a.status, a.errorMessage)) =
        [(.pending, none), (.running, none), (.running, none), (.failed, some noMarketData),
          (.failed, some noReport)] ∧
      ¬ LawfulTrace (statuses (eurUsd.effects noCandles)) :=
  ⟨by decide +kernel, fun h ↦ absurd h.terminal (by decide +kernel)⟩

end InvestmentAssistant
