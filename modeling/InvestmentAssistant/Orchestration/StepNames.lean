import InvestmentAssistant.Orchestration.StatusTrace

/-!
# The steps a status names

Whatever becomes of an analysis, every status it publishes names no other steps than those of
`PIPELINE_STEPS` (`namesSteps_of_mem_statuses`). Other programs rely on this when they recognise a
step by its name.
-/

namespace InvestmentAssistant

open Stateful

/-- The completed steps and the current one are steps of the pipeline. -/
structure AnalysisStatus.NamesSteps (status : AnalysisStatus) : Prop where
  completed : ∀ stepName ∈ status.stepsCompleted, stepName ∈ pipelineSteps
  current : status.currentStep = "" ∨ status.currentStep ∈ pipelineSteps

section Runs

variable {Report : Type}

/-- So do the current status and the published ones. -/
structure AllNameSteps (s : PipelineState Report) : Prop where
  status : s.status.NamesSteps
  published : ∀ a ∈ statuses s.log, a.NamesSteps

/-- One more value. -/
theorem AllNameSteps.publish {s : PipelineState Report} (h : AllNameSteps s)
    {f : AnalysisStatus → AnalysisStatus} (hf : (f s.status).NamesSteps) :
    AllNameSteps (publish f s) where
  status := hf
  published a ha := by
    rw [statuses_publish, List.mem_append, List.mem_singleton] at ha
    obtain ha | rfl := ha
    · exact h.published a ha
    · exact hf

theorem preserves_updateStatus {k : ℕ} {stepName : String} (hstep : stepName ∈ pipelineSteps) :
    Preserves AllNameSteps (updateStatus k stepName : PipelineM Report Unit) :=
  Preserves.update fun _ hs ↦ hs.publish ⟨hs.status.completed, Or.inr hstep⟩

theorem preserves_completeStep {stepName : String} (hstep : stepName ∈ pipelineSteps) :
    Preserves AllNameSteps (completeStep stepName : PipelineM Report Unit) :=
  Preserves.update fun _ hs ↦ hs.publish
    ⟨List.forall_mem_append.2 ⟨hs.status.completed, List.forall_mem_singleton.2 hstep⟩,
      hs.status.current⟩

theorem preserves_fail {error : String} :
    Preserves AllNameSteps (fail error : PipelineM Report Unit) :=
  Preserves.update fun _ hs ↦ hs.publish ⟨hs.status.completed, hs.status.current⟩

theorem preserves_complete : Preserves AllNameSteps (complete : PipelineM Report Unit) :=
  Preserves.update fun _ hs ↦ hs.publish ⟨hs.status.completed, Or.inl rfl⟩

/-- A write publishes nothing. -/
theorem preserves_store {ω : Type} {outcome : WriteOutcome ω} {effect : ω → PipelineEffect Report}
    (heffect : ∀ w, statuses [effect w] = []) :
    Preserves AllNameSteps (.update (store outcome effect) : PipelineM Report Unit) := by
  refine Preserves.update fun s hs ↦ ⟨hs.status, fun a ha ↦ hs.published a ?_⟩
  rw [store, statuses, List.filterMap_append, List.mem_append] at ha
  obtain ha | ha := ha
  · exact ha
  · cases hw : outcome.effect with
    | none =>
      rw [hw] at ha
      exact absurd ha List.not_mem_nil
    | some w =>
      rw [hw] at ha
      have hnil : a ∈ statuses [effect w] := ha
      rw [heffect w] at hnil
      exact absurd hnil List.not_mem_nil

end Runs

namespace AnalysisPipeline

variable {Report : Type} (p : AnalysisPipeline) (calls : PipelineCalls Report)

theorem preserves_runFetchPhase (ctx : PipelineContext) :
    Preserves AllNameSteps (p.runFetchPhase calls ctx) := by
  refine (preserves_updateStatus (by decide)).bind fun _ ↦ Preserves.call.bind fun _ ↦ ?_
  refine (preserves_completeStep (by decide)).bind fun _ ↦ Preserves.ite ?_ ?_
  · exact preserves_fail.bind fun _ ↦ Preserves.pure
  · exact Preserves.call.bind fun _ ↦ Preserves.pure

theorem preserves_runAnalysisPhase (ctx : PipelineContext) :
    Preserves AllNameSteps (p.runAnalysisPhase calls ctx) := by
  refine (preserves_updateStatus (by decide)).bind fun _ ↦ ?_
  cases ctx.fetchBundle with
  | none => exact preserves_fail.bind fun _ ↦ Preserves.pure
  | some fetchBundle =>
    refine Preserves.call.bind fun _ ↦ (preserves_completeStep (by decide)).bind fun _ ↦ ?_
    refine (preserves_updateStatus (by decide)).bind fun _ ↦ Preserves.call.bind fun _ ↦ ?_
    refine (preserves_completeStep (by decide)).bind fun _ ↦ ?_
    refine (preserves_updateStatus (by decide)).bind fun _ ↦ Preserves.call.bind fun _ ↦ ?_
    exact (preserves_completeStep (by decide)).bind fun _ ↦ Preserves.pure

theorem preserves_runAggregationPhase (ctx : PipelineContext) :
    Preserves AllNameSteps (runAggregationPhase calls ctx) := by
  refine (preserves_updateStatus (by decide)).bind fun _ ↦ Preserves.call.bind fun _ ↦ ?_
  exact (preserves_completeStep (by decide)).bind fun _ ↦ Preserves.pure

theorem preserves_runReportPhase (ctx : PipelineContext) :
    Preserves AllNameSteps (runReportPhase calls ctx) := by
  refine (preserves_updateStatus (by decide)).bind fun _ ↦ Preserves.call.bind fun _ ↦ ?_
  refine (preserves_completeStep (by decide)).bind fun _ ↦ ?_
  have hpersist : ∀ report, Preserves AllNameSteps (persistResult calls report) := fun _ ↦
    (preserves_store fun _ ↦ rfl).bind fun _ ↦ Preserves.call
  exact (hpersist _).bind fun _ ↦ Preserves.pure

theorem preserves_run : Preserves AllNameSteps (p.run calls) := by
  refine Preserves.handle (Preserves.call.bind fun _ ↦ ?_) fun e y hy ↦ ?_
  · refine (p.preserves_runFetchPhase calls _).bind fun ctx ↦ ?_
    cases ctx with
    | none => exact Preserves.pure
    | some ctx =>
      refine Preserves.bind ?_ fun _ ↦ Preserves.pure
      refine (p.preserves_runAnalysisPhase calls ctx).bind fun _ ↦ ?_
      exact (preserves_runAggregationPhase calls _).bind fun _ ↦ preserves_runReportPhase calls _
  · cases e with
    | raised message =>
      obtain rfl := Option.some.inj hy
      exact preserves_fail.bind fun _ ↦ Preserves.pure
    | cancelled => exact nomatch hy

theorem preserves_runPipeline : Preserves AllNameSteps (p.runPipeline calls) := by
  refine Preserves.handle ((p.preserves_run calls).bind fun found ↦ ?_) fun e y hy ↦ ?_
  · cases found with
    | none => exact preserves_fail
    | some report =>
      refine (preserves_store fun _ ↦ rfl).bind fun _ ↦ Preserves.call.bind fun _ ↦ ?_
      exact preserves_complete
  · cases e with
    | raised message =>
      obtain rfl := Option.some.inj hy
      exact preserves_fail
    | cancelled => exact nomatch hy

/-- **Every published status names steps of the pipeline only.** -/
theorem namesSteps_of_mem_statuses {a : AnalysisStatus} (ha : a ∈ statuses (p.effects calls)) :
    a.NamesSteps := by
  refine (p.preserves_runPipeline calls p.initial ⟨⟨?_, Or.inl rfl⟩, fun b hb ↦ ?_⟩).published a ha
  · exact fun _ h ↦ nomatch h
  · obtain rfl := List.mem_singleton.1 hb
    exact ⟨fun _ h ↦ (nomatch h), Or.inl rfl⟩

end AnalysisPipeline

end InvestmentAssistant
