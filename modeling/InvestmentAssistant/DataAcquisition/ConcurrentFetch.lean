import InvestmentAssistant.DataAcquisition.MultiTimeframe
import InvestmentAssistant.Foundation.Transition

/-!
# Fetching the time frames of an analysis

`MultiTimeframeFetcher.fetch` starts one task for each required time frame and then awaits the tasks
one after the other, in the order of the plan. The tasks end in any order, so the fetch is a system
with two kinds of event: a task ends, and `fetch` goes on with the next task when that one has ended
(`FetchEvent`). What becomes of each task is a parameter (`FetchTasks`).

* What `fetch` returns or raises does not depend on the order (`FetchInv`): it raises exactly when
  the task of the main time frame fails, and otherwise the bundle has candles for the required time
  frames and errors for the failed ones.
* The main task is awaited first, and when it fails `fetch` raises at once. So it leaves no task
  running or un-awaited exactly when the main task succeeds or is the only one
  (`fetchesConcurrently_iff`).
-/

namespace InvestmentAssistant

open Table Transition

/-! ### The system -/

/-- What becomes of the tasks: the candles of each time frame or its exception, and the text of an
exception. -/
structure FetchTasks where
  outcome : DataTimeframe → Except PyException (List OHLCVData)
  /-- `str` of an exception. -/
  text : PyException → String

/-- A fetch under way: the tasks that have ended, those that `fetch` has awaited, those its loop has
still to go through, what it has collected, and what it returned or raised. -/
structure FetchState where
  ended : List DataTimeframe := []
  awaited : List DataTimeframe := []
  pending : List DataTimeframe
  candlesByTimeframe : Table DataTimeframe (List OHLCVData) := ∅
  errors : Table DataTimeframe String := ∅
  result : Option (Except PyException MultiTimeframeFetchBundle) := none

/-- All tasks are created before the first one is awaited. -/
def FetchState.start (plan : AnalysisTimeframePlan) : FetchState where
  pending := plan.requiredTimeframes

/-- A task ends, or `fetch` goes on. -/
inductive FetchEvent
  | taskEnds (timeframe : DataTimeframe)
  | resume
  deriving DecidableEq, Repr

/-- `fetch` has the outcome of the task it awaited. -/
def FetchState.takeOutcome (plan : AnalysisTimeframePlan) (tasks : FetchTasks) (s : FetchState)
    (timeframe : DataTimeframe) : FetchState :=
  match tasks.outcome timeframe with
  | .ok candles => { s with candlesByTimeframe := s.candlesByTimeframe.insert timeframe candles }
  | .error exc =>
    if timeframe = plan.mainTimeframe then { s with result := some (.error exc) }
    else
      { s with
        candlesByTimeframe := s.candlesByTimeframe.insert timeframe []
        errors := s.errors.insert timeframe (tasks.text exc) }

/-- One step of `fetch` or of one of its tasks. -/
def fetchStep (plan : AnalysisTimeframePlan) (tasks : FetchTasks) (s : FetchState) :
    FetchEvent → Option FetchState
  | .taskEnds timeframe =>
    if timeframe ∈ plan.requiredTimeframes ∧ timeframe ∉ s.ended then
      some { s with ended := timeframe :: s.ended }
    else none
  | .resume =>
    match s.result, s.pending with
    | some _, _ => none
    | none, [] => some
        { s with result := some (.ok ⟨plan.mainTimeframe, s.candlesByTimeframe, s.errors⟩) }
    | none, timeframe :: pending =>
      if timeframe ∈ s.ended then
        let s := { s with awaited := s.awaited ++ [timeframe], pending := pending }
        some (s.takeOutcome plan tasks timeframe)
      else none

/-! ### What the fetch has collected -/

namespace FetchTasks

variable (tasks : FetchTasks)

/-- The task of this time frame fails. -/
def Fails (timeframe : DataTimeframe) : Prop :=
  ∃ exc, tasks.outcome timeframe = .error exc

/-- The candles `fetch` records for a task. -/
def candles (timeframe : DataTimeframe) : List OHLCVData :=
  match tasks.outcome timeframe with
  | .ok candles => candles
  | .error _ => []

/-- The error `fetch` records for a task. -/
def error (timeframe : DataTimeframe) : Option String :=
  match tasks.outcome timeframe with
  | .ok _ => none
  | .error exc => some (tasks.text exc)

variable {tasks}

theorem error_isSome_iff {timeframe : DataTimeframe} :
    (tasks.error timeframe).isSome ↔ tasks.Fails timeframe := by
  rw [error, Fails]
  rcases tasks.outcome timeframe with exc | candles
  · exact iff_of_true rfl ⟨exc, rfl⟩
  · exact iff_of_false (fun h ↦ nomatch h) fun ⟨_, h⟩ ↦ nomatch h

theorem candles_of_fails {timeframe : DataTimeframe} (h : tasks.Fails timeframe) :
    tasks.candles timeframe = [] := by
  obtain ⟨exc, hexc⟩ := h
  rw [candles, hexc]

end FetchTasks

section Invariant

variable {plan : AnalysisTimeframePlan} {tasks : FetchTasks} {s s' : FetchState}

/-- The tables hold what the awaited tasks brought. -/
structure FetchState.Collects (tasks : FetchTasks) (s : FetchState) : Prop where
  candles : ∀ timeframe, s.candlesByTimeframe.lookup timeframe =
    if timeframe ∈ s.awaited then some (tasks.candles timeframe) else none
  errors : ∀ timeframe, s.errors.lookup timeframe =
    if timeframe ∈ s.awaited then tasks.error timeframe else none

/-- How far the loop is: it goes on, it has raised the exception of the main task, or it has
returned what it collected. -/
def FetchState.Stage (plan : AnalysisTimeframePlan) (tasks : FetchTasks) (s : FetchState) : Prop :=
  match s.result with
  | none => (plan.mainTimeframe ∈ s.awaited → ¬ tasks.Fails plan.mainTimeframe) ∧ s.Collects tasks
  | some (.error exc) =>
    s.awaited = [plan.mainTimeframe] ∧ tasks.outcome plan.mainTimeframe = .error exc
  | some (.ok bundle) =>
    s.pending = [] ∧ ¬ tasks.Fails plan.mainTimeframe ∧ s.Collects tasks ∧
      bundle = ⟨plan.mainTimeframe, s.candlesByTimeframe, s.errors⟩

/-- The invariant of a fetch. -/
structure FetchInv (plan : AnalysisTimeframePlan) (tasks : FetchTasks) (s : FetchState) : Prop where
  order : s.awaited ++ s.pending = plan.requiredTimeframes
  ended_required : ∀ timeframe ∈ s.ended, timeframe ∈ plan.requiredTimeframes
  nodup : s.ended.Nodup
  awaited_ended : ∀ timeframe ∈ s.awaited, timeframe ∈ s.ended
  stage : s.Stage plan tasks

/-- What a step can do. -/
theorem fetchStep_cases {e : FetchEvent} (h : fetchStep plan tasks s e = some s') :
    (∃ timeframe, e = .taskEnds timeframe ∧ timeframe ∈ plan.requiredTimeframes ∧
      timeframe ∉ s.ended ∧ s' = { s with ended := timeframe :: s.ended }) ∨
    (e = .resume ∧ s.result = none ∧ s.pending = [] ∧
      s' = { s with result := some (.ok ⟨plan.mainTimeframe, s.candlesByTimeframe, s.errors⟩) }) ∨
    (∃ timeframe pending, e = .resume ∧ s.result = none ∧ s.pending = timeframe :: pending ∧
      timeframe ∈ s.ended ∧ s' = FetchState.takeOutcome plan tasks
        { s with awaited := s.awaited ++ [timeframe], pending := pending } timeframe) := by
  cases e with
  | taskEnds timeframe =>
    rw [fetchStep] at h
    split at h
    · next hnew => exact .inl ⟨timeframe, rfl, hnew.1, hnew.2, (Option.some.inj h).symm⟩
    · exact nomatch h
  | resume =>
    simp only [fetchStep] at h
    split at h
    · exact nomatch h
    · next hresult hpending =>
      exact .inr (.inl ⟨rfl, hresult, hpending, (Option.some.inj h).symm⟩)
    · next timeframe pending hresult hpending =>
      split at h
      · next hended =>
        exact .inr (.inr ⟨timeframe, pending, rfl, hresult, hpending, hended,
          (Option.some.inj h).symm⟩)
      · exact nomatch h

theorem fetchInv_start (plan : AnalysisTimeframePlan) (tasks : FetchTasks) :
    FetchInv plan tasks (.start plan) where
  order := List.nil_append _
  ended_required := fun _ h ↦ absurd h List.not_mem_nil
  nodup := List.nodup_nil
  awaited_ended := fun _ h ↦ absurd h List.not_mem_nil
  stage := ⟨fun h ↦ absurd h List.not_mem_nil, fun _ ↦ rfl, fun _ ↦ rfl⟩

/-- Only the tables and the result depend on the outcome of a task. -/
theorem takeOutcome_frame (plan : AnalysisTimeframePlan) (tasks : FetchTasks) (s : FetchState)
    (timeframe : DataTimeframe) :
    (s.takeOutcome plan tasks timeframe).ended = s.ended ∧
      (s.takeOutcome plan tasks timeframe).awaited = s.awaited ∧
      (s.takeOutcome plan tasks timeframe).pending = s.pending := by
  rw [FetchState.takeOutcome]
  split
  · exact ⟨rfl, rfl, rfl⟩
  · split <;> exact ⟨rfl, rfl, rfl⟩

/-- The main task is awaited before the others. -/
theorem awaited_eq_nil_of_pending (h : FetchInv plan tasks s) {pending : List DataTimeframe}
    (hpending : s.pending = plan.mainTimeframe :: pending) : s.awaited = [] := by
  obtain ⟨others, hrequired⟩ := plan.exists_requiredTimeframes_eq_cons
  have horder := h.order.trans hrequired
  rw [hpending] at horder
  rcases hawaited : s.awaited with - | ⟨t, awaited⟩
  · rfl
  · rw [hawaited] at horder
    obtain ⟨-, hothers⟩ := List.cons.inj horder
    have hnodup := plan.nodup_requiredTimeframes
    rw [hrequired, ← hothers] at hnodup
    exact absurd (List.mem_append_right _ (List.mem_cons_self ..)) (List.nodup_cons.1 hnodup).1

/-- A row for one more awaited task. -/
theorem lookup_awaited_concat {V : Type} {table : Table DataTimeframe V}
    {row : DataTimeframe → Option V} {awaited : List DataTimeframe}
    (h : ∀ t, table.lookup t = if t ∈ awaited then row t else none) (timeframe : DataTimeframe) :
    ∀ t, (put table timeframe (row timeframe)).lookup t =
      if t ∈ awaited ++ [timeframe] then row t else none := by
  intro t
  rw [lookup_put]
  by_cases heq : t = timeframe
  · rw [if_pos heq, if_pos (List.mem_append_right _ (List.mem_singleton.2 heq)), heq]
  · rw [if_neg heq, h t]
    simp [heq]

/-- The outcome of a further task is collected, or ends the fetch. -/
theorem stage_takeOutcome (h : FetchInv plan tasks s) (hresult : s.result = none)
    {timeframe : DataTimeframe} {pending : List DataTimeframe}
    (hpending : s.pending = timeframe :: pending) :
    FetchState.Stage plan tasks (FetchState.takeOutcome plan tasks
      { s with awaited := s.awaited ++ [timeframe], pending := pending } timeframe) := by
  have hstage := h.stage
  simp only [FetchState.Stage, hresult] at hstage
  obtain ⟨hmain, hcollects⟩ := hstage
  have hcandles := @lookup_awaited_concat _ _ (fun t ↦ some (tasks.candles t)) _ hcollects.candles
    timeframe
  have herrors := lookup_awaited_concat hcollects.errors timeframe
  rcases houtcome : tasks.outcome timeframe with exc | candles
  · simp only [FetchState.takeOutcome, houtcome]
    split
    · next heq =>
      -- the main task is the first of the plan
      subst heq
      refine ⟨?_, houtcome⟩
      rw [awaited_eq_nil_of_pending h hpending]
      rfl
    · next hne =>
      simp only [FetchState.Stage, hresult]
      refine ⟨fun hmem ↦ hmain ?_, ?_, ?_⟩
      · obtain hmem | hmem := List.mem_append.1 hmem
        · exact hmem
        · exact absurd (List.mem_singleton.1 hmem).symm hne
      · simpa only [put, FetchTasks.candles, houtcome] using hcandles
      · simpa only [put, FetchTasks.error, houtcome] using herrors
  · simp only [FetchState.takeOutcome, houtcome, FetchState.Stage, hresult]
    refine ⟨fun hmem ↦ ?_, ?_, ?_⟩
    · obtain hmem | hmem := List.mem_append.1 hmem
      · exact hmain hmem
      · rintro ⟨exc, hexc⟩
        rw [List.mem_singleton.1 hmem, houtcome] at hexc
        exact nomatch hexc
    · simpa only [put, FetchTasks.candles, houtcome] using hcandles
    · intro t
      rw [hcollects.errors t]
      by_cases heq : t = timeframe
      · simp [heq, FetchTasks.error, houtcome]
      · simp [heq]

/-- Which tasks have ended does not matter to what was collected. -/
theorem stage_ended (h : s.Stage plan tasks) (ended : List DataTimeframe) :
    FetchState.Stage plan tasks { s with ended := ended } := by
  rcases hresult : s.result with - | (exc | bundle)
  all_goals simp only [FetchState.Stage, hresult] at h ⊢
  · exact ⟨h.1, h.2.candles, h.2.errors⟩
  · exact h
  · exact ⟨h.1, h.2.1, ⟨h.2.2.1.candles, h.2.2.1.errors⟩, h.2.2.2⟩

/-- **Every step keeps the invariant.** -/
theorem fetchInv_step (h : FetchInv plan tasks s) {e : FetchEvent}
    (hs : fetchStep plan tasks s e = some s') : FetchInv plan tasks s' := by
  obtain ⟨timeframe, -, hrequired, hnew, rfl⟩ | ⟨-, hresult, hpending, rfl⟩ |
    ⟨timeframe, pending, -, hresult, hpending, hended, rfl⟩ := fetchStep_cases hs
  · exact ⟨h.order, List.forall_mem_cons.2 ⟨hrequired, h.ended_required⟩,
      List.nodup_cons.2 ⟨hnew, h.nodup⟩,
      fun t ht ↦ List.mem_cons_of_mem _ (h.awaited_ended t ht), stage_ended h.stage _⟩
  · have hstage := h.stage
    simp only [FetchState.Stage, hresult] at hstage
    obtain ⟨hmain, hcollects⟩ := hstage
    refine ⟨h.order, h.ended_required, h.nodup, h.awaited_ended, hpending, hmain ?_,
      ⟨hcollects.candles, hcollects.errors⟩, rfl⟩
    -- all tasks have been awaited, the main one among them
    obtain ⟨others, hrequired⟩ := plan.exists_requiredTimeframes_eq_cons
    have horder := h.order
    rw [hpending, List.append_nil] at horder
    rw [horder, hrequired]
    exact List.mem_cons_self ..
  · obtain ⟨hframe_ended, hframe_awaited, hframe_pending⟩ := takeOutcome_frame plan tasks
      { s with awaited := s.awaited ++ [timeframe], pending := pending } timeframe
    refine ⟨?_, ?_, ?_, ?_, stage_takeOutcome h hresult hpending⟩
    · rw [hframe_awaited, hframe_pending, ← h.order, hpending]
      exact List.append_assoc ..
    · rw [hframe_ended]
      exact h.ended_required
    · rw [hframe_ended]
      exact h.nodup
    · rw [hframe_ended, hframe_awaited]
      intro t ht
      obtain ht | ht := List.mem_append.1 ht
      · exact h.awaited_ended t ht
      · exact List.mem_singleton.1 ht ▸ hended

theorem fetchInv_of_run {events : List FetchEvent}
    (hrun : run (fetchStep plan tasks) (.start plan) events = some s) : FetchInv plan tasks s :=
  invariant_run (fun h hs ↦ fetchInv_step h hs) (fetchInv_start plan tasks) hrun

/-! ### Termination -/

/-- What a fetch has still to do: tasks to end, tasks to await, and to return. -/
def FetchState.cost (plan : AnalysisTimeframePlan) (s : FetchState) : ℕ :=
  (plan.requiredTimeframes.length - s.ended.length) + s.pending.length +
    if s.result.isNone then 1 else 0

theorem FetchInv.length_ended_le (h : FetchInv plan tasks s) :
    s.ended.length ≤ plan.requiredTimeframes.length :=
  (List.subperm_of_subset h.nodup h.ended_required).length_le

theorem cost_lt_of_fetchStep (h : FetchInv plan tasks s) {e : FetchEvent}
    (hs : fetchStep plan tasks s e = some s') : s'.cost plan < s.cost plan := by
  have hlength := (fetchInv_step h hs).length_ended_le
  obtain ⟨timeframe, -, -, -, rfl⟩ | ⟨-, hresult, hpending, rfl⟩ |
    ⟨timeframe, pending, -, hresult, hpending, -, rfl⟩ := fetchStep_cases hs
  · simp only [FetchState.cost, List.length_cons] at hlength ⊢
    omega
  · simp [FetchState.cost, hresult]
  · obtain ⟨hframe_ended, -, hframe_pending⟩ := takeOutcome_frame plan tasks
      { s with awaited := s.awaited ++ [timeframe], pending := pending } timeframe
    rw [FetchState.cost, FetchState.cost, hframe_ended, hframe_pending, hpending, hresult,
      List.length_cons]
    simp only [Option.isNone_none, if_true]
    split <;> omega

/-- `fetch` has returned or raised. -/
def FetchState.Over (s : FetchState) : Prop :=
  s.result ≠ none

/-- A fetch that is not over has a step: `fetch` goes on, or the task it awaits ends. -/
theorem exists_fetchStep (h : FetchInv plan tasks s) (hover : ¬ s.Over) :
    ∃ e s', fetchStep plan tasks s e = some s' := by
  have hresult : s.result = none := not_not.1 hover
  rcases hpending : s.pending with - | ⟨timeframe, pending⟩
  · exact ⟨.resume, _, by simp only [fetchStep, hresult, hpending]; rfl⟩
  · by_cases hended : timeframe ∈ s.ended
    · exact ⟨.resume, _, by simp only [fetchStep, hresult, hpending, if_pos hended]; rfl⟩
    · have hrequired : timeframe ∈ plan.requiredTimeframes := by
        rw [← h.order, hpending]
        exact List.mem_append_right _ (List.mem_cons_self ..)
      exact ⟨.taskEnds timeframe, _, if_pos ⟨hrequired, hended⟩⟩

/-! ### What a fetch that is over has done -/

/-- What is asked of a fetch that is over. -/
structure FetchesConcurrently (plan : AnalysisTimeframePlan) (tasks : FetchTasks) (s : FetchState) :
    Prop where
  /-- It raised exactly when the main task fails. -/
  raises : (∃ exc, s.result = some (.error exc)) ↔ tasks.Fails plan.mainTimeframe
  /-- Otherwise the bundle has candles for the required time frames, -/
  candles : ∀ bundle, s.result = some (.ok bundle) → ∀ timeframe,
    (∃ candles, bundle.candlesByTimeframe.lookup timeframe = some candles) ↔
      timeframe ∈ plan.requiredTimeframes
  /-- errors for the failed ones, -/
  errors : ∀ bundle, s.result = some (.ok bundle) → ∀ timeframe,
    (∃ error, bundle.errors.lookup timeframe = some error) ↔
      timeframe ∈ plan.requiredTimeframes ∧ tasks.Fails timeframe
  /-- and for these no candles. -/
  failed : ∀ bundle, s.result = some (.ok bundle) → ∀ timeframe ∈ plan.requiredTimeframes,
    tasks.Fails timeframe → bundle.candlesByTimeframe.lookup timeframe = some []
  /-- No task is running or was left un-awaited. -/
  settled : ∀ timeframe ∈ plan.requiredTimeframes, timeframe ∈ s.ended ∧ timeframe ∈ s.awaited

/-- A fetch that raised awaited the main task only. -/
theorem FetchInv.of_error (h : FetchInv plan tasks s) {exc : PyException}
    (hresult : s.result = some (.error exc)) :
    s.awaited = [plan.mainTimeframe] ∧ tasks.Fails plan.mainTimeframe := by
  have hstage := h.stage
  simp only [FetchState.Stage, hresult] at hstage
  exact ⟨hstage.1, exc, hstage.2⟩

/-- A fetch that returned awaited every task, and its bundle is what they brought. -/
theorem FetchInv.of_ok (h : FetchInv plan tasks s) {bundle : MultiTimeframeFetchBundle}
    (hresult : s.result = some (.ok bundle)) :
    s.awaited = plan.requiredTimeframes ∧ ¬ tasks.Fails plan.mainTimeframe ∧
      ∀ timeframe, bundle.candlesByTimeframe.lookup timeframe =
          (if timeframe ∈ plan.requiredTimeframes then some (tasks.candles timeframe) else none) ∧
        bundle.errors.lookup timeframe =
          if timeframe ∈ plan.requiredTimeframes then tasks.error timeframe else none := by
  have hstage := h.stage
  simp only [FetchState.Stage, hresult] at hstage
  obtain ⟨hpending, hmain, hcollects, rfl⟩ := hstage
  have horder := h.order
  rw [hpending, List.append_nil] at horder
  exact ⟨horder, hmain, fun t ↦ horder ▸ ⟨hcollects.candles t, hcollects.errors t⟩⟩

/-- The outcome is the same in whatever order the tasks end, and whichever of them are left. -/
theorem fetchesConcurrently_of_settled (h : FetchInv plan tasks s) (hover : s.Over)
    (hsettled : ∀ timeframe ∈ plan.requiredTimeframes,
      timeframe ∈ s.ended ∧ timeframe ∈ s.awaited) :
    FetchesConcurrently plan tasks s := by
  obtain ⟨exc | bundle, hresult⟩ := Option.ne_none_iff_exists'.1 hover
  · have hok {bundle : MultiTimeframeFetchBundle} {P : Prop} (hb : s.result = some (.ok bundle)) :
        P := nomatch hresult.symm.trans hb
    exact ⟨iff_of_true ⟨exc, hresult⟩ (h.of_error hresult).2, fun _ hb ↦ hok hb, fun _ hb ↦ hok hb,
      fun _ hb ↦ hok hb, hsettled⟩
  · obtain ⟨-, hmain, hbundle⟩ := h.of_ok hresult
    have hok {b : MultiTimeframeFetchBundle} (hb : s.result = some (.ok b)) : b = bundle :=
      Except.ok.inj (Option.some.inj (hb.symm.trans hresult))
    refine ⟨iff_of_false (fun ⟨_, he⟩ ↦ nomatch hresult.symm.trans he) hmain, ?_, ?_, ?_, hsettled⟩
    · intro b hb t
      rw [hok hb, (hbundle t).1]
      split
      · next hmem => exact iff_of_true ⟨_, rfl⟩ hmem
      · next hmem => exact iff_of_false (fun ⟨_, hnone⟩ ↦ nomatch hnone) hmem
    · intro b hb t
      rw [hok hb, (hbundle t).2, ← Option.isSome_iff_exists]
      split
      · next hmem => rw [FetchTasks.error_isSome_iff, and_iff_right hmem]
      · next hmem => exact iff_of_false (fun hnone ↦ nomatch hnone) fun hand ↦ hmem hand.1
    · intro b hb t hmem hfails
      rw [hok hb, (hbundle t).1, if_pos hmem, FetchTasks.candles_of_fails hfails]

/-- If nothing is left un-awaited after the main task failed, then this was the only task. -/
theorem FetchInv.requiredTimeframes_eq (h : FetchInv plan tasks s) {exc : PyException}
    (hresult : s.result = some (.error exc))
    (hawait : ∀ timeframe ∈ plan.requiredTimeframes, timeframe ∈ s.awaited) :
    plan.requiredTimeframes = [plan.mainTimeframe] := by
  obtain ⟨hawaited, -⟩ := h.of_error hresult
  obtain ⟨others, hrequired⟩ := plan.exists_requiredTimeframes_eq_cons
  have hothers : others = [] := by
    refine List.eq_nil_iff_forall_not_mem.2 fun t ht ↦ ?_
    have hmain := hawait t (hrequired ▸ List.mem_cons_of_mem _ ht)
    rw [hawaited, List.mem_singleton] at hmain
    have hnodup := plan.nodup_requiredTimeframes
    rw [hrequired, List.nodup_cons] at hnodup
    exact hnodup.1 (hmain ▸ ht)
  exact hrequired.trans (hothers ▸ rfl)

/-- A fetch that is over has awaited every task, unless the main one failed before others. -/
theorem FetchInv.awaited_eq (h : FetchInv plan tasks s) (hover : s.Over)
    (hcond : ¬ tasks.Fails plan.mainTimeframe ∨ plan.requiredTimeframes = [plan.mainTimeframe]) :
    s.awaited = plan.requiredTimeframes := by
  obtain ⟨exc | bundle, hresult⟩ := Option.ne_none_iff_exists'.1 hover
  · obtain ⟨hawaited, hmain⟩ := h.of_error hresult
    rw [hawaited, hcond.resolve_left (not_not.2 hmain)]
  · exact (h.of_ok hresult).1

/-- **The concurrent fetch.** For every plan, every outcome of the tasks and every order in which
they end: `fetch` comes to an end, and when it has, it did what is asked of it exactly if the main
task succeeds or is the only one. -/
theorem fetchesConcurrently_iff {events : List FetchEvent}
    (hrun : run (fetchStep plan tasks) (.start plan) events = some s) :
    (∃ later t, run (fetchStep plan tasks) s later = some t ∧ t.Over) ∧
    (s.Over → (FetchesConcurrently plan tasks s ↔
      ¬ tasks.Fails plan.mainTimeframe ∨ plan.requiredTimeframes = [plan.mainTimeframe])) := by
  have h := fetchInv_of_run hrun
  refine ⟨?_, fun hover ↦ ?_⟩
  · exact exists_run_final (fun h hs ↦ fetchInv_step h hs) (fun h hs ↦ cost_lt_of_fetchStep h hs)
      exists_fetchStep h
  constructor
  · intro hdone
    by_cases hmain : tasks.Fails plan.mainTimeframe
    · obtain ⟨exc, hresult⟩ := hdone.raises.2 hmain
      exact .inr (h.requiredTimeframes_eq hresult fun t ht ↦ (hdone.settled t ht).2)
    · exact .inl hmain
  · intro hcond
    refine fetchesConcurrently_of_settled h hover fun t ht ↦ ?_
    have hawait : t ∈ s.awaited := h.awaited_eq hover hcond ▸ ht
    exact ⟨h.awaited_ended t hawait, hawait⟩

end Invariant

/-- Tasks of which one fails. -/
def oneFailing (failing : DataTimeframe) : FetchTasks where
  outcome timeframe :=
    if timeframe = failing then .error (.runtimeError "unavailable")
    else .ok [⟨⟨0, some 0⟩, 1, 1, 1, 1, 0⟩]
  text
    | .runtimeError message => message
    | _ => ""

/-- Without weekly candles an hourly analysis is fetched, whatever the order. -/
theorem fetchesConcurrently_weekly_fails :
    let plan := resolveAnalysisTimeframes .h1
    let events : List FetchEvent := [.taskEnds .w1, .taskEnds .h1, .resume, .taskEnds .m15,
      .taskEnds .d1, .resume, .resume, .resume, .resume]
    ∃ s, run (fetchStep plan (oneFailing .w1)) (.start plan) events = some s ∧
      (∃ later t, run (fetchStep plan (oneFailing .w1)) s later = some t ∧ t.Over) ∧
      (FetchesConcurrently plan (oneFailing .w1) s ↔
        ¬ (oneFailing .w1).Fails plan.mainTimeframe ∨
          plan.requiredTimeframes = [plan.mainTimeframe]) := by
  intro plan events
  have hreturns : ((run (fetchStep plan (oneFailing .w1)) (.start plan) events).any
      fun s ↦ s.result.isSome) = true := by
    decide +kernel
  obtain ⟨s, hs, hresult⟩ := (Option.any_eq_true _ _).1 hreturns
  obtain ⟨hends, hover⟩ := fetchesConcurrently_iff hs
  exact ⟨s, hs, hends, hover fun hnone ↦ nomatch hnone ▸ hresult⟩

/-- When the hourly candles fail first, `fetch` raises while the three other tasks are running, and
awaits none of them. -/
theorem fetch_leaves_tasks_running :
    let plan := resolveAnalysisTimeframes .h1
    ∃ s, run (fetchStep plan (oneFailing .h1)) (.start plan) [.taskEnds .h1, .resume] = some s ∧
      s.result = some (.error (.runtimeError "unavailable")) ∧
      (∀ timeframe ∈ [DataTimeframe.d1, .w1, .m15], timeframe ∈ plan.requiredTimeframes ∧
        timeframe ∉ s.ended ∧ timeframe ∉ s.awaited) ∧
      ¬ FetchesConcurrently plan (oneFailing .h1) s := by
  refine ⟨_, rfl, rfl, by decide, fun h ↦ ?_⟩
  exact absurd (h.settled .d1 (by decide)).2 (by decide)

end InvestmentAssistant
