import InvestmentAssistant.Foundation.CollectLoop
import InvestmentAssistant.FundamentalAnalysis.FredRuns

/-!
# The calls of the FRED source

What a call of `fetch_indicator_observation` hands to the code that awaits it. Every exception of
the API is caught where it is raised and becomes a series that brought nothing, so a call that is
not cancelled waits for the API or has returned an observation or none (`onCourse_of_run`). And it
does return: each answer of the API uses up one of the attempts that are left to the call
(`attemptsLeft`), whatever the answer is (`exists_fredFetch`).
-/

namespace InvestmentAssistant

open CollectLoop Transition

variable {F : Type} {configured : Bool} {s s' : FredState F} {e : FredEvent F} {call : ℕ}
  {es : List (FredEvent F)} {c : FredCall} {lookbackDays : ℤ}

/-! ### On course -/

/-- A call waits for the API, or it has returned an observation or none. -/
inductive FredPhase.OnCourse : FredPhase F → Prop
  | awaitInfo (c : FredCall) (attempt : ℕ) : OnCourse (.awaitInfo c attempt)
  | awaitData (c : FredCall) (attempt : ℕ) : OnCourse (.awaitData c attempt)
  | returned (observation : Option (FredObservation F)) :
    OnCourse (.finished (.observed observation))

theorem onCourse_advance {phase : FredPhase F} (h : phase.OnCourse) :
    ((s.advance call phase).phase call).OnCourse :=
  (phase_advance s call phase).symm ▸ h

theorem phase_request (s : FredState F) (call : ℕ) (c : FredCall) (frequencyShort : Option String) :
    (s.request call c frequencyShort).phase call = .awaitData c 1 :=
  Function.update_self ..

theorem onCourse_request (s : FredState F) (call : ℕ) (c : FredCall)
    (frequencyShort : Option String) :
    ((s.request call c frequencyShort).phase call).OnCourse :=
  (phase_request s call c frequencyShort).symm ▸ .awaitData c 1

theorem onCourse_resolve (s : FredState F) (c : FredCall) :
    ((s.resolve call c).phase call).OnCourse := by
  rw [FredState.resolve]
  split
  · exact onCourse_request ..
  · split
    · exact onCourse_request ..
    · exact onCourse_advance (.awaitInfo c 1)

/-- A call that goes through its series is on course after it. -/
theorem onCourse_walk (s : FredState F) (chain : List String) :
    ((s.walk configured lookbackDays call chain).phase call).OnCourse := by
  induction chain generalizing s with
  | nil => exact onCourse_advance (.returned none)
  | cons seriesId rest ih =>
    rw [FredState.walk]
    split
    · exact onCourse_advance (.returned _)
    · exact ih s
    · split
      · exact onCourse_resolve s _
      · exact ih (s.fail seriesId)

/-- Another call than the one that moves keeps its phase. -/
theorem onCourse_of_moved {mover : ℕ} {phase : FredPhase F} (h : (s.phase call).OnCourse)
    (hphase : s'.phase = Function.update s.phase mover phase)
    (hmover : call = mover → phase.OnCourse) : (s'.phase call).OnCourse := by
  rw [hphase]
  by_cases hcall : call = mover
  · rw [hcall, Function.update_self]
    exact hmover hcall
  · rwa [Function.update_of_ne hcall]

/-- The same for a call that goes through its series. -/
theorem onCourse_of_walk {mover : ℕ} (t : FredState F) (h : (s.phase call).OnCourse)
    (hphase : t.phase = s.phase) (chain : List String) :
    ((t.walk configured lookbackDays mover chain).phase call).OnCourse := by
  by_cases hcall : call = mover
  · rw [hcall]
    exact onCourse_walk t chain
  · have hmoves : MovesOn t (t.walk configured lookbackDays mover chain) mover chain :=
      movesOn_walk t chain
    obtain ⟨-, phase, hmoved, -⟩ := hmoves
    rwa [hmoved, Function.update_of_ne hcall, hphase]

/-- **A call stays on course** in every step but its cancellation. -/
theorem onCourse_step (h : (s.phase call).OnCourse) (hcancel : e ≠ .cancel call)
    (hstep : fredStep configured s e = some s') : (s'.phase call).OnCourse := by
  cases fredMove_of_step hstep with
  | tick => exact h
  | evict => exact h
  | start chain lookbackDays => exact onCourse_of_walk (s.start _ chain) h rfl chain
  | cachedValue hidle =>
    refine onCourse_of_moved h rfl ?_
    -- a call that is on course has started
    rintro rfl
    rw [hidle] at h
    cases h
  | retryInfo => exact onCourse_of_moved h rfl fun _ ↦ .awaitInfo _ _
  | infoFailed => exact onCourse_of_moved h rfl fun _ ↦ .awaitData _ 1
  | infoAnswered => exact onCourse_of_moved h rfl fun _ ↦ .awaitData _ 1
  | retryData => exact onCourse_of_moved h rfl fun _ ↦ .awaitData _ _
  | dataFailed => exact onCourse_of_walk (s.fail _) h rfl _
  | dataAnswered observation => exact onCourse_of_moved h rfl fun _ ↦ .returned (some observation)
  | cancel mover => exact onCourse_of_moved h rfl fun hcall ↦ absurd (hcall ▸ rfl) hcancel

/-- **A call is on course** throughout every run without its cancellation. -/
theorem onCourse_of_run (h : (s.phase call).OnCourse) (hcancel : .cancel call ∉ es)
    (hrun : run (fredStep configured) s es = some s') : (s'.phase call).OnCourse := by
  have hguard : AllSteps (fredStep configured) (fun _ e ↦ True ∧ e ≠ .cancel call) s es :=
    (allSteps_of_forall (fun _ _ ↦ trivial) _ _).and_of_mem fun e he ↦ ne_of_mem_of_not_mem he
      hcancel
  exact invariant_run_of_guard (fun h hg hstep ↦ onCourse_step h hg.2 hstep) h hguard hrun

/-! ### The answer to a call -/

/-- A call of `fetch_indicator_observation`, in a run of the source, that was not cancelled and
waits no longer. -/
structure FredFetch (F : Type) (indicatorName : String) (lookbackDays : ℤ) where
  configured : Bool
  before : List (FredEvent F)
  call : ℕ
  after : List (FredEvent F)
  final : FredState F
  run_eq : run (fredStep configured) {}
    (before ++ .fetchIndicatorObservation call indicatorName lookbackDays :: after) = some final
  uncancelled : .cancel call ∉ after
  ended : (final.phase call).todo = []

section Fetch

variable {indicatorName : String}

/-- What the call hands to the code that awaits it; whatever else has become of it is an
exception. -/
def FredFetch.answer (fetch : FredFetch F indicatorName lookbackDays) :
    Except PyException (Option (FredObservation F)) :=
  match fetch.final.phase fetch.call with
  | .finished (.observed observation) => .ok observation
  | _ => .error (.other "CancelledError")

/-- A call that is started is on course. -/
theorem onCourse_of_start
    (h : fredStep configured s (.fetchIndicatorObservation call indicatorName lookbackDays) =
      some s') : (s'.phase call).OnCourse := by
  simp only [fredStep] at h
  split at h
  · obtain rfl := Option.some.inj h
    exact onCourse_walk ..
  · cases h

/-- **The source raises nothing**: its answer is an observation or none. -/
theorem FredFetch.returns_answer (fetch : FredFetch F indicatorName lookbackDays) :
    Returns fetch.answer := by
  obtain ⟨s, -, hrun⟩ := Option.bind_eq_some_iff.1 ((run_append ..).symm.trans fetch.run_eq)
  obtain ⟨t, hstart, hrest⟩ := run_cons_eq_some_iff.1 hrun
  have honCourse := onCourse_of_run (onCourse_of_start hstart) fetch.uncancelled hrest
  have hended := fetch.ended
  rw [answer]
  cases hphase : fetch.final.phase fetch.call with
  | finished result =>
    rw [hphase] at honCourse
    cases honCourse
    exact returns_ok _
  | idle =>
    rw [hphase] at honCourse
    cases honCourse
  | cancelled =>
    rw [hphase] at honCourse
    cases honCourse
  | awaitInfo c attempt =>
    rw [hphase] at hended
    cases hended
  | awaitData c attempt =>
    rw [hphase] at hended
    cases hended

end Fetch

/-- Without an API key nothing is asked for, so a call returns at once. -/
theorem todo_walk_unconfigured (s : FredState F) (chain : List String) :
    ((s.walk false lookbackDays call chain).phase call).todo = [] := by
  induction chain generalizing s with
  | nil =>
    rw [FredState.walk, phase_advance]
    rfl
  | cons seriesId rest ih =>
    rw [FredState.walk]
    split
    · rw [phase_advance]
      rfl
    · exact ih s
    · exact ih (s.fail seriesId)

/-- The first call of a source without an API key. -/
def unconfiguredFetch (indicatorName : String) (lookbackDays : ℤ) :
    FredFetch F indicatorName lookbackDays where
  configured := false
  before := []
  call := 0
  after := []
  final := (({} : FredState F).start 0 (getIndicatorSeriesChain indicatorName)).walk false
    lookbackDays 0 (getIndicatorSeriesChain indicatorName)
  run_eq := rfl
  uncancelled := List.not_mem_nil
  ended := todo_walk_unconfigured _ _

/-! ### Every call that is answered returns -/

/-- The answers of the API, whichever a call waits for. -/
structure FredApi (F : Type) where
  info : ApiAnswer SeriesInfo
  data : ApiAnswer (List (SeriesRow F))
  today : ℤ

/-- The answer to a call; one that does not wait gets none. -/
def FredApi.answerTo (api : FredApi F) (call : ℕ) : FredPhase F → Option (FredEvent F)
  | .awaitInfo _ _ => some (.infoAnswer call api.info)
  | .awaitData _ _ => some (.dataAnswer call api.data api.today)
  | _ => none

/-- The API answers a call. -/
def answerStep (configured : Bool) (call : ℕ) (s : FredState F) (api : FredApi F) :
    Option (FredState F) :=
  (api.answerTo call (s.phase call)).bind (fredStep configured s)

/-- The attempts that are left to a call: up to three at the metadata of a series and three at its
data, for the series it is busy with and for those to try after it. -/
def FredPhase.attemptsLeft : FredPhase F → ℕ
  | .awaitInfo c attempt =>
    c.rest.length * (2 * maxRetries) + maxRetries + (maxRetries - attempt) + 1
  | .awaitData c attempt => c.rest.length * (2 * maxRetries) + (maxRetries - attempt) + 1
  | .idle | .finished _ | .cancelled => 0

theorem attemptsLeft_resolve_le (s : FredState F) (c : FredCall) :
    ((s.resolve call c).phase call).attemptsLeft ≤ (c.rest.length + 1) * (2 * maxRetries) := by
  have hdata : (FredPhase.awaitData c 1 : FredPhase F).attemptsLeft ≤
      (c.rest.length + 1) * (2 * maxRetries) := by
    simp only [FredPhase.attemptsLeft, maxRetries]
    omega
  rw [FredState.resolve]
  split
  · rwa [phase_request]
  · split
    · rwa [phase_request]
    · rw [phase_advance]
      simp only [FredPhase.attemptsLeft, maxRetries]
      omega

/-- A call that goes through its series has at most six attempts for each. -/
theorem attemptsLeft_walk_le (s : FredState F) (chain : List String) :
    ((s.walk configured lookbackDays call chain).phase call).attemptsLeft ≤
      chain.length * (2 * maxRetries) := by
  induction chain generalizing s with
  | nil =>
    rw [FredState.walk, phase_advance]
    exact Nat.zero_le _
  | cons seriesId rest ih =>
    have hrest : rest.length * (2 * maxRetries) ≤ (seriesId :: rest).length * (2 * maxRetries) :=
      Nat.mul_le_mul_right _ (Nat.le_succ _)
    rw [FredState.walk]
    split
    · rw [phase_advance]
      exact Nat.zero_le _
    · exact (ih s).trans hrest
    · split
      · exact attemptsLeft_resolve_le s _
      · exact (ih (s.fail seriesId)).trans hrest

theorem attemptsLeft_takeInfo_lt (s : FredState F) (attempt : ℕ) (answer : ApiAnswer SeriesInfo) :
    ((s.takeInfo call c attempt answer).phase call).attemptsLeft <
      (FredPhase.awaitInfo c attempt : FredPhase F).attemptsLeft := by
  have hdata : (FredPhase.awaitData c 1 : FredPhase F).attemptsLeft <
      (FredPhase.awaitInfo c attempt : FredPhase F).attemptsLeft := by
    simp only [FredPhase.attemptsLeft, maxRetries]
    omega
  rcases answer with _ | _ | _ | metadata
  · rw [FredState.takeInfo]
    split
    · next hlt =>
      rw [phase_advance]
      simp only [FredPhase.attemptsLeft]
      omega
    · rwa [phase_request]
  · rwa [FredState.takeInfo, phase_request]
  · rwa [FredState.takeInfo, phase_request]
  · rwa [FredState.takeInfo, phase_request]

theorem attemptsLeft_takeData_lt (s : FredState F) (attempt : ℕ) (today : ℤ)
    (answer : ApiAnswer (List (SeriesRow F))) :
    ((s.takeData configured call c attempt today answer).phase call).attemptsLeft <
      (FredPhase.awaitData c attempt : FredPhase F).attemptsLeft := by
  have hwalk : (((s.fail c.seriesId).walk configured c.lookbackDays call c.rest).phase
      call).attemptsLeft < (FredPhase.awaitData c attempt : FredPhase F).attemptsLeft := by
    refine (attemptsLeft_walk_le (s.fail c.seriesId) c.rest).trans_lt ?_
    simp only [FredPhase.attemptsLeft]
    omega
  rcases answer with _ | _ | data
  · rw [FredState.takeData]
    split
    · next hlt =>
      rw [phase_advance]
      simp only [FredPhase.attemptsLeft]
      omega
    · exact hwalk
  · exact hwalk
  · rw [FredState.takeData]
    split
    · exact hwalk
    · rw [phase_advance]
      exact Nat.succ_pos _

/-- **Every answer uses up an attempt.** -/
theorem exists_answerStep (configured : Bool) (call : ℕ) (s : FredState F) (api : FredApi F)
    (h : (s.phase call).todo ≠ []) :
    ∃ s', answerStep configured call s api = some s' ∧
      (s'.phase call).attemptsLeft < (s.phase call).attemptsLeft := by
  rw [answerStep]
  cases hphase : s.phase call with
  | awaitInfo c attempt =>
    refine ⟨s.takeInfo call c attempt api.info, ?_, attemptsLeft_takeInfo_lt ..⟩
    simp only [FredApi.answerTo, Option.bind_some, fredStep, hphase]
  | awaitData c attempt =>
    refine ⟨s.takeData configured call c attempt api.today api.data, ?_,
      attemptsLeft_takeData_lt ..⟩
    simp only [FredApi.answerTo, Option.bind_some, fredStep, hphase]
  | idle => exact absurd (congrArg FredPhase.todo hphase) h
  | finished result => exact absurd (congrArg FredPhase.todo hphase) h
  | cancelled => exact absurd (congrArg FredPhase.todo hphase) h

/-- The answers to a call are events of the source, and none is a cancellation. -/
theorem exists_run_of_answers {apis : List (FredApi F)}
    (h : run (answerStep configured call) s apis = some s') :
    ∃ es, run (fredStep configured) s es = some s' ∧ .cancel call ∉ es := by
  induction apis generalizing s with
  | nil => exact ⟨[], h, List.not_mem_nil⟩
  | cons api apis ih =>
    obtain ⟨t, ht, hrest⟩ := run_cons_eq_some_iff.1 h
    obtain ⟨e, he, hstep⟩ := Option.bind_eq_some_iff.1 ht
    obtain ⟨es, hes, hcancel⟩ := ih hrest
    refine ⟨e :: es, run_cons_eq_some_iff.2 ⟨t, hstep, hes⟩, ?_⟩
    have hne : e ≠ .cancel call := by
      rintro rfl
      cases hphase : s.phase call <;> rw [hphase] at he <;> cases he
    exact List.not_mem_cons_of_ne_of_not_mem hne.symm hcancel

/-- After its start, the call was answered by these answers of the API, and by nothing else. -/
def FredFetch.AnsweredBy {indicatorName : String} (fetch : FredFetch F indicatorName lookbackDays)
    (apis : ℕ → FredApi F) : Prop :=
  ∃ started n, run (fredStep fetch.configured) {} (fetch.before ++
      [.fetchIndicatorObservation fetch.call indicatorName lookbackDays]) = some started ∧
    run (answerStep fetch.configured fetch.call) started ((List.range n).map apis) =
      some fetch.final

/-- **Every call that is answered returns**: from every state that the source can reach, whatever
the API answers. -/
theorem exists_fredFetch (hrun : run (fredStep configured) {} es = some s)
    (hidle : s.phase call = .idle) (indicatorName : String) (lookbackDays : ℤ)
    (apis : ℕ → FredApi F) :
    ∃ fetch : FredFetch F indicatorName lookbackDays, fetch.configured = configured ∧
      fetch.before = es ∧ fetch.call = call ∧ fetch.AnsweredBy apis := by
  have hstart : fredStep configured s (.fetchIndicatorObservation call indicatorName lookbackDays) =
      some ((s.start call (getIndicatorSeriesChain indicatorName)).walk configured lookbackDays call
        (getIndicatorSeriesChain indicatorName)) := by
    simp only [fredStep, hidle]
  obtain ⟨n, final, hanswers, hended⟩ :=
    @exists_take_final _ _ (answerStep configured call) (fun s ↦ (s.phase call).todo = [])
      (fun s ↦ (s.phase call).attemptsLeft)
      (fun s api h ↦ exists_answerStep configured call s api h) apis
      ((s.start call (getIndicatorSeriesChain indicatorName)).walk configured lookbackDays call
        (getIndicatorSeriesChain indicatorName))
  obtain ⟨after, hafter, hcancel⟩ := exists_run_of_answers hanswers
  refine ⟨⟨configured, es, call, after, final, ?_, hcancel, hended⟩, rfl, rfl, rfl, _, n, ?_,
    hanswers⟩
  · rw [run_append, hrun]
    exact run_cons_eq_some_iff.2 ⟨_, hstart, hafter⟩
  · exact run_concat_eq_some_iff.2 ⟨s, hrun, hstart⟩

end InvestmentAssistant
