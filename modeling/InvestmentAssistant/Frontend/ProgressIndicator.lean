import InvestmentAssistant.Api.AnalysisSocket
import InvestmentAssistant.Orchestration.StepNames

/-!
# The progress indicator

`ProgressIndicator` shows the progress of an analysis in the browser. It keeps the last message of
its socket, whichever kind that is, shows what it finds of a status in it, and recognises a step by
the first word of its name.

Two steps share a first word, so a status is shown as it is exactly when it is `Unambiguous`, and
any other message is shown as a new analysis (`shown_status_iff`, `shown_blank_iff`).
-/

namespace InvestmentAssistant

/-- `MAX_RECONNECT_ATTEMPTS`. -/
def maxReconnectAttempts : ℕ := 5

/-- `PIPELINE_STEPS` of the component. -/
def progressSteps : List String :=
  ["Pobieranie danych", "Analiza techniczna", "Rozpoznawanie formacji", "Analiza fundamentalna",
    "Agregacja sygnałów", "Generowanie strategii"]

/-! ### The component -/

/-- The calls of `onComplete` and `onError`. -/
inductive IndicatorCall
  | complete
  | error (message : String)
  deriving DecidableEq, Repr

/-- The state of a mounted component, and what it called. -/
structure ProgressIndicator where
  status : Option SocketMessage := none
  reconnectAttempt : ℕ := 0
  /-- The delay of the pending timer, in milliseconds. -/
  reconnectTimer : Option ℕ := none
  calls : List IndicatorCall := []
  deriving DecidableEq, Repr

/-- `text || default`. -/
def orDefault (text : Option String) (default : String) : String :=
  if text.getD "" = "" then default else text.getD ""

namespace ProgressIndicator

/-- What a message makes the component call. -/
def callsFor (m : SocketMessage) : List IndicatorCall :=
  match m.status? with
  | none => []
  | some status =>
    match status.status with
    | .completed => [.complete]
    | .failed => [.error (orDefault status.errorMessage "Analiza zakończyła się błędem")]
    | _ => []

/-- `onMessage`. -/
def onMessage (c : ProgressIndicator) (m : SocketMessage) : ProgressIndicator :=
  { c with reconnectAttempt := 0, status := some m, calls := c.calls ++ callsFor m }

/-- `onError`. -/
def onError (c : ProgressIndicator) : ProgressIndicator :=
  if c.reconnectAttempt < maxReconnectAttempts then
    { c with
      reconnectAttempt := c.reconnectAttempt + 1
      reconnectTimer := some (min (1000 * 2 ^ c.reconnectAttempt) 16000) }
  else
    { c with calls := c.calls ++ [.error "Utracono połączenie z serwerem"] }

end ProgressIndicator

/-! ### What is shown -/

/-- `toLowerCase`; the names are in ASCII letters, up to `ł` and `ó`. -/
def toLowerCase (name : String) : List Char :=
  name.toList.map Char.toLower

/-- `step.toLowerCase().split(" ")[0]`. -/
def firstWord (step : String) : List Char :=
  (toLowerCase step).takeWhile (· ≠ ' ')

/-- A reported name is taken for a step. -/
def recognises (step reported : String) : Bool :=
  decide (firstWord step <:+: toLowerCase reported)

/-- The icons of a step: a tick, a pulse, or a dot. -/
inductive StepIcon
  | completed
  | current
  | waiting
  deriving DecidableEq, Repr

/-- `StepIcon`. -/
def stepIcon (isCompleted isCurrent : Bool) : StepIcon :=
  if isCompleted then .completed else if isCurrent then .current else .waiting

/-- The number, the bar and the steps. -/
structure ShownProgress where
  percent : ℤ
  width : ℚ
  steps : List (String × StepIcon)
  deriving DecidableEq, Repr

/-- And the box with the error of a failed analysis. -/
structure IndicatorView extends ShownProgress where
  failure : Option String
  deriving DecidableEq, Repr

/-- `Math.round`. -/
def mathRound (x : ℚ) : ℤ :=
  ⌊x + 1 / 2⌋

/-- The progress of an analysis, with the icon of every step. -/
def showProgress (progressPct : ℚ) (isCompleted isCurrent : String → Bool) : ShownProgress where
  percent := mathRound progressPct
  width := progressPct
  steps := progressSteps.map fun step ↦ (step, stepIcon (isCompleted step) (isCurrent step))

/-- What `ProgressIndicator` renders for the message it keeps. -/
def ProgressIndicator.view (c : ProgressIndicator) : IndicatorView :=
  let status := c.status.bind SocketMessage.status?
  let completedSteps := (status.map (·.stepsCompleted)).getD []
  let currentStep := (status.map (·.currentStep)).getD ""
  { toShownProgress := showProgress ((status.map (·.progressPct)).getD 0)
      (fun step ↦ completedSteps.any (recognises step)) fun step ↦ recognises step currentStep
    failure := status.bind fun status ↦
      if status.status = .failed then
        some (orDefault status.errorMessage "Wystąpił błąd podczas analizy")
      else none }

/-- The name the server has for a step: the one at the same place of its list. -/
def reportedName (step : String) : String :=
  (pipelineSteps[progressSteps.idxOf step]?).getD step

/-- What a status says, step by step; without a status, nothing was done. -/
def reportedProgress (status : Option AnalysisStatus) : ShownProgress :=
  showProgress ((status.map (·.progressPct)).getD 0)
    (fun step ↦ decide (∃ s ∈ status, reportedName step ∈ s.stepsCompleted))
    fun step ↦ decide (∃ s ∈ status, reportedName step = s.currentStep)

/-! ### Recognised steps -/

/-- The steps whose names begin with the same word. -/
def sharedWord : List String := ["Analiza techniczna", "Analiza fundamentalna"]

/-- Neither or both of the steps with a shared word are completed, and while they are not, neither
is running: so it is before the technical analysis, and after the fundamental one. -/
structure AnalysisStatus.Unambiguous (status : AnalysisStatus) : Prop where
  completed : "Analiza techniczna" ∈ status.stepsCompleted ↔
    "Analiza fundamentalna" ∈ status.stepsCompleted
  current : status.currentStep ∈ sharedWord → "Analiza techniczna" ∈ status.stepsCompleted

/-- A status that says nothing. -/
structure AnalysisStatus.Blank (status : AnalysisStatus) : Prop where
  progress : status.progressPct = 0
  completed : status.stepsCompleted = []
  current : status.currentStep = ""

/-- A reported step is taken for itself, and for the one it shares its first word with. -/
theorem recognises_iff {step reported : String} (hstep : step ∈ progressSteps)
    (hreported : reported ∈ pipelineSteps) :
    recognises step reported = true ↔
      reportedName step = reported ∨ step ∈ sharedWord ∧ reported ∈ sharedWord := by
  have htable : ∀ step ∈ progressSteps, ∀ reported ∈ pipelineSteps,
      (recognises step reported = true ↔
        reportedName step = reported ∨ step ∈ sharedWord ∧ reported ∈ sharedWord) := by
    decide +kernel
  exact htable step hstep reported hreported

/-- Nothing is taken for a step when none is running. -/
theorem recognises_empty {step : String} (hstep : step ∈ progressSteps) :
    recognises step "" = false ∧ reportedName step ≠ "" := by
  have htable : ∀ step ∈ progressSteps, recognises step "" = false ∧ reportedName step ≠ "" := by
    decide +kernel
  exact htable step hstep

theorem reportedName_of_mem_sharedWord {step : String} (hstep : step ∈ sharedWord) :
    step ∈ progressSteps ∧ reportedName step = step := by
  have htable : ∀ step ∈ sharedWord, step ∈ progressSteps ∧ reportedName step = step := by
    decide +kernel
  exact htable step hstep

/-- Every step of the pipeline is shown. -/
theorem exists_reportedName {stepName : String} (h : stepName ∈ pipelineSteps) :
    ∃ step ∈ progressSteps, reportedName step = stepName := by
  have htable : ∀ stepName ∈ pipelineSteps,
      ∃ step ∈ progressSteps, reportedName step = stepName := by
    decide +kernel
  exact htable stepName h

section Status

variable {status : AnalysisStatus} {step : String}

/-- The steps shown as completed. -/
theorem any_recognises_iff (h : status.NamesSteps) (hstep : step ∈ progressSteps) :
    status.stepsCompleted.any (recognises step) = true ↔
      reportedName step ∈ status.stepsCompleted ∨
        step ∈ sharedWord ∧ ∃ stepName ∈ status.stepsCompleted, stepName ∈ sharedWord := by
  rw [List.any_eq_true]
  constructor
  · rintro ⟨stepName, hmem, hrec⟩
    obtain heq | ⟨hshared, hname⟩ := (recognises_iff hstep (h.completed stepName hmem)).1 hrec
    · exact Or.inl (heq ▸ hmem)
    · exact Or.inr ⟨hshared, stepName, hmem, hname⟩
  · rintro (hmem | ⟨hshared, stepName, hmem, hname⟩)
    · exact ⟨_, hmem, (recognises_iff hstep (h.completed _ hmem)).2 (Or.inl rfl)⟩
    · exact ⟨stepName, hmem,
        (recognises_iff hstep (h.completed _ hmem)).2 (Or.inr ⟨hshared, hname⟩)⟩

/-- The steps shown as running, if they are not completed. -/
theorem recognises_currentStep_iff (h : status.NamesSteps) (hstep : step ∈ progressSteps) :
    recognises step status.currentStep = true ↔
      reportedName step = status.currentStep ∨
        step ∈ sharedWord ∧ status.currentStep ∈ sharedWord := by
  obtain hnone | hcurrent := h.current
  · obtain ⟨hrec, hname⟩ := recognises_empty hstep
    have hempty : "" ∉ sharedWord := by decide +kernel
    rw [hnone, hrec]
    exact iff_of_false Bool.false_ne_true fun hor ↦ hor.elim hname fun hand ↦ hempty hand.2
  · exact recognises_iff hstep hcurrent

theorem mem_sharedWord_iff :
    step ∈ sharedWord ↔ step = "Analiza techniczna" ∨ step = "Analiza fundamentalna" := by
  simp [sharedWord]

/-- Both steps with the shared word are completed once one of them is. -/
theorem AnalysisStatus.Unambiguous.mem_stepsCompleted (h : status.Unambiguous) {stepName : String}
    (hmem : stepName ∈ status.stepsCompleted) (hname : stepName ∈ sharedWord)
    (hshared : step ∈ sharedWord) : step ∈ status.stepsCompleted := by
  have htechnical : "Analiza techniczna" ∈ status.stepsCompleted := by
    obtain rfl | rfl := mem_sharedWord_iff.1 hname
    · exact hmem
    · exact h.completed.2 hmem
  obtain rfl | rfl := mem_sharedWord_iff.1 hshared
  · exact htechnical
  · exact h.completed.1 htechnical

end Status

/-! ### When the progress is shown as reported -/

theorem stepIcon_eq_iff {isCompleted isCompleted' isCurrent isCurrent' : Bool} :
    stepIcon isCompleted isCurrent = stepIcon isCompleted' isCurrent' ↔
      (isCompleted = true ↔ isCompleted' = true) ∧
        (isCompleted = false → (isCurrent = true ↔ isCurrent' = true)) := by
  revert isCompleted isCompleted' isCurrent isCurrent'
  decide

theorem showProgress_eq_iff {x y : ℚ}
    {isCompleted isCompleted' isCurrent isCurrent' : String → Bool} :
    showProgress x isCompleted isCurrent = showProgress y isCompleted' isCurrent' ↔
      x = y ∧ ∀ step ∈ progressSteps, stepIcon (isCompleted step) (isCurrent step) =
        stepIcon (isCompleted' step) (isCurrent' step) := by
  rw [showProgress, showProgress, ShownProgress.mk.injEq, List.map_inj_left]
  constructor
  · rintro ⟨-, hwidth, hsteps⟩
    exact ⟨hwidth, fun step hstep ↦ (Prod.mk.inj (hsteps step hstep)).2⟩
  · rintro ⟨rfl, hsteps⟩
    exact ⟨rfl, rfl, fun step hstep ↦ Prod.ext rfl (hsteps step hstep)⟩

/-- **A status is shown as it is exactly when it is unambiguous.** -/
theorem shown_status_iff {c : ProgressIndicator} {status : AnalysisStatus} (h : status.NamesSteps)
    (hc : c.status = some (.status status)) :
    c.view.toShownProgress = reportedProgress (some status) ↔ status.Unambiguous := by
  have hview : c.view.toShownProgress = showProgress status.progressPct
      (fun step ↦ status.stepsCompleted.any (recognises step))
      fun step ↦ recognises step status.currentStep := by
    rw [ProgressIndicator.view, hc]
    rfl
  rw [hview, reportedProgress, showProgress_eq_iff]
  simp only [stepIcon_eq_iff, Bool.eq_false_iff, ne_eq, decide_eq_true_iff, Option.mem_some_iff,
    exists_eq_left', Option.map_some, Option.getD_some, true_and]
  constructor
  · intro hsteps
    -- what the two steps with a shared word are shown as
    have hshared : ∀ step ∈ sharedWord,
        ((∃ stepName ∈ status.stepsCompleted, stepName ∈ sharedWord) →
          step ∈ status.stepsCompleted) ∧
          (status.currentStep ∈ sharedWord → step ∉ status.stepsCompleted →
            step = status.currentStep) := by
      intro step hstep
      obtain ⟨hmem, hname⟩ := reportedName_of_mem_sharedWord hstep
      obtain ⟨hcompleted, hcurrent⟩ := hsteps step hmem
      rw [any_recognises_iff h hmem, hname] at hcompleted hcurrent
      rw [recognises_currentStep_iff h hmem, hname] at hcurrent
      refine ⟨fun hex ↦ hcompleted.1 (Or.inr ⟨hstep, hex⟩), fun hcur hnot ↦ ?_⟩
      exact (hcurrent fun hany ↦ hnot (hcompleted.1 hany)).1 (Or.inr ⟨hstep, hcur⟩)
    obtain ⟨htechnical, hrunning⟩ := hshared "Analiza techniczna" (by decide)
    obtain ⟨hfundamental, hrunning'⟩ := hshared "Analiza fundamentalna" (by decide)
    have hiff : "Analiza techniczna" ∈ status.stepsCompleted ↔
        "Analiza fundamentalna" ∈ status.stepsCompleted :=
      ⟨fun hmem ↦ hfundamental ⟨_, hmem, by decide⟩, fun hmem ↦ htechnical ⟨_, hmem, by decide⟩⟩
    refine ⟨hiff, fun hcur ↦ by_contra fun hnot ↦ ?_⟩
    have heq := (hrunning hcur hnot).trans (hrunning' hcur fun hmem ↦ hnot (hiff.2 hmem)).symm
    exact absurd heq (by decide)
  · intro hstatus step hstep
    rw [any_recognises_iff h hstep, recognises_currentStep_iff h hstep]
    refine ⟨or_iff_left_of_imp ?_, fun hnot ↦ or_iff_left_of_imp ?_⟩
    · rintro ⟨hshared, stepName, hmem, hname⟩
      rw [(reportedName_of_mem_sharedWord hshared).2]
      exact hstatus.mem_stepsCompleted hmem hname hshared
    · rintro ⟨hshared, hcur⟩
      exact absurd (Or.inr ⟨hshared, "Analiza techniczna", hstatus.current hcur, by decide⟩) hnot

/-- **A message that is no status is shown like a blank one.** -/
theorem shown_blank_iff {c : ProgressIndicator} {m : SocketMessage} {last : Option AnalysisStatus}
    (h : ∀ status ∈ last, status.NamesSteps) (hc : c.status = some m) (hm : m.status? = none) :
    c.view.toShownProgress = reportedProgress last ↔ ∀ status ∈ last, status.Blank := by
  have hview : c.view.toShownProgress = reportedProgress none := by
    rw [ProgressIndicator.view, hc]
    show showProgress ((m.status?.map _).getD 0) _ _ = _
    rw [hm, reportedProgress, showProgress_eq_iff]
    refine ⟨rfl, fun step hstep ↦ ?_⟩
    simp [hm, (recognises_empty hstep).1]
  rw [hview]
  cases last with
  | none => simp
  | some status =>
    have hnames := h status rfl
    rw [reportedProgress, reportedProgress, showProgress_eq_iff]
    simp only [stepIcon_eq_iff, Bool.eq_false_iff, ne_eq, decide_eq_true_iff, Option.mem_some_iff,
      forall_eq', exists_eq_left', Option.map_some, Option.getD_some, Option.map_none,
      Option.getD_none, Option.not_mem_none, false_and, exists_false, not_false_eq_true,
      true_imp_iff]
    constructor
    · rintro ⟨hprogress, hsteps⟩
      refine ⟨hprogress.symm, List.eq_nil_iff_forall_not_mem.2 fun stepName hmem ↦ ?_, ?_⟩
      · obtain ⟨step, hstep, rfl⟩ := exists_reportedName (hnames.completed stepName hmem)
        exact (hsteps step hstep).1.2 hmem
      · refine hnames.current.resolve_right fun hcur ↦ ?_
        obtain ⟨step, hstep, hname⟩ := exists_reportedName hcur
        exact (hsteps step hstep).2.2 hname
    · rintro ⟨hprogress, hcompleted, hcurrent⟩
      refine ⟨hprogress.symm, fun step hstep ↦ ⟨?_, ?_⟩⟩
      · rw [hcompleted]
        exact iff_of_false id (List.not_mem_nil)
      · rw [hcurrent]
        exact iff_of_false id (recognises_empty hstep).2

end InvestmentAssistant
