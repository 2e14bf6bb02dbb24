import InvestmentAssistant.Foundation.Transition
import InvestmentAssistant.Frontend.ProgressIndicator

/-!
# The page

`HomePage` submits an analysis, shows a progress indicator for it, and fetches the report when the
indicator says that the analysis is complete. The requests of the page, the indicators and the
server take their steps whenever they like (`PageEvent`), so the runs of `HomePage.step` are all
interleavings. An indicator may still call after it has been unmounted: closing a socket that is not
yet open fires its error event, whose handler connects again.

The page keeps the id of its last analysis when the next one is submitted. Until the server has
answered, the indicator shown is one for the old id, so the old report may arrive in place of the
new one. A submission is safe from this exactly when nothing is pending that could bring a report:
the page awaits no other id, and every analysis that it has an id, an indicator or a request for has
failed; the first submission of a page is safe, and one after a report is not
(`submission_fresh_iff`).
-/

namespace InvestmentAssistant

open Transition

/-! ### The page -/

/-- `AppState`. -/
inductive AppState
  | idle
  | analyzing
  | done
  | error
  deriving DecidableEq, Repr

/-- A call of `handleAnalysisComplete` under way: it awaits the server, or its timer. -/
structure ReportFetch where
  analysisId : String
  attempt : ℕ := 0
  waits : Bool := false
  deriving DecidableEq, Repr

/-- The state of the page and of what it has started. A report is named by its analysis; the
indicators are named by the id for which they call. -/
structure HomePage where
  state : AppState := .idle
  analysisId : Option String := none
  report : Option String := none
  error : String := ""
  mounted : Option ℕ := none
  indicators : List String := []
  triggers : List ℕ := []
  fetches : List ReportFetch := []
  /-- The number of submissions, and the ids the server has given to them. -/
  submissions : ℕ := 0
  issued : List (ℕ × String) := []
  /-- The analyses that the server has completed, and those that have failed there. -/
  completed : List String := []
  failed : List String := []
  deriving DecidableEq, Repr

/-- What `getAnalysis` resolves to: a report, or a status. -/
inductive AnalysisAnswer
  | report
  | status
  deriving DecidableEq, Repr

/-- What can happen. -/
inductive PageEvent
  | submit
  | triggered (submission : ℕ) (analysisId : String)
  | triggerFailed (submission : ℕ) (message : Option String)
  | completes (analysisId : String)
  | fails (analysisId : String)
  /-- A message of the socket for an analysis reaches an indicator. -/
  | message (indicator : ℕ) (analysisId : String) (m : SocketMessage)
  | givesUp (indicator : ℕ)
  | answered (fetch : ReportFetch) (answer : AnalysisAnswer)
  | fetchFailed (fetch : ReportFetch) (message : Option String)
  | timerFires (fetch : ReportFetch)
  deriving DecidableEq, Repr

namespace HomePage

/-- The ids the server has given. -/
def ids (s : HomePage) : List String :=
  s.issued.map Prod.snd

/-- What is mounted after a change: an indicator while an analysis with an id is running; its
callbacks are those of the last rendering. -/
def render (s : HomePage) : HomePage :=
  match s.state, s.analysisId with
  | .analyzing, some id =>
    match s.mounted with
    | some i => { s with indicators := s.indicators.set i id }
    | none => { s with
        indicators := s.indicators ++ [id]
        mounted := some s.indicators.length }
  | _, _ => { s with mounted := none }

/-- `setState("error")` and `setError`. -/
def fail (s : HomePage) (message : String) : HomePage :=
  render { s with state := .error, error := message }

/-- `e instanceof Error ? "Błąd: " + e.message : default`. -/
def errorText (message : Option String) (default : String) : String :=
  match message with
  | some message => "Błąd: " ++ message
  | none => default

/-- `handleSubmit`. -/
def handleSubmit (s : HomePage) : HomePage :=
  render { s with
    state := .analyzing
    error := ""
    report := none
    submissions := s.submissions + 1
    triggers := s.triggers ++ [s.submissions + 1] }

/-- A callback of an indicator: `handleAnalysisComplete` up to its request, or
`handleAnalysisError`. -/
def handleCall (id : String) (s : HomePage) : IndicatorCall → HomePage
  | .complete => { s with fetches := s.fetches ++ [{ analysisId := id }] }
  | .error message => s.fail message

/-- `MAX_RETRIES`. -/
def maxRetries : ℕ := 3

/-- `handleAnalysisComplete` after an answer. -/
def takeAnswer (s : HomePage) (fetch : ReportFetch) : AnalysisAnswer → HomePage
  | .report => render { s with report := some fetch.analysisId, state := .done }
  | .status =>
    if fetch.attempt < maxRetries - 1 then
      { s with fetches := s.fetches ++ [{ fetch with waits := true }] }
    else s.fail "Błąd: nie udało się pobrać raportu po zakończeniu analizy"

/-- What the server says of an analysis is true. -/
def Truthful (s : HomePage) (id : String) (m : SocketMessage) : Prop :=
  ∀ status ∈ m.status?, (status.status = .completed → id ∈ s.completed) ∧
    (status.status = .failed → id ∈ s.failed)

instance (s : HomePage) (id : String) (m : SocketMessage) : Decidable (s.Truthful id m) :=
  inferInstanceAs (Decidable (∀ status ∈ m.status?, _ ∧ _))

/-- One event, when it can happen. The form is disabled during an analysis; the server names every
analysis anew, ends it once, as completed or as failed, says what is true of it, and has the reports
of the completed ones. -/
def step (s : HomePage) : PageEvent → Option HomePage
  | .submit => if s.state = .analyzing then none else some s.handleSubmit
  | .triggered submission id =>
    if submission ∈ s.triggers ∧ id ∉ s.ids then
      some (render { s with
        triggers := s.triggers.erase submission
        analysisId := some id
        issued := s.issued ++ [(submission, id)] })
    else none
  | .triggerFailed submission message =>
    if submission ∈ s.triggers then
      some (fail { s with triggers := s.triggers.erase submission }
        (errorText message "Błąd: nie udało się uruchomić analizy"))
    else none
  | .completes id =>
    if id ∈ s.ids ∧ id ∉ s.failed then some { s with completed := id :: s.completed } else none
  | .fails id =>
    if id ∈ s.ids ∧ id ∉ s.completed then some { s with failed := id :: s.failed } else none
  | .message i id m =>
    if id ∈ s.ids ∧ s.Truthful id m then
      (s.indicators[i]?).map fun calledFor ↦
        (ProgressIndicator.callsFor m).foldl (handleCall calledFor) s
    else none
  | .givesUp i =>
    (s.indicators[i]?).map fun calledFor ↦
      s.handleCall calledFor (.error "Utracono połączenie z serwerem")
  | .answered fetch answer =>
    if fetch ∈ s.fetches ∧ fetch.waits = false ∧
        (answer = .report → fetch.analysisId ∈ s.completed) then
      some (takeAnswer { s with fetches := s.fetches.erase fetch } fetch answer)
    else none
  | .fetchFailed fetch message =>
    if fetch ∈ s.fetches ∧ fetch.waits = false then
      some (fail { s with fetches := s.fetches.erase fetch }
        (errorText message "Błąd: nie udało się pobrać raportu"))
    else none
  | .timerFires fetch =>
    if fetch ∈ s.fetches ∧ fetch.waits = true then
      some { s with
        fetches := s.fetches.erase fetch ++ [⟨fetch.analysisId, fetch.attempt + 1, false⟩] }
    else none

/-! ### Rendering -/

section Render

variable {s : HomePage} {id message : String}

/-- The indicator that is shown is one of the indicators, and it is there, with the id of the page,
while an analysis with an id is running, and else not. -/
structure Rendered (s : HomePage) : Prop where
  mounted_lt : ∀ i ∈ s.mounted, i < s.indicators.length
  hidden : s.state ≠ .analyzing → s.mounted = none
  shown : ∀ id, s.state = .analyzing → s.analysisId = some id →
    ∃ i, s.mounted = some i ∧ s.indicators[i]? = some id

/-- Rendering changes the indicators only. -/
theorem render_eq (s : HomePage) :
    s.render = { s with mounted := s.render.mounted, indicators := s.render.indicators } := by
  unfold render
  split
  · split <;> rfl
  · rfl

@[simp] theorem render_state (s : HomePage) : s.render.state = s.state := by rw [render_eq]

@[simp] theorem render_analysisId (s : HomePage) : s.render.analysisId = s.analysisId := by
  rw [render_eq]

@[simp] theorem render_report (s : HomePage) : s.render.report = s.report := by rw [render_eq]

@[simp] theorem render_error (s : HomePage) : s.render.error = s.error := by rw [render_eq]

@[simp] theorem render_triggers (s : HomePage) : s.render.triggers = s.triggers := by rw [render_eq]

@[simp] theorem render_fetches (s : HomePage) : s.render.fetches = s.fetches := by rw [render_eq]

@[simp] theorem render_submissions (s : HomePage) : s.render.submissions = s.submissions := by
  rw [render_eq]

@[simp] theorem render_issued (s : HomePage) : s.render.issued = s.issued := by rw [render_eq]

@[simp] theorem render_completed (s : HomePage) : s.render.completed = s.completed := by
  rw [render_eq]

@[simp] theorem render_failed (s : HomePage) : s.render.failed = s.failed := by rw [render_eq]

@[simp] theorem render_ids (s : HomePage) : s.render.ids = s.ids := by
  rw [ids, render_issued, ids]

/-- An indicator calls for an id it had, or for that of the page. -/
theorem mem_indicators_render (h : id ∈ s.render.indicators) :
    id ∈ s.indicators ∨ s.analysisId = some id := by
  unfold render at h
  split at h
  · next id' _ hid =>
    split at h
    · rcases List.mem_or_eq_of_mem_set h with hmem | rfl
      · exact .inl hmem
      · exact .inr hid
    · rcases List.mem_append.1 h with hmem | hmem
      · exact .inl hmem
      · exact .inr (hid.trans (congrArg some (List.mem_singleton.1 hmem).symm))
  · exact .inl h

/-- After rendering the indicator is the right one. -/
theorem rendered_render (h : ∀ i ∈ s.mounted, i < s.indicators.length) : Rendered s.render := by
  unfold render
  split
  · next id hstate hid =>
    split
    · next i hi =>
      have hlt := h i hi
      refine ⟨fun j hj ↦ ?_, fun hne ↦ absurd hstate hne, fun id' _ hid' ↦ ⟨i, hi, ?_⟩⟩
      · rw [List.length_set]
        exact h j hj
      · obtain rfl := Option.some.inj (hid.symm.trans hid')
        exact List.getElem?_set_self hlt
    · refine ⟨fun j hj ↦ ?_, fun hne ↦ absurd hstate hne, fun id' _ hid' ↦ ⟨_, rfl, ?_⟩⟩
      · obtain rfl := Option.some.inj hj
        simp
      · obtain rfl := Option.some.inj (hid.symm.trans hid')
        exact List.getElem?_concat_length
  · next hnot =>
    exact ⟨fun _ hi ↦ absurd hi (by simp), fun _ ↦ rfl,
      fun id hstate hid ↦ absurd hid (hnot id hstate)⟩

end Render

/-! ### The invariant -/

/-- What holds of a page whatever it shows: whatever it names was issued, a report is one of a
completed analysis, no analysis has ended in two ways, and without an id nothing is under way but
the one request for it. -/
structure Base (s : HomePage) : Prop where
  ended : ∀ id ∈ s.failed, id ∈ s.ids ∧ id ∉ s.completed
  analysisId : ∀ id ∈ s.analysisId, id ∈ s.ids
  indicators : ∀ id ∈ s.indicators, id ∈ s.ids
  fetches : ∀ fetch ∈ s.fetches, fetch.analysisId ∈ s.ids
  report : ∀ id ∈ s.report, id ∈ s.ids ∧ id ∈ s.completed
  unissued : s.analysisId = none → s.issued = []
  single : s.analysisId = none → s.triggers.length ≤ 1
  waiting : s.analysisId = none → (s.state = .analyzing ↔ s.triggers ≠ [])
  done : s.state = .done → s.report ≠ none
  failed : s.state = .error → s.error ≠ ""
  numbered : ∀ k ∈ s.triggers, k ≤ s.submissions
  issued : ∀ p ∈ s.issued, p.1 ≤ s.submissions
  mounted_lt : ∀ i ∈ s.mounted, i < s.indicators.length

section Base

variable {s : HomePage} {id message : String}

theorem Base.render (h : Base s) : Base s.render where
  ended := by simpa using h.ended
  analysisId := by simpa using h.analysisId
  indicators id hid := by
    rw [render_ids]
    rcases mem_indicators_render hid with hmem | hmem
    · exact h.indicators id hmem
    · exact h.analysisId id hmem
  fetches := by simpa using h.fetches
  report := by simpa using h.report
  unissued := by simpa using h.unissued
  single := by simpa using h.single
  waiting := by simpa using h.waiting
  done := by simpa using h.done
  failed := by simpa using h.failed
  numbered := by simpa using h.numbered
  issued := by simpa using h.issued
  mounted_lt := (rendered_render h.mounted_lt).mounted_lt

/-- What has an indicator or a fetch has an id. -/
theorem Base.analysisId_ne_none (h : Base s) (hid : id ∈ s.ids) : s.analysisId ≠ none := by
  intro hnone
  rw [ids, h.unissued hnone] at hid
  exact List.not_mem_nil hid

/-- A failure keeps the invariant, if the page has an id or awaits none. -/
theorem Base.fail (h : Base s) (hidle : s.analysisId = none → s.triggers = [])
    (hmessage : message ≠ "") : Base (s.fail message) := by
  refine Base.render { h with
    waiting := fun hnone ↦ iff_of_false (by simp) fun hne ↦ hne (hidle hnone)
    done := fun hdone ↦ by cases hdone
    failed := fun _ ↦ hmessage }

theorem errorText_ne_empty {message : Option String} {default : String} (h : default ≠ "") :
    errorText message default ≠ "" := by
  cases message with
  | none => exact h
  | some message =>
    intro hempty
    have hlength := congrArg (fun t : String ↦ t.toList.length) hempty
    simp [errorText] at hlength

end Base

/-- The invariant of the page. -/
structure PageInv (s : HomePage) : Prop where
  base : Base s
  rendered : Rendered s

section Step

variable {s s' : HomePage} {e : PageEvent} {id message : String} {k : ℕ}

theorem Base.pageInv_render (h : Base s) : PageInv s.render :=
  ⟨h.render, rendered_render h.mounted_lt⟩

theorem PageInv.fail (h : Base s) (hidle : s.analysisId = none → s.triggers = [])
    (hmessage : message ≠ "") : PageInv (s.fail message) :=
  ⟨h.fail hidle hmessage, rendered_render h.mounted_lt⟩

/-- An error that an indicator reports has a text. -/
theorem ne_empty_of_mem_callsFor {m : SocketMessage}
    (h : .error message ∈ ProgressIndicator.callsFor m) : message ≠ "" := by
  unfold ProgressIndicator.callsFor at h
  split at h
  · cases h
  · split at h
    · simp at h
    · obtain rfl := IndicatorCall.error.inj (List.mem_singleton.1 h)
      rw [orDefault]
      split
      · decide
      · next hne => exact hne
    · cases h

/-- A page with one more request for a report. -/
theorem PageInv.addFetch (h : PageInv s) {fetch : ReportFetch} (hid : fetch.analysisId ∈ s.ids) :
    PageInv { s with fetches := s.fetches ++ [fetch] } := by
  refine ⟨{ h.base with fetches := fun fetch' hmem ↦ ?_ }, { h.rendered with }⟩
  rcases List.mem_append.1 hmem with hmem | hmem
  · exact h.base.fetches fetch' hmem
  · exact List.mem_singleton.1 hmem ▸ hid

/-- A page without one of its requests for a report. -/
theorem PageInv.eraseFetch (h : PageInv s) (fetch : ReportFetch) :
    PageInv { s with fetches := s.fetches.erase fetch } :=
  ⟨{ h.base with fetches := fun fetch' hmem ↦ h.base.fetches fetch' (List.mem_of_mem_erase hmem) },
    { h.rendered with }⟩

/-- A callback of an indicator keeps the invariant, and the ids. -/
theorem PageInv.handleCall (h : PageInv s) (hid : id ∈ s.ids) {call : IndicatorCall}
    (hcall : ∀ message, call = .error message → message ≠ "") :
    PageInv (s.handleCall id call) ∧ (s.handleCall id call).ids = s.ids := by
  have hsome := h.base.analysisId_ne_none hid
  cases call with
  | complete => exact ⟨h.addFetch hid, rfl⟩
  | error message =>
    exact ⟨PageInv.fail h.base (fun hnone ↦ absurd hnone hsome) (hcall message rfl), render_ids _⟩

theorem PageInv.handleCalls (h : PageInv s) (hid : id ∈ s.ids) {calls : List IndicatorCall}
    (hcalls : ∀ message, .error message ∈ calls → message ≠ "") :
    PageInv (calls.foldl (HomePage.handleCall id) s) := by
  induction calls generalizing s with
  | nil => exact h
  | cons call calls ih =>
    obtain ⟨hinv, hids⟩ := h.handleCall hid fun message hcall ↦
      hcalls message (hcall ▸ List.mem_cons_self)
    exact ih hinv (hids ▸ hid) fun message hmem ↦ hcalls message (List.mem_cons_of_mem call hmem)

/-- A page without its request for an id. -/
theorem Base.eraseTrigger (h : Base s) (hk : k ∈ s.triggers) (hnone : s.analysisId = none) :
    s.triggers.erase k = [] := by
  have hlength := List.length_erase_of_mem hk
  have hsingle := h.single hnone
  exact List.length_eq_zero_iff.1 (by omega)

/-- An answer of the server keeps the invariant: a report is one of a completed analysis. -/
theorem PageInv.takeAnswer (h : PageInv s) {fetch : ReportFetch} (hfetch : fetch ∈ s.fetches)
    {answer : AnalysisAnswer} (hanswer : answer = .report → fetch.analysisId ∈ s.completed) :
    PageInv (HomePage.takeAnswer { s with fetches := s.fetches.erase fetch } fetch answer) := by
  have hid := h.base.fetches fetch hfetch
  have hsome := h.base.analysisId_ne_none hid
  have herase := h.eraseFetch fetch
  cases answer with
  | report =>
    show PageInv (HomePage.render { s with
      fetches := s.fetches.erase fetch, report := some fetch.analysisId, state := .done })
    exact Base.pageInv_render { herase.base with
      report := fun id' hid' ↦ by
        obtain rfl := Option.some.inj hid'
        exact ⟨hid, hanswer rfl⟩
      waiting := fun hnone ↦ absurd hnone hsome
      done := fun _ ↦ Option.some_ne_none _
      failed := fun hfailed ↦ by cases hfailed }
  | status =>
    rw [HomePage.takeAnswer]
    split
    · exact herase.addFetch hid
    · exact PageInv.fail herase.base (fun hnone ↦ absurd hnone hsome) (by decide)

/-- A submission keeps the invariant: it is the one request for an id while the page has none. -/
theorem Base.handleSubmit (h : Base s) (hstate : s.state ≠ .analyzing) :
    PageInv s.handleSubmit := by
  refine Base.pageInv_render { h with
    report := fun _ hid ↦ by cases hid
    single := fun hnone ↦ ?_
    waiting := fun _ ↦ iff_of_true rfl (by simp)
    done := fun hdone ↦ by cases hdone
    failed := fun hfailed ↦ by cases hfailed
    numbered := fun k hk ↦ ?_
    issued := fun p hp ↦ (h.issued p hp).trans (Nat.le_succ _) }
  · have hnil : s.triggers = [] := by
      by_contra hne
      exact hstate ((h.waiting hnone).2 hne)
    simp [hnil]
  · rcases List.mem_append.1 hk with hk | hk
    · exact (h.numbered k hk).trans (Nat.le_succ _)
    · exact (List.mem_singleton.1 hk).le

/-- An answer with an id keeps the invariant: what was issued before stays issued. -/
theorem Base.triggered (h : Base s) (hk : k ∈ s.triggers) (id : String) :
    PageInv (HomePage.render { s with
      triggers := s.triggers.erase k
      analysisId := some id
      issued := s.issued ++ [(k, id)] }) := by
  have hids (id' : String) (hid' : id' ∈ s.ids) : id' ∈ (s.issued ++ [(k, id)]).map Prod.snd := by
    rw [List.map_append]
    exact List.mem_append_left _ hid'
  refine Base.pageInv_render { h with
    ended := fun id' hid' ↦ ⟨hids id' (h.ended id' hid').1, (h.ended id' hid').2⟩
    analysisId := fun id' hid' ↦ ?_
    indicators := fun id' hid' ↦ hids id' (h.indicators id' hid')
    fetches := fun fetch hfetch ↦ hids _ (h.fetches fetch hfetch)
    report := fun id' hid' ↦ ⟨hids id' (h.report id' hid').1, (h.report id' hid').2⟩
    unissued := fun hnone ↦ by cases hnone
    single := fun hnone ↦ by cases hnone
    waiting := fun hnone ↦ by cases hnone
    numbered := fun k' hk' ↦ h.numbered k' (List.mem_of_mem_erase hk')
    issued := fun p hp ↦ ?_ }
  · obtain rfl := Option.some.inj hid'
    simp [ids]
  · rcases List.mem_append.1 hp with hp | hp
    · exact h.issued p hp
    · rw [List.mem_singleton.1 hp]
      exact h.numbered k hk

/-- A refused submission keeps the invariant: the page then awaits nothing. -/
theorem Base.triggerFailed (h : Base s) (hk : k ∈ s.triggers) (hmessage : message ≠ "") :
    PageInv (HomePage.fail { s with triggers := s.triggers.erase k } message) :=
  Base.pageInv_render { h with
    single := fun hnone ↦ by rw [h.eraseTrigger hk hnone]; exact Nat.zero_le 1
    waiting := fun hnone ↦ iff_of_false (by simp) fun hne ↦ hne (h.eraseTrigger hk hnone)
    done := fun hdone ↦ by cases hdone
    failed := fun _ ↦ hmessage
    numbered := fun k' hk' ↦ h.numbered k' (List.mem_of_mem_erase hk') }

/-- An analysis that has not failed may complete. -/
theorem PageInv.completes (h : PageInv s) (hnot : id ∉ s.failed) :
    PageInv { s with completed := id :: s.completed } := by
  refine ⟨{ h.base with ended := fun id' hid' ↦ ?_, report := fun id' hid' ↦ ?_ },
    { h.rendered with }⟩
  · obtain ⟨hissued, hne⟩ := h.base.ended id' hid'
    exact ⟨hissued, List.not_mem_cons_of_ne_of_not_mem (ne_of_mem_of_not_mem hid' hnot) hne⟩
  · exact ⟨(h.base.report id' hid').1, List.mem_cons_of_mem _ (h.base.report id' hid').2⟩

/-- An analysis that has not completed may fail. -/
theorem PageInv.fails (h : PageInv s) (hid : id ∈ s.ids) (hnot : id ∉ s.completed) :
    PageInv { s with failed := id :: s.failed } := by
  refine ⟨{ h.base with ended := fun id' hid' ↦ ?_ }, { h.rendered with }⟩
  rcases List.mem_cons.1 hid' with rfl | hmem
  · exact ⟨hid, hnot⟩
  · exact h.base.ended id' hmem

/-- **Every step keeps the invariant.** -/
theorem pageInv_step (h : PageInv s) (hstep : s.step e = some s') : PageInv s' := by
  have hbase := h.base
  cases e with
  | submit =>
    simp only [step] at hstep
    split at hstep
    · cases hstep
    · next hstate =>
      obtain rfl := Option.some.inj hstep
      exact hbase.handleSubmit hstate
  | triggered submission id =>
    simp only [step] at hstep
    split at hstep
    · next hguard =>
      obtain rfl := Option.some.inj hstep
      exact hbase.triggered hguard.1 id
    · cases hstep
  | triggerFailed submission message =>
    simp only [step] at hstep
    split at hstep
    · next hk =>
      obtain rfl := Option.some.inj hstep
      exact hbase.triggerFailed hk (errorText_ne_empty (by decide))
    · cases hstep
  | completes id =>
    simp only [step] at hstep
    split at hstep
    · next hguard =>
      obtain rfl := Option.some.inj hstep
      exact h.completes hguard.2
    · cases hstep
  | fails id =>
    simp only [step] at hstep
    split at hstep
    · next hguard =>
      obtain rfl := Option.some.inj hstep
      exact h.fails hguard.1 hguard.2
    · cases hstep
  | message i id m =>
    simp only [step] at hstep
    split at hstep
    · obtain ⟨calledFor, hi, rfl⟩ := Option.map_eq_some_iff.1 hstep
      exact h.handleCalls (hbase.indicators _ (List.mem_of_getElem? hi))
        fun message hmem ↦ ne_empty_of_mem_callsFor hmem
    · cases hstep
  | givesUp i =>
    obtain ⟨calledFor, hi, rfl⟩ := Option.map_eq_some_iff.1 hstep
    refine (h.handleCall (hbase.indicators _ (List.mem_of_getElem? hi)) fun message hcall ↦ ?_).1
    obtain rfl := IndicatorCall.error.inj hcall
    decide
  | answered fetch answer =>
    simp only [step] at hstep
    split at hstep
    · next hguard =>
      obtain rfl := Option.some.inj hstep
      exact h.takeAnswer hguard.1 hguard.2.2
    · cases hstep
  | fetchFailed fetch message =>
    simp only [step] at hstep
    split at hstep
    · next hguard =>
      obtain rfl := Option.some.inj hstep
      have hsome := hbase.analysisId_ne_none (hbase.fetches fetch hguard.1)
      exact PageInv.fail (h.eraseFetch fetch).base (fun hnone ↦ absurd hnone hsome)
        (errorText_ne_empty (by decide))
    · cases hstep
  | timerFires fetch =>
    simp only [step] at hstep
    split at hstep
    · next hguard =>
      obtain rfl := Option.some.inj hstep
      exact (h.eraseFetch fetch).addFetch (hbase.fetches fetch hguard.1)
    · cases hstep

/-- **The invariant holds throughout every run.** -/
theorem pageInv_of_run {es : List PageEvent} (hrun : run step {} es = some s) : PageInv s := by
  have hinit : PageInv {} := by
    refine ⟨?_, ⟨fun i hi ↦ ?_, fun _ ↦ rfl, fun id hstate ↦ ?_⟩⟩
    · constructor <;> simp
    · cases hi
    · cases hstate
  exact invariant_run pageInv_step hinit hrun

end Step

/-! ### Submissions -/

section Submission

variable {s s' : HomePage} {e : PageEvent} {k : ℕ} {id : String}

/-- The report shown, if any, is that of the last submission. -/
def ShowsLast (s : HomePage) : Prop :=
  s.state = .done → ∃ id, s.report = some id ∧ (s.submissions, id) ∈ s.issued

/-- Nothing could bring a report but the next submission: the page awaits no id, and whatever
analysis it has an id, an indicator or a request for has failed. -/
structure NothingPending (s : HomePage) : Prop where
  triggers : s.triggers = []
  analysisId : ∀ id ∈ s.analysisId, id ∈ s.failed
  indicators : ∀ id ∈ s.indicators, id ∈ s.failed
  fetches : ∀ fetch ∈ s.fetches, fetch.analysisId ∈ s.failed

/-! #### Safe submissions -/

/-- An analysis is of a submission, or it has failed. -/
def OfOrFailed (k : ℕ) (s : HomePage) (id : String) : Prop :=
  (k, id) ∈ s.issued ∨ id ∈ s.failed

/-- Whatever the page awaits and names is of the last submission, or has failed. -/
structure OnlyLast (k : ℕ) (s : HomePage) : Prop where
  submissions : s.submissions = k
  triggers : ∀ j ∈ s.triggers, j = k
  analysisId : ∀ id ∈ s.analysisId, OfOrFailed k s id
  indicators : ∀ id ∈ s.indicators, OfOrFailed k s id
  fetches : ∀ fetch ∈ s.fetches, OfOrFailed k s fetch.analysisId
  report : ∀ id ∈ s.report, OfOrFailed k s id

theorem OnlyLast.render (h : OnlyLast k s) : OnlyLast k s.render := by
  have hsame (id : String) : OfOrFailed k s.render id ↔ OfOrFailed k s id := by
    rw [OfOrFailed, render_issued, render_failed, OfOrFailed]
  refine ⟨by simpa using h.submissions, by simpa using h.triggers, ?_, ?_, ?_, ?_⟩
  · simpa [hsame] using h.analysisId
  · intro id hid
    rw [hsame]
    rcases mem_indicators_render hid with hmem | hmem
    · exact h.indicators id hmem
    · exact h.analysisId id hmem
  · simpa [hsame] using h.fetches
  · simpa [hsame] using h.report

theorem OnlyLast.fail (h : OnlyLast k s) (message : String) : OnlyLast k (s.fail message) :=
  OnlyLast.render ⟨h.submissions, h.triggers, h.analysisId, h.indicators, h.fetches, h.report⟩

/-- One more request for a report that may be shown. -/
theorem OnlyLast.addFetch (h : OnlyLast k s) {fetch : ReportFetch}
    (hfetch : OfOrFailed k s fetch.analysisId) :
    OnlyLast k { s with fetches := s.fetches ++ [fetch] } := by
  refine { h with fetches := fun fetch' hmem ↦ ?_ }
  rcases List.mem_append.1 hmem with hmem | hmem
  · exact h.fetches fetch' hmem
  · exact List.mem_singleton.1 hmem ▸ hfetch

theorem OnlyLast.eraseFetch (h : OnlyLast k s) (fetch : ReportFetch) :
    OnlyLast k { s with fetches := s.fetches.erase fetch } :=
  { h with fetches := fun fetch' hmem ↦ h.fetches fetch' (List.mem_of_mem_erase hmem) }

theorem OnlyLast.eraseTrigger (h : OnlyLast k s) (submission : ℕ) :
    OnlyLast k { s with triggers := s.triggers.erase submission } :=
  { h with triggers := fun j hj ↦ h.triggers j (List.mem_of_mem_erase hj) }

theorem OnlyLast.handleCall (h : OnlyLast k s) (hid : OfOrFailed k s id) (call : IndicatorCall) :
    OnlyLast k (s.handleCall id call) ∧ OfOrFailed k (s.handleCall id call) id := by
  cases call with
  | complete => exact ⟨h.addFetch hid, hid⟩
  | error message =>
    refine ⟨h.fail message, ?_⟩
    rw [HomePage.handleCall, HomePage.fail, OfOrFailed, render_issued, render_failed]
    exact hid

theorem OnlyLast.handleCalls (h : OnlyLast k s) (hid : OfOrFailed k s id)
    (calls : List IndicatorCall) : OnlyLast k (calls.foldl (HomePage.handleCall id) s) := by
  induction calls generalizing s with
  | nil => exact h
  | cons call calls ih =>
    obtain ⟨hlast, hid⟩ := h.handleCall hid call
    exact ih hlast hid

/-- More ids and more failures change nothing about the others. -/
theorem OfOrFailed.mono (h : OfOrFailed k s id) (hissued : s.issued ⊆ s'.issued)
    (hfailed : s.failed ⊆ s'.failed) : OfOrFailed k s' id :=
  h.imp (fun hmem ↦ hissued hmem) fun hmem ↦ hfailed hmem

/-- An answer to the last submission names one more analysis of it. -/
theorem OnlyLast.triggered (h : OnlyLast k s) (id : String) :
    OnlyLast k (HomePage.render { s with
      triggers := s.triggers.erase k
      analysisId := some id
      issued := s.issued ++ [(k, id)] }) := by
  have hmono {id' : String} (hid' : OfOrFailed k s id') : OfOrFailed k { s with
      triggers := s.triggers.erase k
      analysisId := some id
      issued := s.issued ++ [(k, id)] } id' :=
    hid'.mono (List.subset_append_left _ _) (List.Subset.refl _)
  refine OnlyLast.render ⟨h.submissions, fun j hj ↦ h.triggers j (List.mem_of_mem_erase hj),
    fun id' hid' ↦ ?_, fun id' hid' ↦ hmono (h.indicators id' hid'),
    fun fetch hfetch ↦ hmono (h.fetches fetch hfetch), fun id' hid' ↦ hmono (h.report id' hid')⟩
  obtain rfl := Option.some.inj hid'
  exact .inl (List.mem_append_right _ (List.mem_singleton_self _))

/-- An analysis that fails is of the last submission still, or has failed now. -/
theorem OnlyLast.fails (h : OnlyLast k s) (id : String) :
    OnlyLast k { s with failed := id :: s.failed } := by
  have hmono {id' : String} (hid' : OfOrFailed k s id') :
      OfOrFailed k { s with failed := id :: s.failed } id' :=
    hid'.mono (List.Subset.refl _) (List.subset_cons_self id _)
  exact ⟨h.submissions, h.triggers, fun id' hid' ↦ hmono (h.analysisId id' hid'),
    fun id' hid' ↦ hmono (h.indicators id' hid'),
    fun fetch hfetch ↦ hmono (h.fetches fetch hfetch),
    fun id' hid' ↦ hmono (h.report id' hid')⟩

/-- An answer of the server is to a request that the page had. -/
theorem OnlyLast.takeAnswer (h : OnlyLast k s) {fetch : ReportFetch} (hmem : fetch ∈ s.fetches)
    (answer : AnalysisAnswer) :
    OnlyLast k (HomePage.takeAnswer { s with fetches := s.fetches.erase fetch } fetch answer) := by
  have hfetch := h.fetches fetch hmem
  cases answer with
  | report =>
    show OnlyLast k (HomePage.render { s with
      fetches := s.fetches.erase fetch, report := some fetch.analysisId, state := .done })
    refine OnlyLast.render { h.eraseFetch fetch with report := fun id hid ↦ ?_ }
    exact Option.some.inj hid ▸ hfetch
  | status =>
    rw [HomePage.takeAnswer]
    split
    · exact (h.eraseFetch fetch).addFetch hfetch
    · exact (h.eraseFetch fetch).fail _

/-- **Nothing but a submission brings in anything else.** -/
theorem onlyLast_step (hne : e ≠ .submit) (h : OnlyLast k s) (hstep : s.step e = some s') :
    OnlyLast k s' := by
  cases e with
  | submit => exact absurd rfl hne
  | triggered submission id =>
    simp only [step] at hstep
    split at hstep
    · next hguard =>
      obtain rfl := Option.some.inj hstep
      obtain rfl := h.triggers submission hguard.1
      exact h.triggered id
    · cases hstep
  | triggerFailed submission message =>
    simp only [step] at hstep
    split at hstep
    · obtain rfl := Option.some.inj hstep
      exact (h.eraseTrigger submission).fail _
    · cases hstep
  | completes id =>
    simp only [step] at hstep
    split at hstep
    · obtain rfl := Option.some.inj hstep
      exact { h with }
    · cases hstep
  | fails id =>
    simp only [step] at hstep
    split at hstep
    · obtain rfl := Option.some.inj hstep
      exact h.fails id
    · cases hstep
  | message i id m =>
    simp only [step] at hstep
    split at hstep
    · obtain ⟨calledFor, hi, rfl⟩ := Option.map_eq_some_iff.1 hstep
      exact h.handleCalls (h.indicators calledFor (List.mem_of_getElem? hi)) _
    · cases hstep
  | givesUp i =>
    obtain ⟨calledFor, hi, rfl⟩ := Option.map_eq_some_iff.1 hstep
    exact (h.handleCall (h.indicators calledFor (List.mem_of_getElem? hi)) _).1
  | answered fetch answer =>
    simp only [step] at hstep
    split at hstep
    · next hguard =>
      obtain rfl := Option.some.inj hstep
      exact h.takeAnswer hguard.1 answer
    · cases hstep
  | fetchFailed fetch message =>
    simp only [step] at hstep
    split at hstep
    · obtain rfl := Option.some.inj hstep
      exact (h.eraseFetch fetch).fail _
    · cases hstep
  | timerFires fetch =>
    simp only [step] at hstep
    split at hstep
    · next hguard =>
      obtain rfl := Option.some.inj hstep
      exact (h.eraseFetch fetch).addFetch (h.fetches fetch hguard.1)
    · cases hstep

/-- Then a report that is shown is that of the last submission: the others have failed. -/
theorem OnlyLast.showsLast (h : OnlyLast k s) (hinv : PageInv s) : ShowsLast s := by
  intro hdone
  obtain ⟨id, hid⟩ := Option.ne_none_iff_exists'.1 (hinv.base.done hdone)
  have hcompleted := (hinv.base.report id hid).2
  rcases h.report id hid with hissued | hfailed
  · exact ⟨id, hid, by rwa [h.submissions]⟩
  · exact absurd hcompleted (hinv.base.ended id hfailed).2

/-- Where nothing is pending, a submission starts from nothing. -/
theorem onlyLast_submit (hpending : NothingPending s) (hstep : s.step .submit = some s') :
    OnlyLast s'.submissions s' := by
  simp only [step] at hstep
  split at hstep
  · cases hstep
  · obtain rfl := Option.some.inj hstep
    have hsubmissions : s.handleSubmit.submissions = s.submissions + 1 := render_submissions _
    rw [hsubmissions]
    refine OnlyLast.render ⟨rfl, ?_, fun id hid ↦ .inr (hpending.analysisId id hid),
      fun id hid ↦ .inr (hpending.indicators id hid),
      fun fetch hfetch ↦ .inr (hpending.fetches fetch hfetch), fun _ hid ↦ by cases hid⟩
    simp [hpending.triggers]

/-- **A submission is safe where nothing is pending.** -/
theorem showsLast_of_nothingPending (hinv : PageInv s) (hpending : NothingPending s)
    {es : List PageEvent} (hnot : .submit ∉ es) (hrun : run step s (.submit :: es) = some s') :
    ShowsLast s' := by
  obtain ⟨t, hsubmit, hrest⟩ := run_cons_eq_some_iff.1 hrun
  have hguard : AllSteps step (fun _ e ↦ True ∧ e ≠ .submit) t es :=
    (allSteps_of_forall (fun _ _ ↦ trivial) t es).and_of_mem fun e he heq ↦ hnot (heq ▸ he)
  have hlast := invariant_run_of_guard (fun h hne hstep ↦ onlyLast_step hne.2 h hstep)
    (onlyLast_submit hpending hsubmit) hguard hrest
  exact hlast.showsLast (invariant_run pageInv_step (pageInv_step hinv hsubmit) hrest)

/-- Without an id nothing is pending, unless the page awaits one. -/
theorem nothingPending_of_none (hinv : PageInv s) (hstate : s.state ≠ .analyzing)
    (hnone : s.analysisId = none) : NothingPending s := by
  have hids (id : String) (hid : id ∈ s.ids) : id ∈ s.failed :=
    absurd hnone (hinv.base.analysisId_ne_none hid)
  refine ⟨?_, fun id hid ↦ hids id (hinv.base.analysisId id hid),
    fun id hid ↦ hids id (hinv.base.indicators id hid),
    fun fetch hfetch ↦ hids _ (hinv.base.fetches fetch hfetch)⟩
  by_contra hne
  exact hstate ((hinv.base.waiting hnone).2 hne)

/-! #### Stale reports -/

/-- Without another submission a report of the analysis can be shown. -/
def CanShow (s : HomePage) (id : String) : Prop :=
  ∃ es s', .submit ∉ es ∧ run step s es = some s' ∧ s'.state = .done ∧ s'.report = some id ∧
    s'.submissions = s.submissions ∧ s'.issued = s.issued

/-- A step that is no submission leads to what can be shown after it. -/
theorem CanShow.of_step (h : CanShow s' id) (hstep : s.step e = some s') (hne : e ≠ .submit)
    (hsubmissions : s'.submissions = s.submissions) (hissued : s'.issued = s.issued) :
    CanShow s id := by
  obtain ⟨es, t, hnot, hrun, hdone, hreport, hsub, hiss⟩ := h
  exact ⟨e :: es, t, List.not_mem_cons_of_ne_of_not_mem hne.symm hnot,
    run_cons_eq_some_iff.2 ⟨s', hstep, hrun⟩, hdone, hreport, hsub.trans hsubmissions,
    hiss.trans hissued⟩

/-- The answer to a request for a completed analysis is its report. -/
theorem canShow_of_completed {fetch : ReportFetch} (hfetch : fetch ∈ s.fetches)
    (hwaits : fetch.waits = false) (hcompleted : fetch.analysisId ∈ s.completed) :
    CanShow s fetch.analysisId := by
  let t : HomePage := takeAnswer { s with fetches := s.fetches.erase fetch } fetch .report
  have hstep : s.step (.answered fetch .report) = some t :=
    if_pos ⟨hfetch, hwaits, fun _ ↦ hcompleted⟩
  exact ⟨[.answered fetch .report], t, by simp, (run_singleton ..).trans hstep, render_state _,
    render_report _, render_submissions _, render_issued _⟩

/-- An analysis that has not failed may complete, so a request for it may be answered. -/
theorem canShow_of_fetch {fetch : ReportFetch} (hid : fetch.analysisId ∈ s.ids)
    (hnot : fetch.analysisId ∉ s.failed) (hfetch : fetch ∈ s.fetches) :
    CanShow s fetch.analysisId := by
  have hcompletes : s.step (.completes fetch.analysisId) =
      some { s with completed := fetch.analysisId :: s.completed } := if_pos ⟨hid, hnot⟩
  refine CanShow.of_step ?_ hcompletes (by simp) rfl rfl
  cases hwaits : fetch.waits with
  | false => exact canShow_of_completed hfetch hwaits List.mem_cons_self
  | true =>
    -- a request that waits for its timer is made again
    let t : HomePage := { s with completed := fetch.analysisId :: s.completed }
    let again : ReportFetch := ⟨fetch.analysisId, fetch.attempt + 1, false⟩
    have hfires : t.step (.timerFires fetch) = some { t with
        fetches := t.fetches.erase fetch ++ [again] } := if_pos ⟨hfetch, hwaits⟩
    have hagain : again ∈ t.fetches.erase fetch ++ [again] :=
      List.mem_append_right _ (List.mem_singleton_self _)
    refine CanShow.of_step (s := t) ?_ hfires (by simp) rfl rfl
    show CanShow { t with fetches := t.fetches.erase fetch ++ [again] } again.analysisId
    exact canShow_of_completed hagain rfl List.mem_cons_self

/-- Its indicator may be told so, and then asks for the report. -/
theorem canShow_of_indicator {i : ℕ} (hid : id ∈ s.ids) (hnot : id ∉ s.failed)
    (hi : s.indicators[i]? = some id) : CanShow s id := by
  have hcompletes : s.step (.completes id) = some { s with completed := id :: s.completed } :=
    if_pos ⟨hid, hnot⟩
  refine CanShow.of_step ?_ hcompletes (by simp) rfl rfl
  let t : HomePage := { s with completed := id :: s.completed }
  let told : SocketMessage := .status { id, status := .completed }
  have htruthful : t.Truthful id told := by
    intro status hstatus
    obtain rfl := Option.some.inj hstatus
    exact ⟨fun _ ↦ List.mem_cons_self, fun h ↦ by cases h⟩
  let fetch : ReportFetch := { analysisId := id }
  have hmessage : t.step (.message i id told) =
      some { t with fetches := t.fetches ++ [fetch] } := by
    have hguard : id ∈ t.ids ∧ t.Truthful id told := ⟨hid, htruthful⟩
    simp only [step, if_pos hguard]
    rw [show t.indicators[i]? = some id from hi]
    rfl
  have hfetch : fetch ∈ t.fetches ++ [fetch] :=
    List.mem_append_right _ (List.mem_singleton_self _)
  refine CanShow.of_step (s := t) ?_ hmessage (by simp) rfl rfl
  exact canShow_of_fetch (s := { t with fetches := t.fetches ++ [fetch] }) hid hnot hfetch

/-- A report of an earlier submission is no report of the last one. -/
theorem exists_stale_of_canShow {t : HomePage} (hsubmit : s.step .submit = some s')
    {es : List PageEvent} (hnot : .submit ∉ es) (hrun : run step s' es = some t)
    (h : CanShow t id) (hother : (t.submissions, id) ∉ t.issued) :
    ∃ es s', .submit ∉ es ∧ run step s (.submit :: es) = some s' ∧ ¬ ShowsLast s' := by
  obtain ⟨es', u, hnot', hrun', hdone, hreport, hsubmissions, hissued⟩ := h
  refine ⟨es ++ es', u, ?_, ?_, fun hshows ↦ ?_⟩
  · exact fun hmem ↦ (List.mem_append.1 hmem).elim hnot hnot'
  · refine run_cons_eq_some_iff.2 ⟨s', hsubmit, ?_⟩
    rw [run_append, hrun]
    exact hrun'
  · obtain ⟨id', hid', hmem⟩ := hshows hdone
    obtain rfl := Option.some.inj (hreport.symm.trans hid')
    rw [hsubmissions, hissued] at hmem
    exact hother hmem

/-- There is always another id. -/
theorem exists_not_mem_ids (s : HomePage) : ∃ id, id ∉ s.ids :=
  Infinite.exists_notMem_finset s.ids.toFinset |>.imp fun _ h hmem ↦ h (List.mem_toFinset.2 hmem)

/-- What was issued before a submission is not of it. -/
theorem Base.not_mem_issued_handleSubmit (h : Base s) (id : String) :
    (s.handleSubmit.submissions, id) ∉ s.handleSubmit.issued := by
  have hissued : s.handleSubmit.issued = s.issued := render_issued _
  have hsubmissions : s.handleSubmit.submissions = s.submissions + 1 := render_submissions _
  rw [hissued, hsubmissions]
  exact fun hmem ↦ Nat.not_succ_le_self _ (h.issued _ hmem)

/-- An earlier request for an id may be answered after the submission. -/
theorem exists_stale_of_trigger (hinv : PageInv s) (hsubmit : s.step .submit = some s.handleSubmit)
    (hk : k ∈ s.triggers) :
    ∃ es s', .submit ∉ es ∧ run step s (.submit :: es) = some s' ∧ ¬ ShowsLast s' := by
  obtain ⟨id, hid⟩ := exists_not_mem_ids s
  have hids : s.handleSubmit.ids = s.ids := render_ids _
  have hsubmissions : s.handleSubmit.submissions = s.submissions + 1 := render_submissions _
  have hinv₁ := pageInv_step hinv hsubmit
  have hk₁ : k ∈ s.handleSubmit.triggers := by
    rw [show s.handleSubmit.triggers = s.triggers ++ [s.submissions + 1] from render_triggers _]
    exact List.mem_append_left _ hk
  have htriggered : s.handleSubmit.step (.triggered k id) = some (HomePage.render
      { s.handleSubmit with
        triggers := s.handleSubmit.triggers.erase k
        analysisId := some id
        issued := s.handleSubmit.issued ++ [(k, id)] }) := if_pos ⟨hk₁, hids ▸ hid⟩
  -- the answer brings an indicator that calls for its id
  have hinv₂ := pageInv_step hinv₁ htriggered
  obtain ⟨i, -, hi⟩ := hinv₂.rendered.shown id
    ((render_state _).trans (render_state _)) (render_analysisId _)
  have hnot : PageEvent.submit ∉ [PageEvent.triggered k id] := by simp
  refine exists_stale_of_canShow hsubmit hnot ((run_singleton ..).trans htriggered)
    (canShow_of_indicator (i := i) ?_ ?_ hi) ?_
  · rw [render_ids]
    simp [ids]
  · rw [render_failed]
    exact fun hmem ↦ hid (hids ▸ (hinv₁.base.ended id hmem).1)
  · rw [render_submissions, render_issued]
    intro hmem
    rcases List.mem_append.1 hmem with hmem | hmem
    · exact hinv.base.not_mem_issued_handleSubmit id hmem
    · have heq : s.handleSubmit.submissions = k := congrArg Prod.fst (List.mem_singleton.1 hmem)
      have hle := hinv.base.numbered k hk
      omega

/-- **A submission of a page with something pending can end with another report.** -/
theorem exists_stale_run (hinv : PageInv s) (hstate : s.state ≠ .analyzing)
    (hpending : ¬ NothingPending s) :
    ∃ es s', .submit ∉ es ∧ run step s (.submit :: es) = some s' ∧ ¬ ShowsLast s' := by
  have hsubmit : s.step .submit = some s.handleSubmit := if_neg hstate
  have hinv₁ := pageInv_step hinv hsubmit
  have hids₁ : s.handleSubmit.ids = s.ids := render_ids _
  have hfailed₁ : s.handleSubmit.failed = s.failed := render_failed _
  have hcanShow {id : String} (h : CanShow s.handleSubmit id) :
      ∃ es s', .submit ∉ es ∧ run step s (.submit :: es) = some s' ∧ ¬ ShowsLast s' :=
    exists_stale_of_canShow hsubmit List.not_mem_nil rfl h
      (hinv.base.not_mem_issued_handleSubmit id)
  by_contra hfresh
  refine hpending ⟨?_, fun id hid ↦ ?_, fun id hid ↦ ?_, fun fetch hfetch ↦ ?_⟩
  · by_contra hne
    obtain ⟨k, hk⟩ := List.exists_mem_of_ne_nil _ hne
    exact hfresh (exists_stale_of_trigger hinv hsubmit hk)
  · -- the indicator shown is one for the id of the page
    by_contra hnot
    have hid₁ : s.handleSubmit.analysisId = some id := (render_analysisId _).trans hid
    obtain ⟨i, -, hi⟩ := hinv₁.rendered.shown id (render_state _) hid₁
    exact hfresh (hcanShow (canShow_of_indicator (hids₁ ▸ hinv.base.analysisId id hid)
      (hfailed₁ ▸ hnot) hi))
  · -- the indicators that are no longer shown are still there
    by_contra hnot
    obtain ⟨i, hi⟩ := List.getElem?_of_mem hid
    have hi₁ : s.handleSubmit.indicators[i]? = some id := by
      have hlt := (List.getElem?_eq_some_iff.1 hi).1
      rw [handleSubmit, render, hinv.rendered.hidden hstate]
      cases s.analysisId with
      | none => exact hi
      | some old => exact (List.getElem?_append_left hlt).trans hi
    exact hfresh (hcanShow (canShow_of_indicator (hids₁ ▸ hinv.base.indicators id hid)
      (hfailed₁ ▸ hnot) hi₁))
  · by_contra hnot
    exact hfresh (hcanShow (canShow_of_fetch (hids₁ ▸ hinv.base.fetches fetch hfetch)
      (hfailed₁ ▸ hnot) ((render_fetches _).symm ▸ hfetch)))

/-- **When a submission is safe.** In every reachable page whose form is enabled: whatever follows a
submission, up to the next one, shows no report but that of this submission, exactly when nothing is
pending. So it is for the first submission of a page, and not after a report. -/
theorem submission_fresh_iff {es : List PageEvent} (hrun : run step {} es = some s)
    (hstate : s.state ≠ .analyzing) :
    ((∀ es' s', .submit ∉ es' → run step s (.submit :: es') = some s' → ShowsLast s') ↔
      NothingPending s) ∧
    (s.analysisId = none → NothingPending s) ∧
    ∀ id ∈ s.analysisId, id ∈ s.completed → ¬ NothingPending s := by
  have hinv := pageInv_of_run hrun
  refine ⟨⟨fun hfresh ↦ ?_, fun hpending es' s' hnot hrun' ↦ ?_⟩,
    nothingPending_of_none hinv hstate, fun id hid hcompleted hpending ↦ ?_⟩
  · by_contra hpending
    obtain ⟨es', s', hnot, hrun', hstale⟩ := exists_stale_run hinv hstate hpending
    exact hstale (hfresh es' s' hnot hrun')
  · exact showsLast_of_nothingPending hinv hpending hnot hrun'
  · exact (hinv.base.ended id (hpending.analysisId id hid)).2 hcompleted

/-- The first submission of a page is safe, the second one is not after a report, and it is after a
failure. -/
theorem submission_fresh_iff_second :
    let start : List PageEvent := [.submit, .triggered 1 "a"]
    let reported : HomePage :=
      { state := .done, analysisId := some "a", report := some "a", indicators := ["a"],
        submissions := 1, issued := [(1, "a")], completed := ["a"] }
    let failed : HomePage :=
      { state := .error, analysisId := some "a", indicators := ["a"], submissions := 1,
        error := "Analiza zakończyła się błędem", issued := [(1, "a")], failed := ["a"] }
    let Safe (s : HomePage) : Prop :=
      ∀ es' s', .submit ∉ es' → run step s (.submit :: es') = some s' → ShowsLast s'
    Safe {} ∧
      (run step {} (start ++ [.completes "a",
          .message 0 "a" (.status { id := "a", status := .completed }),
          .answered { analysisId := "a" } .report]) = some reported ∧ ¬ Safe reported) ∧
      run step {} (start ++ [.fails "a",
          .message 0 "a" (.status { id := "a", status := .failed })]) = some failed ∧
        Safe failed := by
  intro start reported failed Safe
  have hreported : run step {} (start ++ [.completes "a",
      .message 0 "a" (.status { id := "a", status := .completed }),
      .answered { analysisId := "a" } .report]) = some reported := by decide
  have hfailed : run step {} (start ++ [.fails "a",
      .message 0 "a" (.status { id := "a", status := .failed })]) = some failed := by decide
  have hempty : run step {} [] = some ({} : HomePage) := rfl
  obtain ⟨hfirst, hnone, -⟩ := submission_fresh_iff hempty (by decide)
  obtain ⟨hsecond, -, hcompleted⟩ := submission_fresh_iff hreported (by decide)
  refine ⟨hfirst.2 (hnone rfl), ⟨hreported, fun hsafe ↦ ?_⟩, hfailed, ?_⟩
  · exact hcompleted "a" rfl (by decide) (hsecond.1 hsafe)
  · refine (submission_fresh_iff hfailed (by decide)).1.2 ⟨rfl, ?_, ?_, ?_⟩
    · decide
    · decide
    · decide

end Submission

/-! ### What the page shows -/

/-- A page that makes sense: a report is shown when there is one, and it is of an analysis of this
page that is complete; an alert has a text; and while the page waits, it has a request for an id
under way, or shows an indicator that calls for its id. -/
structure MakesSense (s : HomePage) : Prop where
  done : s.state = .done → ∃ id, s.report = some id ∧ id ∈ s.ids ∧ id ∈ s.completed
  error : s.state = .error → s.error ≠ ""
  analyzing : s.state = .analyzing →
    s.triggers ≠ [] ∨ ∃ i id, s.mounted = some i ∧ s.analysisId = some id ∧
      s.indicators[i]? = some id

/-- **Whatever the order of steps, the page makes sense.** -/
theorem makesSense_of_run {s : HomePage} {es : List PageEvent} (hrun : run step {} es = some s) :
    MakesSense s := by
  have hinv := pageInv_of_run hrun
  refine ⟨fun hdone ↦ ?_, hinv.base.failed, fun hanalyzing ↦ ?_⟩
  · obtain ⟨id, hid⟩ := Option.ne_none_iff_exists'.1 (hinv.base.done hdone)
    exact ⟨id, hid, hinv.base.report id hid⟩
  · rcases hid : s.analysisId with - | id
    · exact .inl ((hinv.base.waiting hid).1 hanalyzing)
    · obtain ⟨i, hi, hindicator⟩ := hinv.rendered.shown id hanalyzing hid
      exact .inr ⟨i, id, hi, rfl, hindicator⟩

/-- A page that is submitted again after its indicator has given up shows an indicator for the old
id. -/
theorem makesSense_of_run_stale :
    ∃ s, run step {} [.submit, .triggered 1 "a", .givesUp 0, .submit] = some s ∧
      s.triggers = [2] ∧ s.mounted = some 1 ∧ s.indicators = ["a", "a"] ∧ MakesSense s :=
  ⟨_, rfl, rfl, rfl, rfl,
    @makesSense_of_run _ [.submit, .triggered 1 "a", .givesUp 0, .submit] rfl⟩

end HomePage

end InvestmentAssistant
