import InvestmentAssistant.Foundation.Transition
import InvestmentAssistant.Frontend.ProgressIndicator

/-!
# A session of the progress indicator

The pipeline publishes the status of an analysis, the progress socket reads it, and the indicator in
the browser receives what the socket sends, over one connection after another. Each of them, and the
network, takes its steps whenever it likes (`ProgressEvent`), so the runs of `ProgressSession.step`
are all interleavings, with the entry dropped and connections refused, broken or closed at any
moment.

The browser fires the error event for a connection that is refused or breaks, and only the close
event, which the indicator does not listen to, for one that the server closes.

The indicator is to show the status it received last. It does as long as every status that arrives
is unambiguous, and nothing else arrives once a status has said anything (`shows_last_status_iff`).
-/

namespace InvestmentAssistant

open Transition

/-- The connection of the indicator. A connection is established until its last message and its end
have reached the browser; until then the server may be in its loop or have left it. -/
inductive Link
  | closed
  | connecting
  | established (server : Except SocketEnding SocketLoop) (inFlight : List SocketMessage)
  deriving DecidableEq, Repr

/-- The parties, what the indicator has received, and how often it has reconnected since it received
a status. -/
structure ProgressSession where
  /-- What the pipeline is yet to publish. -/
  pending : List AnalysisStatus
  /-- The entry of `analysis_tasks`. -/
  entry : Option AnalysisStatus := none
  link : Link := .connecting
  client : ProgressIndicator := {}
  received : List SocketMessage := []
  reconnects : ℕ := 0
  deriving DecidableEq, Repr

/-- What can happen. -/
inductive ProgressEvent
  /-- The pipeline changes the status, in place or with an assignment to `analysis_tasks`. -/
  | publish (assigns : Bool)
  /-- The cache `analysis_tasks` drops the entry. -/
  | drop
  | accepted (now : ℚ)
  | refused
  | pass (observed : SocketPass)
  /-- The next message reaches the browser. -/
  | arrives
  | breaks
  /-- After all messages, the end of a closed connection reaches the browser. -/
  | closes
  | timerFires
  deriving DecidableEq, Repr

namespace ProgressSession

/-- One event, when it can happen. -/
def step (settings : SocketSettings) (w : ProgressSession) : ProgressEvent → Option ProgressSession
  | .publish assigns =>
    match w.pending with
    | [] => none
    | status :: rest =>
      some { w with
        pending := rest
        entry := if assigns ∨ w.entry.isSome then some status else none }
  | .drop => some { w with entry := none }
  | .accepted now =>
    match w.link with
    | .connecting => some { w with link := .established (.ok (.accept now)) [] }
    | _ => none
  | .refused =>
    match w.link with
    | .connecting => some { w with link := .closed, client := w.client.onError }
    | _ => none
  | .pass observed =>
    match w.link with
    | .established (.ok loop) inFlight =>
      let (sent, server) := loop.pass settings w.entry observed
      some { w with link := .established server (inFlight ++ sent) }
    | _ => none
  | .arrives =>
    match w.link with
    | .established server (m :: inFlight) =>
      some { w with
        link := .established server inFlight
        client := w.client.onMessage m
        received := w.received ++ [m]
        reconnects := if m.status?.isSome then 0 else w.reconnects }
    | _ => none
  | .breaks =>
    match w.link with
    | .established _ _ => some { w with link := .closed, client := w.client.onError }
    | _ => none
  | .closes =>
    match w.link with
    | .established (.error ending) [] =>
      if ending = .disconnected then none else some { w with link := .closed }
    | _ => none
  | .timerFires =>
    match w.client.reconnectTimer with
    | none => none
    | some _ =>
      some { w with
        link := .connecting
        client := { w.client with reconnectTimer := none }
        reconnects := w.reconnects + 1 }

/-- What an event does, case by case. -/
inductive Moves (settings : SocketSettings) (w : ProgressSession) :
    ProgressEvent → ProgressSession → Prop
  | publish {assigns : Bool} {status : AnalysisStatus} {rest : List AnalysisStatus}
      {entry : Option AnalysisStatus} (hpending : w.pending = status :: rest)
      (hentry : ∀ s ∈ entry, s = status) :
      Moves settings w (.publish assigns) { w with pending := rest, entry }
  | drop : Moves settings w .drop { w with entry := none }
  | accepted {now : ℚ} (hlink : w.link = .connecting) :
      Moves settings w (.accepted now) { w with link := .established (.ok (.accept now)) [] }
  | refused (hlink : w.link = .connecting) :
      Moves settings w .refused { w with link := .closed, client := w.client.onError }
  | pass {observed : SocketPass} {loop : SocketLoop} {inFlight sent : List SocketMessage}
      {server : Except SocketEnding SocketLoop} (hlink : w.link = .established (.ok loop) inFlight)
      (hpass : loop.pass settings w.entry observed = (sent, server)) :
      Moves settings w (.pass observed)
        { w with link := .established server (inFlight ++ sent) }
  | arrives {server : Except SocketEnding SocketLoop} {m : SocketMessage}
      {inFlight : List SocketMessage} (hlink : w.link = .established server (m :: inFlight)) :
      Moves settings w .arrives
        { w with
          link := .established server inFlight
          client := w.client.onMessage m
          received := w.received ++ [m]
          reconnects := if m.status?.isSome then 0 else w.reconnects }
  | breaks {server : Except SocketEnding SocketLoop} {inFlight : List SocketMessage}
      (hlink : w.link = .established server inFlight) :
      Moves settings w .breaks { w with link := .closed, client := w.client.onError }
  | closes {ending : SocketEnding} (hlink : w.link = .established (.error ending) [])
      (hending : ending ≠ .disconnected) : Moves settings w .closes { w with link := .closed }
  | timerFires {delay : ℕ} (htimer : w.client.reconnectTimer = some delay) :
      Moves settings w .timerFires
        { w with
          link := .connecting
          client := { w.client with reconnectTimer := none }
          reconnects := w.reconnects + 1 }

/-- **What a step can do.** -/
theorem moves_of_step {settings : SocketSettings} {w w' : ProgressSession} {e : ProgressEvent}
    (h : step settings w e = some w') : Moves settings w e w' := by
  cases e with
  | publish assigns =>
    rcases hpending : w.pending with - | ⟨status, rest⟩
    · simp only [step, hpending] at h
      exact nomatch h
    · simp only [step, hpending, Option.some.injEq] at h
      subst h
      refine .publish hpending fun s hs ↦ ?_
      exact (Option.some.inj (Option.ite_none_right_eq_some.1 hs).2).symm
  | drop =>
    obtain rfl := Option.some.inj h
    exact .drop
  | accepted now =>
    rcases hlink : w.link with - | - | ⟨server, inFlight⟩ <;> simp only [step, hlink] at h
    · exact nomatch h
    · obtain rfl := Option.some.inj h
      exact .accepted hlink
    · exact nomatch h
  | refused =>
    rcases hlink : w.link with - | - | ⟨server, inFlight⟩ <;> simp only [step, hlink] at h
    · exact nomatch h
    · obtain rfl := Option.some.inj h
      exact .refused hlink
    · exact nomatch h
  | pass observed =>
    rcases hlink : w.link with - | - | ⟨ending | loop, inFlight⟩ <;> simp only [step, hlink] at h
    · exact nomatch h
    · exact nomatch h
    · exact nomatch h
    · obtain rfl := Option.some.inj h
      exact .pass hlink rfl
  | arrives =>
    rcases hlink : w.link with - | - | ⟨server, - | ⟨m, inFlight⟩⟩ <;> simp only [step, hlink] at h
    · exact nomatch h
    · exact nomatch h
    · exact nomatch h
    · obtain rfl := Option.some.inj h
      exact .arrives hlink
  | breaks =>
    rcases hlink : w.link with - | - | ⟨server, inFlight⟩ <;> simp only [step, hlink] at h
    · exact nomatch h
    · exact nomatch h
    · obtain rfl := Option.some.inj h
      exact .breaks hlink
  | closes =>
    rcases hlink : w.link with - | - | ⟨ending | loop, - | ⟨m, inFlight⟩⟩ <;>
      simp only [step, hlink] at h
    · exact nomatch h
    · exact nomatch h
    · obtain ⟨hending, heq⟩ := Option.ite_none_left_eq_some.1 h
      obtain rfl := Option.some.inj heq
      exact .closes hlink hending
    · exact nomatch h
    · exact nomatch h
    · exact nomatch h
  | timerFires =>
    rcases htimer : w.client.reconnectTimer with - | delay <;> simp only [step, htimer] at h
    · exact nomatch h
    · obtain rfl := Option.some.inj h
      exact .timerFires htimer

/-! ### The status received last -/

/-- The messages on their way. -/
def inFlight (w : ProgressSession) : List SocketMessage :=
  match w.link with
  | .established _ inFlight => inFlight
  | _ => []

/-- The last status among the messages received. -/
def lastStatus (w : ProgressSession) : Option AnalysisStatus :=
  (w.received.filterMap SocketMessage.status?).getLast?

/-- The progress shown is that of the status received last. -/
def ShowsLastStatus (w : ProgressSession) : Prop :=
  w.client.view.toShownProgress = reportedProgress w.lastStatus

instance (w : ProgressSession) : Decidable w.ShowsLastStatus :=
  inferInstanceAs (Decidable (_ = _))

/-- A message that arrives is an unambiguous status; or it is none, and no status before it has said
anything. -/
def ArrivesLegibly (w : ProgressSession) (e : ProgressEvent) : Prop :=
  e = .arrives → ∀ m ∈ w.inFlight.head?,
    match m.status? with
    | some status => status.Unambiguous
    | none => ∀ status ∈ w.lastStatus, status.Blank

/-- A new session for an analysis. -/
def start {Report : Type} (p : AnalysisPipeline) (calls : PipelineCalls Report) :
    ProgressSession where
  pending := statuses (p.effects calls)

/-- All statuses around name steps of the pipeline. -/
structure Named (w : ProgressSession) : Prop where
  pending : ∀ status ∈ w.pending, status.NamesSteps
  entry : ∀ status ∈ w.entry, status.NamesSteps
  inFlight : ∀ status, .status status ∈ w.inFlight → status.NamesSteps
  lastStatus : ∀ status ∈ w.lastStatus, status.NamesSteps

section Steps

variable {settings : SocketSettings} {w w' : ProgressSession} {e : ProgressEvent}

theorem eq_status_of_status? {m : SocketMessage} {status : AnalysisStatus}
    (h : m.status? = some status) : m = .status status := by
  cases m with
  | status s => exact congrArg SocketMessage.status (Option.some.inj h)
  | error text => exact nomatch h
  | heartbeat => exact nomatch h

/-- One more message. -/
theorem lastStatus_receive {m : SocketMessage} (h : w'.received = w.received ++ [m]) :
    w'.lastStatus = m.status?.or w.lastStatus := by
  rw [ProgressSession.lastStatus, h, List.filterMap_append]
  cases hm : m.status? with
  | none => simp [hm, ProgressSession.lastStatus]
  | some status => simp [hm]

@[simp]
theorem view_onError (c : ProgressIndicator) : c.onError.view = c.view := by
  unfold ProgressIndicator.onError
  split <;> rfl

theorem Named.step (hw : Named w) (h : step settings w e = some w') : Named w' := by
  cases moves_of_step h with
  | publish hpending hentry =>
    obtain ⟨hstatus, hrest⟩ := List.forall_mem_cons.1 (hpending ▸ hw.pending)
    exact ⟨hrest, fun s hs ↦ hentry s hs ▸ hstatus, hw.inFlight, hw.lastStatus⟩
  | drop => exact ⟨hw.pending, fun _ hs ↦ (nomatch hs), hw.inFlight, hw.lastStatus⟩
  | accepted hlink => exact ⟨hw.pending, hw.entry, fun _ hs ↦ (nomatch hs), hw.lastStatus⟩
  | refused hlink => exact ⟨hw.pending, hw.entry, fun _ hs ↦ (nomatch hs), hw.lastStatus⟩
  | pass hlink hpass =>
    refine ⟨hw.pending, hw.entry, fun s hs ↦ ?_, hw.lastStatus⟩
    obtain hs | hs := List.mem_append.1 hs
    · refine hw.inFlight s ?_
      rw [ProgressSession.inFlight, hlink]
      exact hs
    · exact hw.entry s (SocketLoop.entry_of_mem_pass hpass hs)
  | @arrives server m rest hlink =>
    have hinFlight : w.inFlight = m :: rest := by rw [ProgressSession.inFlight, hlink]
    refine ⟨hw.pending, hw.entry, fun s hs ↦ ?_, fun s hs ↦ ?_⟩
    · exact hw.inFlight s (hinFlight ▸ List.mem_cons_of_mem _ hs)
    · rw [lastStatus_receive rfl] at hs
      obtain hs | ⟨-, hs⟩ := Option.or_eq_some_iff.1 hs
      · exact hw.inFlight s (hinFlight ▸ eq_status_of_status? hs ▸ List.mem_cons_self ..)
      · exact hw.lastStatus s hs
  | breaks hlink => exact ⟨hw.pending, hw.entry, fun _ hs ↦ (nomatch hs), hw.lastStatus⟩
  | closes hlink hending => exact ⟨hw.pending, hw.entry, fun _ hs ↦ (nomatch hs), hw.lastStatus⟩
  | timerFires htimer => exact ⟨hw.pending, hw.entry, fun _ hs ↦ (nomatch hs), hw.lastStatus⟩

/-- Only a message that arrives can change what is shown, and whether it should. -/
theorem showsLastStatus_step_iff (hw : Named w) (hshows : w.ShowsLastStatus)
    (h : step settings w e = some w') : w'.ShowsLastStatus ↔ ArrivesLegibly w e := by
  cases moves_of_step h with
  | @arrives server m rest hlink =>
    have hinFlight : w.inFlight = m :: rest := by rw [ProgressSession.inFlight, hlink]
    have hlegible : ArrivesLegibly w .arrives ↔
        match m.status? with
        | some status => status.Unambiguous
        | none => ∀ status ∈ w.lastStatus, status.Blank := by
      simp [ArrivesLegibly, hinFlight]
    rw [hlegible, ShowsLastStatus, lastStatus_receive rfl]
    cases hm : m.status? with
    | none => exact shown_blank_iff hw.lastStatus rfl hm
    | some status =>
      obtain rfl := eq_status_of_status? hm
      exact shown_status_iff (hw.inFlight status (hinFlight ▸ List.mem_cons_self ..)) rfl
  | refused hlink =>
    refine iff_of_true ?_ (fun h ↦ nomatch h)
    rw [ShowsLastStatus, view_onError]
    exact hshows
  | breaks hlink =>
    refine iff_of_true ?_ (fun h ↦ nomatch h)
    rw [ShowsLastStatus, view_onError]
    exact hshows
  | _ => exact iff_of_true hshows (fun h ↦ nomatch h)

/-- Where nothing can arrive, nothing arrives. -/
theorem arrivesLegibly_of_step_eq_none (h : step settings w e = none) : ArrivesLegibly w e := by
  rintro rfl m hm
  rcases hlink : w.link with - | - | ⟨server, - | ⟨m', rest⟩⟩
  · rw [ProgressSession.inFlight, hlink] at hm
    exact nomatch hm
  · rw [ProgressSession.inFlight, hlink] at hm
    exact nomatch hm
  · rw [ProgressSession.inFlight, hlink] at hm
    exact nomatch hm
  · simp only [step, hlink] at h
    exact nomatch h

end Steps

/-- **The progress shown is that of the last status exactly as long as what arrives is legible.**
For every analysis, whatever becomes of its calls, and every interleaving of the pipeline, the
socket, the network and the browser. -/
theorem shows_last_status_iff {Report : Type} (p : AnalysisPipeline) (calls : PipelineCalls Report)
    (settings : SocketSettings) (es : List ProgressEvent) :
    (∀ es' w, es' <+: es → run (step settings) (start p calls) es' = some w → w.ShowsLastStatus) ↔
      AllSteps (step settings) ArrivesLegibly (start p calls) es := by
  refine forall_prefix_iff_allSteps Named.step showsLastStatus_step_iff
    arrivesLegibly_of_step_eq_none ⟨?_, ?_, ?_, ?_⟩ ?_ es
  · exact fun s hs ↦ p.namesSteps_of_mem_statuses calls hs
  · exact fun _ hs ↦ nomatch hs
  · exact fun _ hs ↦ nomatch hs
  · exact fun _ hs ↦ nomatch hs
  · show ({} : ProgressIndicator).view.toShownProgress = reportedProgress none
    decide +kernel

/-! ### A running technical analysis -/

/-- An analysis of one candle. -/
def oneCandle : PipelineCalls Unit :=
  calmCalls [⟨⟨0, none⟩, 1, 1, 1, 1, 0⟩] () ⟨some (), .ok ()⟩ ⟨some .up, .ok ()⟩

/-- The client connects during the technical analysis, and the first pass sends a heartbeat too. -/
def duringTechnicalAnalysis : List ProgressEvent :=
  [.publish true, .publish true, .publish false, .publish true, .accepted 0,
    .pass { startedAt := 0, checkedAt := 30, pingedAt := 30 }, .arrives]

/-- Two steps are shown as running, and the heartbeat takes the progress back to nothing. -/
theorem heartbeat_resets_progress :
    (∃ w ∈ run (step {}) (start eurUsd oneCandle) duringTechnicalAnalysis,
      w.client.view.percent = 17 ∧
        w.client.view.steps.filter (·.2 = .current) =
          [("Analiza techniczna", .current), ("Analiza fundamentalna", .current)] ∧
        ¬ w.ShowsLastStatus) ∧
      ∃ w ∈ run (step {}) (start eurUsd oneCandle) (duringTechnicalAnalysis ++ [.arrives]),
        w.client.view.percent = 0 ∧ w.client.view.steps.filter (·.2 ≠ .waiting) = [] ∧
          ¬ w.ShowsLastStatus := by
  decide +kernel

end ProgressSession

end InvestmentAssistant
