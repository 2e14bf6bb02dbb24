import InvestmentAssistant.Frontend.ProgressSession

/-!
# Reconnecting

The indicator is stranded when it has no connection, waits for none, and has called nobody. The
error event always leads to a timer or to a call, so a session gets there by one step only: the end
of a connection that the server closed before a terminal status, since the indicator does not listen
to the close event.

Any message resets the counter of reconnects, so it bounds the reconnects between two statuses only
while no error message arrives on a reconnected client. A heartbeat cannot do this: on every
connection a status is sent before it.

In a session that avoids both, the indicator is never stranded and reconnects at most
`maxReconnectAttempts` times in a row (`never_stranded`).
-/

namespace InvestmentAssistant

open Transition

/-- A message `{"error": …}`. -/
def SocketMessage.isError : SocketMessage → Bool
  | .error _ => true
  | _ => false

/-- A terminal status makes the indicator call. -/
theorem ProgressIndicator.callsFor_ne_nil {status : AnalysisStatus} (h : status.status.Terminal) :
    callsFor (.status status) ≠ [] := by
  rw [callsFor]
  obtain h | h := h
  · simp [SocketMessage.status?, h]
  · simp [SocketMessage.status?, h]

/-- What `onError` does. -/
theorem ProgressIndicator.onError_cases (c : ProgressIndicator) :
    (c.reconnectAttempt < maxReconnectAttempts ∧ ∃ delay,
      c.onError = { c with
        reconnectAttempt := c.reconnectAttempt + 1, reconnectTimer := some delay }) ∨
      ∃ call, c.onError = { c with calls := c.calls ++ [call] } := by
  unfold onError
  split
  · next hlt => exact Or.inl ⟨hlt, _, rfl⟩
  · exact Or.inr ⟨_, rfl⟩

namespace ProgressSession

/-! ### Reconnecting and its condition -/

/-- Without a connection, an opening one, or a timer, somebody was called. -/
def NotStranded (w : ProgressSession) : Prop :=
  w.link = .closed → w.client.reconnectTimer = none → w.client.calls ≠ []

instance (w : ProgressSession) : Decidable w.NotStranded :=
  inferInstanceAs (Decidable (_ → _ → _ ≠ _))

/-- How the server has left its loop. -/
def ending (w : ProgressSession) : Option SocketEnding :=
  match w.link with
  | .established (.error ending) _ => some ending
  | _ => none

/-- The server closes a connection only after a terminal status, or when somebody was called
already; and no error message arrives while the indicator counts reconnects. -/
def EndsHeard (w : ProgressSession) (e : ProgressEvent) : Prop :=
  match e with
  | .closes => w.ending = some .finished ∨ w.client.calls ≠ []
  | .arrives => (∃ m ∈ w.inFlight.head?, m.isError = true) → w.client.reconnectAttempt = 0
  | _ => True

instance (w : ProgressSession) (e : ProgressEvent) : Decidable (EndsHeard w e) := by
  cases e <;> unfold EndsHeard <;> infer_instance

/-! ### The invariant -/

/-- An established connection of an indicator. -/
structure Carries (c : ProgressIndicator) (server : Except SocketEnding SocketLoop)
    (inFlight : List SocketMessage) : Prop where
  quiet : c.reconnectTimer = none
  /-- The loop goes on after a status that is not terminal. -/
  unfinished : ∀ loop, server = .ok loop → ∀ status ∈ loop.lastSent, ¬ status.status.Terminal
  /-- A terminal status was received or is on its way. -/
  finished : server = .error .finished →
    c.calls ≠ [] ∨ ∃ status, .status status ∈ inFlight ∧ status.status.Terminal
  /-- No heartbeat comes first. -/
  first : c.reconnectAttempt ≠ 0 → inFlight.head? ≠ some .heartbeat ∧
    (inFlight = [] → ∀ loop, server = .ok loop → loop.lastSent = none)

/-- What holds of the connection. -/
def LinkAttended (c : ProgressIndicator) : Link → Prop
  | .closed => c.reconnectTimer = none → c.calls ≠ []
  | .connecting => c.reconnectTimer = none
  | .established server inFlight => Carries c server inFlight

/-- The counter counts the reconnects, and the one to come. -/
structure Attended (w : ProgressSession) : Prop where
  link : LinkAttended w.client w.link
  balance : w.client.reconnectAttempt =
    w.reconnects + if w.client.reconnectTimer.isSome then 1 else 0
  bounded : w.client.reconnectAttempt ≤ maxReconnectAttempts

section Steps

variable {settings : SocketSettings} {w w' : ProgressSession} {e : ProgressEvent}

/-- The error event. -/
theorem Attended.onError (hw : Attended w) (htimer : w.client.reconnectTimer = none) :
    Attended { w with link := .closed, client := w.client.onError } := by
  have hbalance := hw.balance
  rw [htimer] at hbalance
  obtain ⟨hlt, delay, heq⟩ | ⟨call, heq⟩ := w.client.onError_cases
  · refine ⟨?_, ?_, ?_⟩ <;> dsimp only <;> rw [heq]
    · exact fun h ↦ nomatch h
    · show w.client.reconnectAttempt + 1 = w.reconnects + 1
      rw [hbalance]
      rfl
    · exact hlt
  · refine ⟨?_, ?_, ?_⟩ <;> dsimp only <;> rw [heq]
    · exact fun _ ↦ List.append_ne_nil_of_right_ne_nil _ (List.cons_ne_nil _ _)
    · rw [htimer]
      exact hbalance
    · exact hw.bounded

/-- A pass of the server. -/
theorem Carries.pass {c : ProgressIndicator} {loop : SocketLoop}
    {inFlight sent : List SocketMessage}
    {server : Except SocketEnding SocketLoop} {entry : Option AnalysisStatus}
    {observed : SocketPass}
    (hc : Carries c (.ok loop) inFlight)
    (hpass : loop.pass settings entry observed = (sent, server)) :
    Carries c server (inFlight ++ sent) := by
  have hcases := SocketLoop.pass_cases hpass
  refine ⟨hc.quiet, ?_, ?_, fun hne ↦ ?_⟩
  · rintro loop' rfl status hstatus
    obtain ⟨-, h | h⟩ | ⟨-, -, h⟩ | ⟨s, -, first, -, h | ⟨hopen, pinged, -, h⟩⟩ := hcases
    · exact nomatch h
    · exact nomatch h
    · exact nomatch h
    · exact nomatch h.2.2
    · have hsent : loop'.lastSent = some s := by
        obtain ⟨-, h | h⟩ | ⟨-, h⟩ := SocketLoop.keepAlive_cases h
        · exact congrArg SocketLoop.lastSent (Except.ok.inj h)
        · exact nomatch h
        · exact congrArg SocketLoop.lastSent (Except.ok.inj h)
      rw [hsent] at hstatus
      exact Option.some.inj hstatus ▸ hopen
  · rintro rfl
    obtain ⟨-, h | h⟩ | ⟨-, -, h⟩ |
        ⟨s, -, first, hfirst, ⟨hterminal, rfl, -⟩ | ⟨-, pinged, -, h⟩⟩ :=
      hcases
    · exact nomatch h
    · exact nomatch h
    · exact nomatch h
    · obtain ⟨-, hsame⟩ | ⟨rfl, -⟩ := hfirst
      · -- a terminal status would have ended the loop when it was sent
        exact absurd hterminal (hc.unfinished loop rfl s hsame)
      · exact Or.inr ⟨s, List.mem_append_right _ (List.mem_singleton_self _), hterminal⟩
    · obtain ⟨-, h | h⟩ | ⟨-, h⟩ := SocketLoop.keepAlive_cases h <;> exact nomatch h
  · obtain ⟨hhead, hnone⟩ := hc.first hne
    cases inFlight with
    | cons m rest => exact ⟨hhead, fun hnil ↦ nomatch hnil⟩
    | nil =>
      have hfresh : loop.lastSent = none := hnone rfl loop rfl
      obtain ⟨rfl, h⟩ | ⟨-, rfl, -⟩ | ⟨s, -, first, ⟨-, hsame⟩ | ⟨rfl, -⟩, hsent⟩ := hcases
      · refine ⟨fun h ↦ (nomatch h), fun _ loop' hloop ↦ ?_⟩
        obtain h | h := h <;> exact nomatch h.symm.trans hloop
      · exact ⟨fun h ↦ (nomatch h), fun h ↦ nomatch h⟩
      · exact nomatch hfresh.symm.trans hsame
      · obtain ⟨-, rfl, -⟩ | ⟨-, pinged, rfl, -⟩ := hsent
        · exact ⟨fun h ↦ (nomatch h), fun h ↦ nomatch h⟩
        · exact ⟨fun h ↦ (nomatch h), fun h ↦ nomatch h⟩

/-- A message arrives. -/
theorem Carries.arrives {c : ProgressIndicator} {m : SocketMessage} {inFlight : List SocketMessage}
    {server : Except SocketEnding SocketLoop} (hc : Carries c server (m :: inFlight)) :
    Carries (c.onMessage m) server inFlight := by
  refine ⟨hc.quiet, hc.unfinished, fun hfinished ↦ ?_, fun hne ↦ absurd rfl hne⟩
  show c.calls ++ ProgressIndicator.callsFor m ≠ [] ∨ _
  obtain hcalls | ⟨status, hmem, hterminal⟩ := hc.finished hfinished
  · exact Or.inl (List.append_ne_nil_of_left_ne_nil hcalls _)
  · obtain rfl | hmem := List.mem_cons.1 hmem
    · exact Or.inl (List.append_ne_nil_of_right_ne_nil _
        (ProgressIndicator.callsFor_ne_nil hterminal))
    · exact Or.inr ⟨status, hmem, hterminal⟩

/-- **Every step that meets the condition keeps the invariant.** -/
theorem Attended.step (hw : Attended w) (hguard : EndsHeard w e)
    (h : step settings w e = some w') : Attended w' := by
  have hlinked := hw.link
  cases moves_of_step h with
  | publish hpending hentry => exact ⟨hw.link, hw.balance, hw.bounded⟩
  | drop => exact ⟨hw.link, hw.balance, hw.bounded⟩
  | accepted hlink =>
    rw [hlink] at hlinked
    refine ⟨⟨hlinked, ?_, fun h ↦ (nomatch h), fun _ ↦ ⟨fun h ↦ (nomatch h), ?_⟩⟩, hw.balance,
      hw.bounded⟩
    · rintro loop hloop status hstatus
      obtain rfl := Except.ok.inj hloop
      cases hstatus
    · rintro - loop hloop
      obtain rfl := Except.ok.inj hloop
      rfl
  | refused hlink =>
    rw [hlink] at hlinked
    exact hw.onError hlinked
  | pass hlink hpass =>
    rw [hlink] at hlinked
    exact ⟨Carries.pass hlinked hpass, hw.balance, hw.bounded⟩
  | @arrives server m rest hlink =>
    rw [hlink] at hlinked
    have hcarries : Carries w.client server (m :: rest) := hlinked
    refine ⟨hcarries.arrives, ?_, Nat.zero_le _⟩
    show 0 = (if m.status?.isSome then 0 else w.reconnects) +
      if w.client.reconnectTimer.isSome then 1 else 0
    rw [hcarries.quiet]
    split
    · rfl
    · next hstatus =>
      -- no status resets the counter, so it was reset before
      have hzero : w.client.reconnectAttempt = 0 := by
        cases m with
        | status s => exact absurd rfl hstatus
        | error text =>
          refine hguard ⟨.error text, ?_, rfl⟩
          rw [ProgressSession.inFlight, hlink]
          rfl
        | heartbeat => exact by_contra fun hne ↦ (hcarries.first hne).1 rfl
      have hbalance := hw.balance
      rw [hzero, hcarries.quiet] at hbalance
      exact hbalance
  | breaks hlink =>
    rw [hlink] at hlinked
    exact hw.onError (Carries.quiet hlinked)
  | @closes ending hlink hending =>
    rw [hlink] at hlinked
    have hcarries : Carries w.client (.error ending) [] := hlinked
    refine ⟨fun _ ↦ ?_, hw.balance, hw.bounded⟩
    obtain hfinished | hcalls := hguard
    · rw [ProgressSession.ending, hlink] at hfinished
      obtain rfl := Option.some.inj hfinished
      refine (hcarries.finished rfl).resolve_right ?_
      rintro ⟨status, hmem, -⟩
      exact absurd hmem List.not_mem_nil
    · exact hcalls
  | timerFires htimer =>
    refine ⟨rfl, ?_, hw.bounded⟩
    have hbalance := hw.balance
    rw [htimer] at hbalance
    exact hbalance

end Steps

/-- **The indicator is never stranded, and reconnects a bounded number of times in a row,** in every
session of which the server ends no connection unheard and no error message arrives on a
reconnecting client. -/
theorem never_stranded {Report : Type} (p : AnalysisPipeline) (calls : PipelineCalls Report)
    (settings : SocketSettings) {es : List ProgressEvent} {w : ProgressSession}
    (hguard : AllSteps (step settings) EndsHeard (start p calls) es)
    (h : run (step settings) (start p calls) es = some w) :
    w.NotStranded ∧ w.reconnects ≤ maxReconnectAttempts := by
  have hstart : Attended (start p calls) := ⟨rfl, rfl, Nat.zero_le _⟩
  have hw : Attended w := invariant_run_of_guard Attended.step hstart hguard h
  refine ⟨fun hclosed htimer ↦ ?_, ?_⟩
  · have hlinked := hw.link
    rw [hclosed] at hlinked
    exact hlinked htimer
  · have hbounded := hw.bounded
    rw [hw.balance] at hbounded
    exact le_of_add_le_left hbounded

/-- A pass at a moment. -/
def passAt (now : ℚ) : SocketPass where
  startedAt := now
  checkedAt := now
  pingedAt := now

/-- A reconnect is refused, and the client connects again to hear that the analysis failed. -/
def failureHeard : List ProgressEvent :=
  [.publish true, .publish true, .publish false, .publish true, .publish true, .refused,
    .timerFires,
    .accepted 1, .pass (passAt 1), .arrives, .closes]

/-- That session. -/
theorem never_stranded_failureHeard :
    ∃ w, run (step {}) (start eurUsd noCandles) failureHeard = some w ∧
      w.NotStranded ∧ w.reconnects ≤ maxReconnectAttempts := by
  have hrun : (run (step {}) (start eurUsd noCandles) failureHeard).isSome = true := by
    decide +kernel
  obtain ⟨w, hw⟩ := Option.isSome_iff_exists.1 hrun
  exact ⟨w, hw, never_stranded eurUsd noCandles {} (by decide +kernel) hw⟩

/-- The duration limit ends a connection while the analysis is running. -/
def durationLimit : List ProgressEvent :=
  [.publish true, .publish true, .accepted 0, .pass (passAt 0), .arrives, .pass (passAt 60),
    .closes]

/-- A connection on which the client hears that the analysis is unknown, and which breaks then. -/
def brokenAfterError : List ProgressEvent :=
  [.accepted 0, .pass (passAt 0), .arrives, .breaks, .timerFires]

/-- The indicator is stranded, and reconnects six times without a status. -/
theorem stranded_by_durationLimit :
    (∃ w ∈ run (step {}) (start eurUsd noCandles) durationLimit, ¬ w.NotStranded) ∧
      ∃ w ∈ run (step {}) (start eurUsd noCandles)
        ([.publish true, .drop] ++ (List.replicate 6 brokenAfterError).flatten),
        w.reconnects = maxReconnectAttempts + 1 := by
  decide +kernel

end ProgressSession

end InvestmentAssistant
