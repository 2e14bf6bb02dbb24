import InvestmentAssistant.Orchestration.StatusTrace

/-!
# The progress socket

`analysis_websocket` pushes the status of an analysis to a client. After the handshake it loops:
each pass looks at the entry of `analysis_tasks`, sends it when it changed, and sends a heartbeat
when the last one is long ago. A connection ends for one of five reasons (`SocketEnding`).

A pass depends on the clock, on the entry, and on whether the client is still there for what is
sent. What it observes is a value (`SocketPass`), so a pass is a function (`SocketLoop.pass`), and
what it can do is said once, in `SocketLoop.pass_cases`.
-/

namespace InvestmentAssistant

/-- `WS_MAX_CONNECTION_DURATION_SECONDS` and `WS_PING_INTERVAL_SECONDS`. -/
structure SocketSettings where
  maxConnectionDurationSeconds : ℤ := 60
  pingIntervalSeconds : ℤ := 30
  deriving DecidableEq, Repr

/-- `_ANALYSIS_NOT_FOUND`. -/
def analysisNotFound : String := "Analysis not found"

/-- What is sent: `model_dump_json` of a status, `{"error": …}`, or `{"type": "heartbeat"}`. There
is no common tag. -/
inductive SocketMessage
  | status (status : AnalysisStatus)
  | error (text : String)
  | heartbeat
  deriving DecidableEq, Repr

/-- The status in a message. -/
def SocketMessage.status? : SocketMessage → Option AnalysisStatus
  | .status s => some s
  | _ => none

/-- Why the loop ends. The server closes the connection cleanly, unless it finds that the client is
gone when it sends a status or an error. -/
inductive SocketEnding
  | durationExceeded
  | notFound
  | finished
  | deadConnection
  | disconnected
  deriving DecidableEq, Repr

/-- The local variables of the loop; `last_sent` is empty at first, and then the text of a
status. -/
structure SocketLoop where
  connectionStart : ℚ
  lastPing : ℚ
  lastSent : Option AnalysisStatus := none
  deriving DecidableEq, Repr

/-- A connection that was accepted just now. -/
def SocketLoop.accept (now : ℚ) : SocketLoop where
  connectionStart := now
  lastPing := now

/-- What a pass observes, apart from the entry: the clock at its beginning, before and after the
heartbeat, and whether the client is there for the status or error and for the heartbeat. -/
structure SocketPass where
  startedAt : ℚ
  statusDelivered : Bool := true
  checkedAt : ℚ
  heartbeatDelivered : Bool := true
  pingedAt : ℚ
  deriving DecidableEq, Repr

namespace SocketLoop

variable (settings : SocketSettings) (loop : SocketLoop)

/-- The end of a pass, after the status was sent. -/
def keepAlive (observed : SocketPass) : List SocketMessage × Except SocketEnding SocketLoop :=
  if settings.pingIntervalSeconds ≤ observed.checkedAt - loop.lastPing then
    if observed.heartbeatDelivered then
      ([.heartbeat], .ok { loop with lastPing := observed.pingedAt })
    else
      ([], .error .deadConnection)
  else
    ([], .ok loop)

/-- A pass through the loop: what it sends, and the loop after it or the reason why it ends. -/
def pass (entry : Option AnalysisStatus) (observed : SocketPass) :
    List SocketMessage × Except SocketEnding SocketLoop :=
  if settings.maxConnectionDurationSeconds ≤ observed.startedAt - loop.connectionStart then
    ([], .error .durationExceeded)
  else
    match entry with
    | none =>
      if observed.statusDelivered then ([.error analysisNotFound], .error .notFound)
      else ([], .error .disconnected)
    | some status =>
      if loop.lastSent ≠ some status ∧ ¬observed.statusDelivered then ([], .error .disconnected)
      else
        let sent : List SocketMessage :=
          if loop.lastSent = some status then [] else [.status status]
        if status.status.Terminal then
          (sent, .error .finished)
        else
          let (pinged, next) := { loop with lastSent := some status }.keepAlive settings observed
          (sent ++ pinged, next)

variable {settings loop} {entry : Option AnalysisStatus} {observed : SocketPass}
  {sent : List SocketMessage} {next : Except SocketEnding SocketLoop}

/-- What a keep-alive can do. -/
theorem keepAlive_cases (h : loop.keepAlive settings observed = (sent, next)) :
    (sent = [] ∧ (next = .ok loop ∨ next = .error .deadConnection)) ∨
      (sent = [.heartbeat] ∧ next = .ok { loop with lastPing := observed.pingedAt }) := by
  unfold keepAlive at h
  split at h
  · split at h
    · obtain ⟨rfl, rfl⟩ := Prod.mk.inj h
      exact Or.inr ⟨rfl, rfl⟩
    · obtain ⟨rfl, rfl⟩ := Prod.mk.inj h
      exact Or.inl ⟨rfl, Or.inr rfl⟩
  · obtain ⟨rfl, rfl⟩ := Prod.mk.inj h
    exact Or.inl ⟨rfl, Or.inl rfl⟩

/-- **What a pass can do.** It ends without a message; or there is no entry, and it says so; or it
sends an entry that changed, and ends when that is terminal; or the entry is the one it sent last.
In the last two cases a heartbeat may follow. -/
theorem pass_cases (h : loop.pass settings entry observed = (sent, next)) :
    (sent = [] ∧ (next = .error .durationExceeded ∨ next = .error .disconnected)) ∨
    (entry = none ∧ sent = [.error analysisNotFound] ∧ next = .error .notFound) ∨
    ∃ status, entry = some status ∧ ∃ first : List SocketMessage,
      (first = [] ∧ loop.lastSent = some status ∨
        first = [.status status] ∧ loop.lastSent ≠ some status) ∧
      (status.status.Terminal ∧ sent = first ∧ next = .error .finished ∨
        ¬ status.status.Terminal ∧ ∃ pinged, sent = first ++ pinged ∧
          { loop with lastSent := some status }.keepAlive settings observed = (pinged, next)) := by
  unfold pass at h
  split at h
  · obtain ⟨rfl, rfl⟩ := Prod.mk.inj h
    exact Or.inl ⟨rfl, Or.inl rfl⟩
  cases entry with
  | none =>
    dsimp only at h
    split at h
    · obtain ⟨rfl, rfl⟩ := Prod.mk.inj h
      exact Or.inr (Or.inl ⟨rfl, rfl, rfl⟩)
    · obtain ⟨rfl, rfl⟩ := Prod.mk.inj h
      exact Or.inl ⟨rfl, Or.inr rfl⟩
  | some status =>
    dsimp only at h
    split at h
    · obtain ⟨rfl, rfl⟩ := Prod.mk.inj h
      exact Or.inl ⟨rfl, Or.inr rfl⟩
    refine Or.inr (Or.inr ⟨status, rfl,
      if loop.lastSent = some status then [] else [.status status],
      ?_, ?_⟩)
    · split
      · next hsame => exact Or.inl ⟨rfl, hsame⟩
      · next hchanged => exact Or.inr ⟨rfl, hchanged⟩
    · split at h
      · next hterminal =>
        obtain ⟨rfl, rfl⟩ := Prod.mk.inj h
        exact Or.inl ⟨hterminal, rfl, rfl⟩
      · next hopen =>
        obtain ⟨rfl, rfl⟩ := Prod.mk.inj h
        exact Or.inr ⟨hopen, _, rfl, rfl⟩

/-- A pass sends no other status than the entry. -/
theorem entry_of_mem_pass {status : AnalysisStatus}
    (h : loop.pass settings entry observed = (sent, next)) (hmem : .status status ∈ sent) :
    entry = some status := by
  obtain ⟨rfl, -⟩ | ⟨-, rfl, -⟩ | ⟨s, hentry, first, hfirst, hsent⟩ := pass_cases h
  · exact nomatch hmem
  · exact nomatch List.mem_singleton.1 hmem
  have hmem' : .status status ∈ first := by
    obtain ⟨-, rfl, -⟩ | ⟨-, pinged, rfl, hpinged⟩ := hsent
    · exact hmem
    · refine (List.mem_append.1 hmem).resolve_right fun hmem ↦ ?_
      obtain ⟨rfl, -⟩ | ⟨rfl, -⟩ := keepAlive_cases hpinged
      · exact nomatch hmem
      · exact nomatch List.mem_singleton.1 hmem
  obtain ⟨rfl, -⟩ | ⟨rfl, -⟩ := hfirst
  · exact nomatch hmem'
  · obtain rfl := SocketMessage.status.inj (List.mem_singleton.1 hmem')
    exact hentry

end SocketLoop

end InvestmentAssistant
