import InvestmentAssistant.Api.AnalysisSocket
import InvestmentAssistant.Api.Validators
import InvestmentAssistant.Core.ClientIdentity

/-!
# The connection slots of the progress socket

`analysis_websocket` acquires a slot of its client before it accepts the connection, and releases it
in the `finally` clause around its loop. Every call it awaits may return, find the client gone, or
raise something else, such as a cancellation (`AwaitOutcome`); the outcomes, the clock and the
entries are given in advance (`SocketEnvironment`), so an execution is a function of them and leaves
a trace of the calls on the limiter (`LimiterCall`).

The acceptance lies between the acquisition and the `try` block. So a slot is released, once,
exactly when it was not granted or the acceptance returns (`slots_released_iff`). The loop itself
always comes to an end, since each turn of it sleeps (`exists_serve`).
-/

namespace InvestmentAssistant

/-! ### Awaited calls -/

/-- How an awaited call ends: it returns, raises `WebSocketDisconnect`, or raises something else. -/
inductive AwaitOutcome
  | returns
  | disconnects
  | raises
  deriving DecidableEq, Repr

/-- How the loop is left: by `break`, by `WebSocketDisconnect`, or by another exception. -/
inductive LoopExit
  | broke
  | disconnected
  | raised
  deriving DecidableEq, Repr

/-- Go on after a call, if it returned. -/
def AwaitOutcome.andThen {α : Type} (outcome : AwaitOutcome) (next : Except LoopExit α) :
    Except LoopExit α :=
  match outcome with
  | .returns => next
  | .disconnects => .error .disconnected
  | .raises => .error .raised

/-- What a turn of the loop meets: the clock, the entry of `analysis_tasks`, and its calls. -/
structure SocketTurn where
  startedAt : ℚ
  entry : Option AnalysisStatus
  /-- `close` when the connection was open for too long. -/
  durationClose : AwaitOutcome := .returns
  /-- `send_text` of a status, or `send_json` of the error. -/
  send : AwaitOutcome := .returns
  checkedAt : ℚ
  heartbeat : AwaitOutcome := .returns
  /-- `close` after a failed heartbeat. -/
  deadClose : AwaitOutcome := .returns
  pingedAt : ℚ
  sleep : AwaitOutcome := .returns

namespace SocketLoop

variable (settings : SocketSettings) (loop : SocketLoop)

/-- The end of a turn: the heartbeat, when it is due, and the sleep. -/
def heartbeatAndSleep (turn : SocketTurn) : Except LoopExit SocketLoop :=
  if settings.pingIntervalSeconds ≤ turn.checkedAt - loop.lastPing then
    match turn.heartbeat with
    | .returns => turn.sleep.andThen (.ok { loop with lastPing := turn.pingedAt })
    | .disconnects => turn.deadClose.andThen (.error .broke)
    | .raises => .error .raised
  else turn.sleep.andThen (.ok loop)

/-- A turn of the loop. -/
def turn (t : SocketTurn) : Except LoopExit SocketLoop :=
  if settings.maxConnectionDurationSeconds ≤ t.startedAt - loop.connectionStart then
    t.durationClose.andThen (.error .broke)
  else
    match t.entry with
    | none => t.send.andThen (.error .broke)
    | some status =>
      let sent : AwaitOutcome := if loop.lastSent = some status then .returns else t.send
      sent.andThen <|
        if status.status.Terminal then .error .broke
        else { loop with lastSent := some status }.heartbeatAndSleep settings t

/-- The loop, for so many turns; nothing when they were not enough. -/
def serve (settings : SocketSettings) : ℕ → SocketLoop → (ℕ → SocketTurn) → Option LoopExit
  | 0, _, _ => none
  | fuel + 1, loop, turns =>
    match loop.turn settings (turns 0) with
    | .error exit => some exit
    | .ok loop => serve settings fuel loop fun i ↦ turns (i + 1)

end SocketLoop

/-! ### The endpoint -/

/-- A request for a progress socket; `connId` is the identifier it draws. -/
structure SocketRequest where
  analysisId : String
  token : Option String
  headers : Headers
  clientHost : Option String
  connId : String

/-- How `acquire` ends. -/
inductive AcquireOutcome
  | granted
  | denied
  | raises
  deriving DecidableEq, Repr

/-- What an execution meets. -/
structure SocketEnvironment where
  /-- `close` for a wrong origin. -/
  originClose : AwaitOutcome := .returns
  acquire : AcquireOutcome := .granted
  /-- `close` for a client without a free slot. -/
  deniedClose : AwaitOutcome := .returns
  accept : AwaitOutcome := .returns
  acceptedAt : ℚ
  turns : ℕ → SocketTurn
  release : AwaitOutcome := .returns

/-- A call on the limiter. -/
inductive LimiterCall
  | acquire (clientIp connId : String) (outcome : AcquireOutcome)
  | release (clientIp connId : String)
  deriving DecidableEq, Repr

/-- How the endpoint ends. -/
inductive EndpointEnd
  | returned
  | raised
  deriving DecidableEq, Repr

/-- The end after a last call outside the `try` block. -/
def AwaitOutcome.ending : AwaitOutcome → EndpointEnd
  | .returns => .returned
  | .disconnects => .raised
  | .raises => .raised

/-- The end after the loop and the release; only `WebSocketDisconnect` is caught. -/
def LoopExit.ending (exit : LoopExit) (release : AwaitOutcome) : EndpointEnd :=
  match exit with
  | .raised => .raised
  | .broke => release.ending
  | .disconnected => release.ending

/-- The settings of the endpoint. -/
structure EndpointSettings where
  socket : SocketSettings := {}
  corsOrigins : List String
  trustedProxies : List IpAddress.Network

/-- `ws_require_auth`. -/
def wsRequireAuth (verifyToken : String → Except PyException String) (token : Option String) :
    Except PyException String :=
  match token with
  | none => .error (.other "Authentication required")
  | some token =>
    if token = "" then .error (.other "Authentication required") else verifyToken token

section Endpoint

variable (settings : EndpointSettings) (verifyToken : String → Except PyException String)
  (request : SocketRequest)

/-- The client of a request. -/
def SocketRequest.clientIp : String :=
  (resolveClientIp settings.trustedProxies request.headers (request.clientHost.getD "unknown")).1

/-- `analysis_websocket`: its calls on the limiter, and how it ends. -/
def analysisWebsocket (env : SocketEnvironment) (fuel : ℕ) :
    Option (List LimiterCall × EndpointEnd) :=
  match validateAnalysisId request.analysisId, wsRequireAuth verifyToken request.token with
  | .error _, _ => some ([], .raised)
  | .ok _, .error _ => some ([], .raised)
  | .ok _, .ok _ =>
    let origin := (request.headers.get "origin").getD ""
    if origin ≠ "" ∧ origin ∉ settings.corsOrigins then some ([], env.originClose.ending)
    else
      let clientIp := request.clientIp settings
      let acquire : LimiterCall := .acquire clientIp request.connId env.acquire
      match env.acquire with
      | .raises => some ([acquire], .raised)
      | .denied => some ([acquire], env.deniedClose.ending)
      | .granted =>
        -- outside the `try` block
        if env.accept = .returns then
          (SocketLoop.serve settings.socket fuel (.accept env.acceptedAt) env.turns).map fun exit ↦
            ([acquire, .release clientIp request.connId], exit.ending env.release)
        else some ([acquire], .raised)

end Endpoint

/-! ### The loop comes to an end -/

/-- What the pass of the progress socket observes of a turn. -/
def SocketTurn.observed (t : SocketTurn) : SocketPass where
  startedAt := t.startedAt
  statusDelivered := decide (t.send = .returns)
  checkedAt := t.checkedAt
  heartbeatDelivered := decide (t.heartbeat = .returns)
  pingedAt := t.pingedAt

namespace SocketLoop

variable {settings : SocketSettings} {loop next : SocketLoop} {t : SocketTurn}

theorem heartbeatAndSleep_eq_ok_iff : loop.heartbeatAndSleep settings t = .ok next ↔
    (loop.keepAlive settings t.observed).2 = .ok next ∧ t.sleep = .returns := by
  rw [heartbeatAndSleep, keepAlive, SocketTurn.observed]
  dsimp only
  split
  · rcases t.heartbeat
    · rcases t.sleep <;> simp [AwaitOutcome.andThen]
    · rcases t.deadClose <;> simp [AwaitOutcome.andThen]
    · simp
  · rcases t.sleep <;> simp [AwaitOutcome.andThen]

/-- **A turn goes on exactly when a pass does**, and the sleep after it returns. -/
theorem turn_eq_ok_iff : loop.turn settings t = .ok next ↔
    (loop.pass settings t.entry t.observed).2 = .ok next ∧ t.sleep = .returns := by
  have hends {e : LoopExit} {e' : SocketEnding} {P : Prop} :
      (Except.error e : Except LoopExit SocketLoop) = .ok next ↔
        (Except.error e' : Except SocketEnding SocketLoop) = .ok next ∧ P :=
    iff_of_false (fun h ↦ nomatch h) fun h ↦ nomatch h.1
  have hdelivered : t.observed.statusDelivered = true ↔ t.send = .returns := decide_eq_true_iff
  rw [turn, pass.eq_def, show t.observed.startedAt = t.startedAt from rfl]
  split
  · rcases t.durationClose <;> exact hends
  rcases t.entry with - | status
  · simp only [hdelivered]
    rcases t.send <;> exact hends
  simp only [hdelivered]
  by_cases hsent : loop.lastSent = some status ∨ t.send = .returns
  · -- what is to be sent is delivered
    have hreturns : (if loop.lastSent = some status then .returns else t.send) =
        AwaitOutcome.returns := by
      split
      · rfl
      · next hchanged => exact hsent.resolve_left hchanged
    rw [hreturns, if_neg (not_and_not_right.2 hsent.resolve_left)]
    split
    · exact hends
    · exact heartbeatAndSleep_eq_ok_iff
  · obtain ⟨hchanged, hsend⟩ := not_or.1 hsent
    rw [if_neg hchanged, if_pos (show _ ∧ _ from ⟨hchanged, hsend⟩)]
    rcases hsend' : t.send
    · exact absurd hsend' hsend
    · exact hends
    · exact hends

/-- The connection keeps the time it was opened. -/
theorem connectionStart_of_turn (h : loop.turn settings t = .ok next) :
    next.connectionStart = loop.connectionStart := by
  obtain ⟨hpass, -⟩ := turn_eq_ok_iff.1 h
  obtain ⟨-, hnext | hnext⟩ | ⟨-, -, hnext⟩ | ⟨status, -, first, -, hsent⟩ :=
    pass_cases (Prod.mk.eta (p := loop.pass settings t.entry t.observed)).symm
  · rw [hnext] at hpass
    exact nomatch hpass
  · rw [hnext] at hpass
    exact nomatch hpass
  · rw [hnext] at hpass
    exact nomatch hpass
  · obtain ⟨-, -, hnext⟩ | ⟨-, pinged, -, hping⟩ := hsent
    · rw [hnext] at hpass
      exact nomatch hpass
    · rw [hpass] at hping
      obtain ⟨-, hnext | hnext⟩ | ⟨-, hnext⟩ := keepAlive_cases hping
      · rw [Except.ok.inj hnext]
      · exact nomatch hnext
      · rw [Except.ok.inj hnext]

/-- The turns of a loop that sleeps for half a second in each of them. -/
def ClockAdvances (turns : ℕ → SocketTurn) : Prop :=
  ∀ i, (turns i).startedAt + 1 / 2 ≤ (turns (i + 1)).startedAt

/-- A loop has ended when its connection was open for too long. -/
theorem exists_serve_of_duration {turns : ℕ → SocketTurn} {n : ℕ}
    (h : settings.maxConnectionDurationSeconds ≤ (turns n).startedAt - loop.connectionStart) :
    ∃ exit, serve settings (n + 1) loop turns = some exit := by
  induction n generalizing loop turns with
  | zero =>
    rw [serve]
    rcases hturn : loop.turn settings (turns 0) with exit | next
    · exact ⟨exit, rfl⟩
    · rw [turn, if_pos h] at hturn
      rcases hclose : (turns 0).durationClose <;> rw [hclose] at hturn <;> exact nomatch hturn
  | succ n ih =>
    rw [serve]
    rcases hturn : loop.turn settings (turns 0) with exit | next
    · exact ⟨exit, rfl⟩
    · refine @ih next (fun i ↦ turns (i + 1)) ?_
      rw [connectionStart_of_turn hturn]
      exact h

/-- **The loop comes to an end.** -/
theorem exists_serve {turns : ℕ → SocketTurn} (hclock : ClockAdvances turns) (loop : SocketLoop) :
    ∃ fuel exit, serve settings fuel loop turns = some exit := by
  have hstarted (n : ℕ) : (turns 0).startedAt + n / 2 ≤ (turns n).startedAt := by
    induction n with
    | zero => simp
    | succ n ih =>
      have hstep := hclock n
      push_cast
      linarith
  obtain ⟨n, hn⟩ := exists_nat_ge
    (2 * (settings.maxConnectionDurationSeconds + loop.connectionStart - (turns 0).startedAt))
  refine ⟨n + 1, exists_serve_of_duration ?_⟩
  have hlate := hstarted n
  linarith

end SocketLoop

/-! ### The slots -/

/-- Every slot that was granted is released once. -/
def SlotsReleased (trace : List LimiterCall) : Prop :=
  ∀ before clientIp connId after, trace = before ++ .acquire clientIp connId .granted :: after →
    after.count (.release clientIp connId) = 1

theorem slotsReleased_of_released (clientIp connId : String) (outcome : AcquireOutcome) :
    SlotsReleased [.acquire clientIp connId outcome, .release clientIp connId] := by
  rintro (- | ⟨_, - | ⟨_, before⟩⟩) clientIp' connId' after h
  · obtain ⟨hcall, rfl⟩ := List.cons.inj h
    obtain ⟨rfl, rfl, -⟩ := LimiterCall.acquire.inj hcall
    exact List.count_singleton_self
  · exact nomatch h
  · exact absurd (congrArg List.length h) (by simp)

/-- An acquisition alone leaves no slot when it is not granted. -/
theorem slotsReleased_singleton_iff {clientIp connId : String} {outcome : AcquireOutcome} :
    SlotsReleased [.acquire clientIp connId outcome] ↔ outcome ≠ .granted := by
  constructor
  · rintro h rfl
    exact absurd (h [] clientIp connId [] rfl) (by simp)
  · rintro h (- | ⟨_, before⟩) clientIp' connId' after heq
    · obtain ⟨hcall, -⟩ := List.cons.inj heq
      exact absurd (LimiterCall.acquire.inj hcall).2.2 h
    · exact absurd (congrArg List.length heq) (by simp)

/-- The request gets to the limiter, and gets a slot. -/
def GetsSlot (settings : EndpointSettings) (verifyToken : String → Except PyException String)
    (request : SocketRequest) (env : SocketEnvironment) : Prop :=
  AnalysisIdValid request.analysisId ∧ (∃ sub, wsRequireAuth verifyToken request.token = .ok sub) ∧
    ¬ ((request.headers.get "origin").getD "" ≠ "" ∧
      (request.headers.get "origin").getD "" ∉ settings.corsOrigins) ∧
    env.acquire = .granted

section Slots

variable {settings : EndpointSettings} {verifyToken : String → Except PyException String}
  {request : SocketRequest} {env : SocketEnvironment}

/-- An execution without a slot is over at once. -/
theorem analysisWebsocket_of_not_getsSlot (h : ¬ GetsSlot settings verifyToken request env)
    (fuel : ℕ) : ∃ trace ending,
      analysisWebsocket settings verifyToken request env fuel = some (trace, ending) ∧
        SlotsReleased trace := by
  have hnil : SlotsReleased [] := fun before _ _ _ heq ↦ absurd heq (by simp)
  rw [analysisWebsocket, validateAnalysisId]
  by_cases hid : AnalysisIdValid request.analysisId
  · rw [if_pos hid]
    rcases hauth : wsRequireAuth verifyToken request.token with e | sub
    · exact ⟨_, _, rfl, hnil⟩
    · dsimp only
      split
      · exact ⟨_, _, rfl, hnil⟩
      · next horigin =>
        have hdenied : env.acquire ≠ .granted := fun hgranted ↦
          h ⟨hid, ⟨sub, hauth⟩, horigin, hgranted⟩
        split
        · exact ⟨_, _, rfl, slotsReleased_singleton_iff.2 hdenied⟩
        · exact ⟨_, _, rfl, slotsReleased_singleton_iff.2 hdenied⟩
        · next hgranted => exact absurd hgranted hdenied
  · rw [if_neg hid]
    exact ⟨_, _, rfl, hnil⟩

/-- An execution with a slot accepts the connection, serves it and releases the slot. -/
theorem analysisWebsocket_of_getsSlot (h : GetsSlot settings verifyToken request env) (fuel : ℕ) :
    analysisWebsocket settings verifyToken request env fuel =
      if env.accept = .returns then
        (SocketLoop.serve settings.socket fuel (.accept env.acceptedAt) env.turns).map fun exit ↦
          ([.acquire (request.clientIp settings) request.connId .granted,
            .release (request.clientIp settings) request.connId], exit.ending env.release)
      else some ([.acquire (request.clientIp settings) request.connId .granted], .raised) := by
  obtain ⟨hid, ⟨sub, hauth⟩, horigin, hgranted⟩ := h
  rw [analysisWebsocket, validateAnalysisId, if_pos hid, hauth]
  dsimp only
  rw [if_neg horigin, hgranted]

/-- **When a slot is leaked.** For every request and every pattern of outcomes: an execution comes
to an end if its loop sleeps, and every slot it was granted is released exactly once if and only if
it was granted none or the acceptance of the connection returned. -/
theorem slots_released_iff (settings : EndpointSettings)
    (verifyToken : String → Except PyException String) (request : SocketRequest)
    (env : SocketEnvironment) :
    (SocketLoop.ClockAdvances env.turns → ∃ fuel trace ending,
      analysisWebsocket settings verifyToken request env fuel = some (trace, ending)) ∧
    ∀ fuel trace ending,
      analysisWebsocket settings verifyToken request env fuel = some (trace, ending) →
      (SlotsReleased trace ↔
        ¬ GetsSlot settings verifyToken request env ∨ env.accept = .returns) := by
  by_cases hslot : GetsSlot settings verifyToken request env
  · simp only [analysisWebsocket_of_getsSlot hslot, hslot, not_true_eq_false, false_or]
    by_cases haccept : env.accept = .returns
    · simp only [haccept, if_true, iff_true]
      refine ⟨fun hclock ↦ ?_, fun fuel trace ending h ↦ ?_⟩
      · obtain ⟨fuel, exit, hserve⟩ := SocketLoop.exists_serve hclock (.accept env.acceptedAt)
        exact ⟨fuel, _, _, congrArg (Option.map _) hserve⟩
      · obtain ⟨exit, -, hresult⟩ := Option.map_eq_some_iff.1 h
        rw [← (Prod.mk.inj hresult).1]
        exact slotsReleased_of_released _ _ _
    · simp only [haccept, if_false, iff_false]
      refine ⟨fun _ ↦ ⟨0, _, _, rfl⟩, fun fuel trace ending h ↦ ?_⟩
      rw [← (Prod.mk.inj (Option.some.inj h)).1]
      exact fun hreleased ↦ slotsReleased_singleton_iff.1 hreleased rfl
  · simp only [hslot, not_false_eq_true, true_or, iff_true]
    refine ⟨fun _ ↦ ?_, fun fuel trace ending h ↦ ?_⟩
    · obtain ⟨trace, ending, hresult, -⟩ := analysisWebsocket_of_not_getsSlot hslot 0
      exact ⟨0, trace, ending, hresult⟩
    · obtain ⟨trace', ending', hresult, hreleased⟩ := analysisWebsocket_of_not_getsSlot hslot fuel
      rw [h] at hresult
      rw [(Prod.mk.inj (Option.some.inj hresult)).1]
      exact hreleased

end Slots

/-- A request of a client that is connected directly. -/
def directRequest : SocketRequest where
  analysisId := "00000000-0000-4000-8000-000000000002"
  token := some "token"
  headers := []
  clientHost := some "203.0.113.5"
  connId := "11111111-1111-4111-8111-111111111111"

/-- Outcomes for it: the acceptance ends as given, and the analysis is not found. -/
def notFoundEnvironment (accept : AwaitOutcome) : SocketEnvironment where
  accept := accept
  acceptedAt := 0
  turns i := { startedAt := i, entry := none, checkedAt := i, pingedAt := i }

/-- An accepted request for an unknown analysis gives its slot back. -/
theorem slots_released_notFound :
    let env := notFoundEnvironment .returns
    let call := analysisWebsocket ⟨{}, [], []⟩ (fun _ ↦ .ok "dev") directRequest env
    (∃ fuel trace ending, call fuel = some (trace, ending)) ∧
      ∃ trace ending, call 1 = some (trace, ending) ∧
        (SlotsReleased trace ↔ ¬ GetsSlot ⟨{}, [], []⟩ (fun _ ↦ .ok "dev") directRequest env ∨
          env.accept = .returns) := by
  intro env call
  obtain ⟨hends, hreleased⟩ := slots_released_iff ⟨{}, [], []⟩ (fun _ ↦ .ok "dev") directRequest env
  have hcall : call 1 = some ([.acquire "203.0.113.5" directRequest.connId .granted,
      .release "203.0.113.5" directRequest.connId], .returned) := by
    decide +kernel
  refine ⟨hends fun i ↦ ?_, _, _, hcall, hreleased 1 _ _ hcall⟩
  show (i : ℚ) + 1 / 2 ≤ ((i + 1 : ℕ) : ℚ)
  push_cast
  linarith

/-- When the client is gone before its connection is accepted, its slot is not released. -/
theorem slot_leaked_by_accept :
    let env := notFoundEnvironment .disconnects
    let acquired : LimiterCall := .acquire "203.0.113.5" directRequest.connId .granted
    analysisWebsocket ⟨{}, [], []⟩ (fun _ ↦ .ok "dev") directRequest env 1 =
        some ([acquired], .raised) ∧
      ¬ SlotsReleased [acquired] := by
  refine ⟨by decide +kernel, fun h ↦ ?_⟩
  exact slotsReleased_singleton_iff.1 h rfl

end InvestmentAssistant
