import RmttGo.ClientCoherence
import RmttGo.ServerAttempts

/-!
# The status and the connection agree

Every step of the client keeps it coherent.  So in every state reached a
disconnected client has no connection, and a connected one has one unless
`attemptConnection` has returned a nil connection without an error, which it
does when there are no servers.
-/

namespace RmttGo

namespace Client

namespace Coherent

variable {supplied : Prop} {s : ClientSystem} {goroutine : Nat}
  {activity : Activity}

theorem connect (coherent : Coherent supplied s) {options : Options}
    {later : ClientSystem}
    (stepped : s.withStatus goroutine (.connecting goroutine)
      (.afterConnecting options) = some later) :
    Coherent supplied later := by
  obtain ⟨status, stepTo, rfl⟩ := withStatus_eq_some stepped
  refine coherent.operation stepTo rfl ?_
  cases stepTo with
  | connecting ready =>
      have call : (s.status.record goroutine
          (s.status.shared.connecting.map .returned id)).calls goroutine =
          .returned s.status.shared.connecting.1 := Function.update_self ..
      rw [call]
      apply Activity.afterConnecting_follows
      by_cases disconnected : s.status.shared.status = .disconnected
      · rw [ConnectionStatus.connecting_of_disconnected disconnected]
        exact .inl ⟨rfl, coherent.disconnected disconnected⟩
      · obtain ⟨error, refused⟩ :=
          ConnectionStatus.connecting_of_ne_disconnected disconnected
        rw [refused]
        exact .inr ⟨error, rfl⟩

theorem disconnect (coherent : Coherent supplied s) {later : ClientSystem}
    (stepped : s.withStatus goroutine (.disconnecting goroutine)
      .afterDisconnecting = some later) :
    Coherent supplied later := by
  obtain ⟨status, stepTo, rfl⟩ := withStatus_eq_some stepped
  refine coherent.operation stepTo rfl ?_
  apply Activity.afterDisconnecting_follows
  cases stepTo with
  | disconnecting ready =>
      simpa [StatusSystem.record] using
        s.status.shared.disconnecting_ofDisconnecting

theorem connectionLost (coherent : Coherent supplied s) {willReconnect : Bool}
    {own : Option Nat} {later : ClientSystem}
    (stepped : s.withStatus goroutine (.connectionLost goroutine willReconnect)
      (.afterConnectionLost own) = some later) :
    Coherent supplied later := by
  obtain ⟨status, stepTo, rfl⟩ := withStatus_eq_some stepped
  refine coherent.operation stepTo rfl ?_
  apply Activity.afterConnectionLost_follows
  cases stepTo with
  | connectionLost ready =>
      simpa [StatusSystem.record] using
        s.status.shared.connectionLost_ofConnectionLost willReconnect

theorem resumeDisconnect (coherent : Coherent supplied s) {later : ClientSystem}
    (current : s.activity goroutine = .disconnecting)
    (stepped : s.withStatus goroutine (.resume goroutine) .afterDisconnecting =
      some later) :
    Coherent supplied later := by
  obtain ⟨status, stepTo, rfl⟩ := withStatus_eq_some stepped
  refine coherent.operation stepTo rfl ?_
  apply Activity.afterDisconnecting_follows
  have runs := coherent.runs goroutine
  rw [current] at runs
  cases stepTo with
  | resume resumed =>
      simpa [StatusSystem.record] using
        (ConnectionStatus.resumed_of_resume resumed).ofDisconnecting runs.1

theorem resumeLoss (coherent : Coherent supplied s) {own : Option Nat}
    {later : ClientSystem}
    (current : s.activity goroutine = .losing own)
    (stepped : s.withStatus goroutine (.resume goroutine)
      (.afterConnectionLost own) = some later) :
    Coherent supplied later := by
  obtain ⟨status, stepTo, rfl⟩ := withStatus_eq_some stepped
  refine coherent.operation stepTo rfl ?_
  apply Activity.afterConnectionLost_follows
  have runs := coherent.runs goroutine
  rw [current] at runs
  cases stepTo with
  | resume resumed =>
      simpa [StatusSystem.record] using
        (ConnectionStatus.resumed_of_resume resumed).ofConnectionLost runs.1

theorem connectionUp (coherent : Coherent supplied s) {options : Options}
    {later : ClientSystem}
    (stepped : s.step options (.connectionUp goroutine) = some later) :
    Coherent supplied later := by
  simp only [ClientSystem.step] at stepped
  split at stepped
  case h_1 current =>
      have noConn : s.conn = none := by
        simpa [current, Activity.Agrees] using coherent.agrees goroutine
      refine coherent.complete current rfl stepped (by rintro _ _ ⟨⟩)
        (fun _ => noConn) ?_
      intro result status completed
      refine ⟨?_, trivial, id, trivial⟩
      cases completed <;> rfl
  case h_2 current =>
      exact absurd (coherent.agrees goroutine) (by simp [current, Activity.Agrees])
  case h_3 own current =>
      have agrees := coherent.agrees goroutine
      rw [current] at agrees
      obtain ⟨itsConn, returned⟩ := agrees
      refine coherent.complete current rfl stepped ?_ (by simp) ?_
      · intro isSupplied _ _
        rw [itsConn]
        exact returned isSupplied
      · intro result status completed
        refine ⟨?_, trivial, fun _ => trivial, trivial⟩
        cases completed <;> rfl
  case h_4 => cases stepped

theorem disDone (coherent : Coherent supplied s) {options : Options}
    {later : ClientSystem}
    (stepped : s.step options (.disDone goroutine) = some later) :
    Coherent supplied later := by
  simp only [ClientSystem.step] at stepped
  have agrees := coherent.agrees goroutine
  split at stepped
  case h_1 current =>
      rw [current] at agrees
      refine coherent.complete current rfl stepped (by rintro _ ⟨⟩)
        (fun _ => agrees) ?_
      intro result status completed
      refine ⟨?_, trivial, id, trivial⟩
      cases completed
      rfl
  case h_2 own reconnectRequested current =>
      rw [current] at agrees
      refine coherent.complete current rfl stepped (by rintro _ ⟨⟩)
        (fun _ => agrees) ?_
      intro result status completed
      refine ⟨?_, trivial, id, trivial⟩
      cases completed with
      | stopped => split <;> rfl
      | reconnecting wanted proceed => cases proceed
  case h_3 reconnectRequested current =>
      rw [current] at agrees
      refine coherent.complete current rfl stepped (by rintro _ ⟨⟩)
        (fun _ => agrees) ?_
      intro result status completed
      cases completed with
      | stopped => split <;> exact ⟨rfl, trivial, id, trivial⟩
      | reconnecting wanted proceed => exact ⟨rfl, agrees, id, trivial⟩
  case h_4 => cases stepped

theorem attemptFailed (coherent : Coherent supplied s) {options : Options}
    {retryable : Bool} {conn : Option Nat} {later : ClientSystem}
    (stepped : s.step options (.attemptFailed goroutine retryable conn) =
      some later) :
    Coherent supplied later := by
  simp only [ClientSystem.step] at stepped
  have agrees := coherent.agrees goroutine
  split at stepped
  case h_1 current =>
      rw [current] at agrees
      split at stepped
      · cases stepped
        exact coherent
      · cases stepped
        exact coherent.become current rfl agrees id id
  case h_2 current =>
      rw [current] at agrees
      split at stepped
      · cases stepped
        exact coherent.become current rfl agrees id id
      · cases stepped
        exact coherent
  case h_3 => cases stepped

theorem startWorkers (coherent : Coherent supplied s) {options : Options}
    {keepalive : Nat} {later : ClientSystem}
    (stepped : s.step options (.startWorkers goroutine keepalive) =
      some later) :
    Coherent supplied later := by
  simp only [ClientSystem.step] at stepped
  have agrees := coherent.agrees goroutine
  split at stepped
  case h_1 own current =>
      rw [current] at agrees
      split at stepped
      · cases stepped
      · rename_i free
        rw [not_not] at free
        obtain ⟨noConn, returned⟩ := agrees
        rw [if_neg (by simp [noConn])] at stepped
        have installed : Coherent supplied (s.install goroutine own) := by
          refine coherent.rearranged current rfl ⟨rfl, returned⟩
            (.inr (by simp [Activity.holds])) (fun _ => rfl) ?_ id
          intro other _ otherLocks
          cases free.symm.trans (coherent.locked other otherLocks)
        split at stepped
        · exact installed.spawn stepped
        · cases stepped
          exact installed
  case h_2 => cases stepped

theorem startComms (coherent : Coherent supplied s) {options : Options}
    {comms incoming : Nat} {later : ClientSystem}
    (stepped : s.step options (.startComms goroutine comms incoming) =
      some later) :
    Coherent supplied later := by
  simp only [ClientSystem.step] at stepped
  split at stepped
  case h_1 own current =>
      obtain ⟨between, spawned, spawnedToo⟩ := Option.bind_eq_some_iff.mp stepped
      refine (Coherent.spawn ?_ spawned).spawn spawnedToo
      refine coherent.rearranged current rfl trivial (.inl rfl) (by rintro ⟨⟩)
        ?_ id
      intro other different otherLocks
      have mine : s.connMu = some goroutine :=
        coherent.locked goroutine (by rw [current]; trivial)
      cases mine.symm.trans (coherent.locked other otherLocks)
      exact absurd rfl different
  case h_2 => cases stepped

/-- `internalConnLost` stops the workers and leaves its completion function to
the goroutine that waits for them. -/
theorem handOver (coherent : Coherent supplied s) {waiter : Nat}
    {own : Option Nat} {reconnectRequested : Bool}
    (current : s.activity goroutine = .lossStopping own reconnectRequested)
    (isIdle : s.activity waiter = .idle) :
    Coherent supplied (({ s with conn := none }.become goroutine
      (.working own)).become waiter (.lossAwaiting reconnectRequested)) := by
  have isHeld : (s.activity goroutine).holds =
      some (.connectionLostHandler reconnectRequested) := by
    rw [current]
    rfl
  have owner : (s.activity goroutine).holds ≠ none := by simp [isHeld]
  obtain ⟨notDisconnected, notConnected⟩ := coherent.not_final owner
  have dropped : Coherent supplied ({ s with conn := none }.become goroutine
      (.working own)) := by
    apply coherent.moved coherent.inPhase
    · rintro function ⟨⟩
    · intro other function _
      exact coherent.held other function
    · intro holds
      exact absurd rfl holds
    · trivial
    · intro other different
      exact Activity.agrees_of_holds_none
        (coherent.holds_eq_none_of_ne owner different)
    · rintro ⟨⟩
    · intro other _
      exact coherent.locked other
    · have runs := coherent.runs goroutine
      rw [current] at runs
      exact runs
    · intro other _
      rfl
    · intro _ status
      exact absurd status notConnected
    · intro _
      rfl
  have nobody : ∀ other, (({ s with conn := none }.become goroutine
      (.working own)).activity other).holds = none := by
    intro other
    rcases activity_become { s with conn := none } goroutine (.working own) other
      with ⟨-, new⟩ | ⟨different, old⟩
    · rw [new]
      rfl
    · rw [old]
      exact coherent.holds_eq_none_of_ne owner different
  apply dropped.moved dropped.inPhase
  · rintro function ⟨⟩
    exact coherent.held goroutine _ isHeld
  · intro other function _
    exact dropped.held other function
  · intro _ other _
    exact nobody other
  · rfl
  · intro other _
    exact dropped.agrees other
  · rintro ⟨⟩
  · intro other _
    exact dropped.locked other
  · have runs := coherent.runs waiter
    rw [isIdle] at runs
    exact runs
  · intro other _
    rfl
  · exact dropped.connected
  · exact dropped.disconnected

theorem stopCommsWorkers (coherent : Coherent supplied s) {options : Options}
    {waiter : Nat} {later : ClientSystem}
    (stepped : s.step options (.stopCommsWorkers goroutine waiter) =
      some later) :
    Coherent supplied later := by
  simp only [ClientSystem.step] at stepped
  split at stepped
  · cases stepped
  · split at stepped
    case h_1 current noConn =>
        cases stepped
        exact coherent.become current rfl noConn id id
    case h_2 current hasConn =>
        cases stepped
        exact coherent.rearranged current rfl rfl (.inr (by simp [Activity.holds]))
          (by rintro ⟨⟩) (fun other _ => coherent.locked other) id
    case h_3 own reconnectRequested current noConn =>
        cases stepped
        exact coherent.become current rfl noConn id id
    case h_4 own reconnectRequested old current hasConn =>
        obtain ⟨isIdle, ⟨⟩⟩ := Option.ite_none_right_eq_some.mp stepped
        exact coherent.handOver current isIdle
    case h_5 => cases stepped

theorem workersStopped (coherent : Coherent supplied s) {options : Options}
    {later : ClientSystem}
    (stepped : s.step options (.workersStopped goroutine) = some later) :
    Coherent supplied later := by
  simp only [ClientSystem.step] at stepped
  have agrees := coherent.agrees goroutine
  split at stepped
  · cases stepped
  · split at stepped
    case h_1 current =>
        rw [current] at agrees
        cases stepped
        exact coherent.become current rfl agrees id id
    case h_2 reconnectRequested current =>
        rw [current] at agrees
        cases stepped
        exact coherent.become current rfl agrees id id
    case h_3 => cases stepped

theorem step {options : Options} {event : ClientEvent} {later : ClientSystem}
    (coherent : Coherent supplied s)
    (returns : supplied → event.ReturnsConnection)
    (stepped : s.step options event = some later) :
    Coherent supplied later := by
  cases event with
  | connect goroutine =>
      obtain ⟨-, stepped⟩ := Option.ite_none_right_eq_some.mp stepped
      exact coherent.connect stepped
  | attemptFailed goroutine retryable conn =>
      exact coherent.attemptFailed stepped
  | attemptSucceeded goroutine conn =>
      simp only [ClientSystem.step] at stepped
      have agrees := coherent.agrees goroutine
      split at stepped
      case h_1 isReconnect current =>
          rw [current] at agrees
          cases stepped
          exact coherent.become current rfl ⟨agrees, returns⟩ id id
      case h_2 => cases stepped
  | startWorkers goroutine keepalive => exact coherent.startWorkers stepped
  | connectionUp goroutine => exact coherent.connectionUp stepped
  | startComms goroutine comms incoming => exact coherent.startComms stepped
  | disconnect goroutine =>
      obtain ⟨-, stepped⟩ := Option.ite_none_right_eq_some.mp stepped
      exact coherent.disconnect stepped
  | resume goroutine =>
      simp only [ClientSystem.step] at stepped
      split at stepped
      case h_1 current => exact coherent.resumeDisconnect current stepped
      case h_2 own current => exact coherent.resumeLoss current stepped
      case h_3 => cases stepped
  | stopCommsWorkers goroutine waiter => exact coherent.stopCommsWorkers stepped
  | workersStopped goroutine => exact coherent.workersStopped stepped
  | disDone goroutine => exact coherent.disDone stepped
  | reportLoss goroutine =>
      simp only [ClientSystem.step] at stepped
      split at stepped
      case h_1 own current =>
          cases stepped
          exact coherent.become current rfl trivial id id
      case h_2 => cases stepped
  | connectionLost goroutine =>
      simp only [ClientSystem.step] at stepped
      split at stepped
      case h_1 own willReconnect current => exact coherent.connectionLost stepped
      case h_2 => cases stepped
  | workerDone goroutine =>
      simp only [ClientSystem.step] at stepped
      split at stepped
      case h_1 own current =>
          cases stepped
          exact (coherent.setWorkers (s.workers - 1)).become current rfl trivial
            id id
      case h_2 => cases stepped

end Coherent

section Attempts

variable {TLSConfig : Type}

/-- The errors behind which `Connect` may try again.  With the others the
connection has been closed. -/
def AttemptError.retryable : AttemptError → Bool
  | .refusedBadProtocolVersion | .refusedNotAuthorised | .protocolViolation => false
  | .unknownProtocol | .unreachable | .notSecured | .notWritten | .unreadable _
  | .notConnack => true

/-- What `Connect` and `reconnect` see of an attempt; `conn` names the
connection, if the attempt returns one. -/
def Attempt.event (attempt : Attempt TLSConfig) (goroutine conn : Nat) :
    ClientEvent :=
  let returned := attempt.conn.map fun _ => conn
  match attempt.err with
  | none => .attemptSucceeded goroutine returned
  | some err =>
      .attemptFailed goroutine err.retryable (if err.retryable then returned else none)

/-- An attempt returns a nil connection without an error exactly if there are no
servers. -/
theorem returnsConnection_attempt_iff (options : AttemptOptions TLSConfig)
    (serverKp : Int) (servers : List ServerTry) (goroutine conn : Nat) :
    ((options.attemptConnection serverKp servers).event goroutine
        conn).ReturnsConnection ↔ servers ≠ [] := by
  rw [← options.returns_conn_iff serverKp servers]
  generalize options.attemptConnection serverKp servers = attempt
  cases failed : attempt.err with
  | none => simp [Attempt.event, failed, ClientEvent.ReturnsConnection]
  | some err => simp [Attempt.event, failed, ClientEvent.ReturnsConnection]

end Attempts

section Agreement

theorem coherent_of_supplied_run {options : Options} {events : List ClientEvent}
    {s : ClientSystem} (returns : ∀ event ∈ events, event.ReturnsConnection)
    (executed : EventRun.run (ClientSystem.step options) .initial events =
      some s) : Coherent True s := by
  have meets : EventRun.Meets (ClientSystem.step options)
      (fun _ event => event.ReturnsConnection) .initial events :=
    EventRun.meets_of_forall_mem returns
  refine EventRun.invariant_of_meets (Coherent True) ?_ Coherent.initial meets
    executed
  intro state next event coherent returned stepped
  exact coherent.step (fun _ => returned) stepped

/-- In every state of the client that is reached without an attempt returning a
nil connection and no error, connected means that `c.conn` is set, disconnected
that it is nil, and no goroutine is in the branch of `startWorkers` that finds a
connection already running. -/
theorem status_agrees_with_conn (options : Options)
    {events : List ClientEvent} {s : ClientSystem}
    (returns : ∀ event ∈ events, event.ReturnsConnection)
    (executed : EventRun.run (ClientSystem.step options) .initial events =
      some s) :
    (s.status.shared.status = .connected → s.conn ≠ none) ∧
      (s.status.shared.status = .disconnected → s.conn = none) ∧
      ∀ goroutine, s.activity goroutine ≠ .alreadyRunning := by
  have coherent := coherent_of_supplied_run returns executed
  refine ⟨coherent.connected trivial, coherent.disconnected, ?_⟩
  intro goroutine running
  have agrees := coherent.agrees goroutine
  rw [running] at agrees
  exact agrees

/-- A connection is lost, and `reconnect` comes to its first attempt. -/
def lostOnce : List ClientEvent :=
  [.connect 0, .attemptSucceeded 0 (some 7), .startWorkers 0 1, .connectionUp 0,
    .startComms 0 2 3, .reportLoss 2, .connectionLost 2, .stopCommsWorkers 2 4,
    .workerDone 1, .workerDone 2, .workerDone 3, .workersStopped 4, .disDone 4]

/-- The keepalive goroutine of the next connection reports a loss before
`connectionUp` has run; the connection behind it stays. -/
def lostEarly : List ClientEvent :=
  lostOnce ++
    [.attemptSucceeded 4 (some 8), .startWorkers 4 5, .reportLoss 5,
      .connectionLost 5, .connectionUp 4, .startComms 4 6 7, .resume 5,
      .stopCommsWorkers 5 8, .workerDone 5, .workerDone 6, .workerDone 7,
      .workersStopped 8, .disDone 8, .attemptSucceeded 8 (some 9),
      .startWorkers 8 9, .connectionUp 8]

theorem status_agrees_with_conn_early_loss :
    ∃ s, EventRun.run (ClientSystem.step ⟨true, true, true, true⟩) .initial
        lostEarly = some s ∧
      s.status.shared.status = .connected ∧ s.conn ≠ none := by
  obtain ⟨s, executed, connected⟩ : ∃ s,
      EventRun.run (ClientSystem.step ⟨true, true, true, true⟩) .initial
          lostEarly = some s ∧ s.status.shared.status = .connected :=
    ⟨_, rfl, rfl⟩
  exact ⟨s, executed, connected,
    (status_agrees_with_conn _ (by decide) executed).1 connected⟩

/-- `OnReconnecting` has emptied the list of servers: the attempt returns neither
a connection nor an error, and `startWorkers` reports a connection. -/
theorem connected_without_conn :
    let attempt : ClientEvent :=
      (AttemptOptions.attemptConnection ⟨(), none⟩ 0 []).event 4 8
    ¬ attempt.ReturnsConnection ∧
      ∃ s, EventRun.run (ClientSystem.step ⟨true, true, true, true⟩) .initial
          (lostOnce ++ [attempt, .startWorkers 4 5, .connectionUp 4]) = some s ∧
        s.status.shared.status = .connected ∧ s.conn = none := by
  refine ⟨?_, _, rfl, rfl, rfl⟩
  rw [returnsConnection_attempt_iff]
  exact not_not_intro rfl

end Agreement

end Client

end RmttGo
