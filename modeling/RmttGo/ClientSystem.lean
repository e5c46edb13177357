import RmttGo.StatusSystem

/-!
# The goroutines of a client

`Connect`, `Disconnect`, `reconnect`, `startWorkers`, `stopCommsWorkers` and
`internalConnLost` as steps of goroutines that share the connection status,
the field `conn` with its lock, and the wait group of the workers.  Everything
the status decides goes through `StatusSystem.step`, so a run of the client
carries a run of the status.  The goroutines of a nil connection panic at their
first read or write; here they go on like any others, so that the client has all
the runs of the code up to that moment.
-/

namespace RmttGo

namespace Client

/-- What the modelled functions read of `ClientOptions`. -/
structure Options where
  autoReconnect : Bool
  connectRetry : Bool
  /-- `Heartbeat != 0 || AdaptiveHeartbeat`. -/
  keepsAlive : Bool
  /-- `len(Servers) != 0`. -/
  hasServers : Bool
  deriving DecidableEq, Repr

/-- Where a goroutine of the client stands.  The `net.Conn` it works with may be
nil.  A Boolean on a loss is the flag of the connection-lost handler it holds. -/
inductive Activity
  | idle
  /-- In the loop around `attemptConnection`, of `reconnect` or of `Connect`. -/
  | attempting (isReconnect : Bool)
  | givingUp
  | starting (conn : Option Nat)
  /-- In the branch of `startWorkers` that found a connection. -/
  | alreadyRunning
  /-- In `startWorkers`, `c.conn` is set, `connectionUp(true)` comes next. -/
  | reporting (conn : Option Nat)
  /-- In `startWorkers`, behind `connectionUp`. -/
  | startingComms (conn : Option Nat)
  | disconnecting
  /-- `Disconnect` has `disDone` and `stopCommsWorkers` before it. -/
  | stopping
  | awaitingWorkers
  | finishing
  /-- A goroutine that `startWorkers` started for the connection. -/
  | working (conn : Option Nat)
  /-- `internalConnLost` has read the status and decided on reconnecting. -/
  | lossSeen (conn : Option Nat) (willReconnect : Bool)
  | losing (conn : Option Nat)
  /-- `internalConnLost` has `disDone` and `stopCommsWorkers` before it. -/
  | lossStopping (conn : Option Nat) (reconnectRequested : Bool)
  /-- `stopCommsWorkers` returned nil. -/
  | lossNotRunning (conn : Option Nat) (reconnectRequested : Bool)
  /-- The goroutine `internalConnLost` leaves behind. -/
  | lossAwaiting (reconnectRequested : Bool)
  | lossFinishing (reconnectRequested : Bool)
  | finished
  deriving DecidableEq, Repr

structure ClientSystem where
  status : StatusSystem
  conn : Option Nat
  /-- The goroutine that holds `connMu` across steps. -/
  connMu : Option Nat
  /-- Goroutines of connections that have not ended, which `stopCommsWorkers`
  waits for with the wait group or on `commsStopped`. -/
  workers : Nat
  activity : Nat → Activity

inductive ClientEvent
  | connect (goroutine : Nat)
  /-- `attemptConnection` returns an error; `conn` is the connection it returns
  with it, unless that is nil or closed. -/
  | attemptFailed (goroutine : Nat) (retryable : Bool) (conn : Option Nat)
  /-- `attemptConnection` returns no error; without servers `conn` is nil. -/
  | attemptSucceeded (goroutine : Nat) (conn : Option Nat)
  | startWorkers (goroutine : Nat) (keepalive : Nat)
  | connectionUp (goroutine : Nat)
  /-- Of the goroutines that `startWorkers` starts behind `connectionUp`, the
  comms goroutine and the one of `startIncomingComms` report losses. -/
  | startComms (goroutine : Nat) (comms : Nat) (incoming : Nat)
  | disconnect (goroutine : Nat)
  | resume (goroutine : Nat)
  | stopCommsWorkers (goroutine : Nat) (waiter : Nat)
  | workersStopped (goroutine : Nat)
  | disDone (goroutine : Nat)
  | reportLoss (goroutine : Nat)
  | connectionLost (goroutine : Nat)
  | workerDone (goroutine : Nat)
  deriving DecidableEq, Repr

/-- If `attemptConnection` returns no error, it returns a connection. -/
def ClientEvent.ReturnsConnection : ClientEvent → Prop
  | .attemptSucceeded _ conn => conn ≠ none
  | _ => True

instance (event : ClientEvent) : Decidable event.ReturnsConnection :=
  match event with
  | .attemptSucceeded _ conn => inferInstanceAs (Decidable (conn ≠ none))
  | .connect _ | .attemptFailed _ _ _ | .startWorkers _ _ | .connectionUp _
  | .startComms _ _ _ | .disconnect _ | .resume _ | .stopCommsWorkers _ _
  | .workersStopped _ | .disDone _ | .reportLoss _ | .connectionLost _
  | .workerDone _ => isTrue trivial

/-- `Connect` behind `Connecting`. -/
def Activity.afterConnecting (options : Options) : Call → Activity
  | .returned (.completion _) =>
      if options.hasServers then .attempting false else .givingUp
  | _ => .finished

/-- `Disconnect` with the outcome of `Disconnecting`, if there is one yet. -/
def Activity.afterDisconnecting : Call → Activity
  | .returned (.completion _) => .stopping
  | .returned _ => .finished
  | _ => .disconnecting

/-- `internalConnLost` with the outcome of `ConnectionLost`, if there is one. -/
def Activity.afterConnectionLost (conn : Option Nat) : Call → Activity
  | .returned (.completion (.connectionLostHandler reconnectRequested)) =>
      .lossStopping conn reconnectRequested
  | .returned _ => .working conn
  | _ => .losing conn

/-- The goroutine left behind by `internalConnLost`, behind `disDone(true)`. -/
def Activity.afterHandler : Call → Activity
  | .returned (.completion _) => .attempting true
  | _ => .finished

namespace ClientSystem

def initial : ClientSystem :=
  ⟨.initial, none, none, 0, fun _ => .idle⟩

def become (s : ClientSystem) (goroutine : Nat) (activity : Activity) :
    ClientSystem :=
  { s with activity := Function.update s.activity goroutine activity }

/-- The goroutine takes a step of the status and goes on with its outcome. -/
def withStatus (s : ClientSystem) (goroutine : Nat) (event : StatusEvent)
    (goOn : Call → Activity) : Option ClientSystem :=
  (s.status.step event).map fun status =>
    { s with status }.become goroutine (goOn (status.calls goroutine))

def install (s : ClientSystem) (goroutine : Nat) (conn : Option Nat) :
    ClientSystem :=
  { s with conn, connMu := some goroutine }.become goroutine (.reporting conn)

/-- Start a goroutine of the connection. -/
def spawn (s : ClientSystem) (worker : Nat) (conn : Option Nat) :
    Option ClientSystem :=
  if s.activity worker = .idle then
    some ({ s with workers := s.workers + 1 }.become worker (.working conn))
  else
    none

def step (options : Options) (s : ClientSystem) :
    ClientEvent → Option ClientSystem
  | .connect goroutine =>
      if s.activity goroutine = .idle then
        s.withStatus goroutine (.connecting goroutine)
          (.afterConnecting options)
      else
        none
  | .attemptFailed goroutine retryable _ =>
      -- `Connect` and `reconnect` drop the connection.
      match s.activity goroutine with
      | .attempting false =>
          if options.connectRetry ∧ retryable ∧
              s.status.shared.status = .connecting then
            some s
          else
            some (s.become goroutine .givingUp)
      | .attempting true =>
          if s.status.shared.status ≠ .reconnecting then
            some (s.become goroutine .givingUp)
          else
            some s
      | _ => none
  | .attemptSucceeded goroutine conn =>
      match s.activity goroutine with
      | .attempting _ => some (s.become goroutine (.starting conn))
      | _ => none
  | .startWorkers goroutine keepalive =>
      match s.activity goroutine with
      | .starting conn =>
          if s.connMu ≠ none then
            none
          else if s.conn ≠ none then
            some ({ s with connMu := some goroutine }.become goroutine
              .alreadyRunning)
          else if options.keepsAlive then
            (s.install goroutine conn).spawn keepalive conn
          else
            some (s.install goroutine conn)
      | _ => none
  | .connectionUp goroutine =>
      match s.activity goroutine with
      | .givingUp =>
          s.withStatus goroutine (.complete goroutine .connected false)
            fun _ => .finished
      | .alreadyRunning =>
          { s with connMu := none }.withStatus goroutine
            (.complete goroutine .connected false) fun _ => .finished
      | .reporting conn =>
          s.withStatus goroutine (.complete goroutine .connected true)
            fun _ => .startingComms conn
      | _ => none
  | .startComms goroutine comms incoming =>
      match s.activity goroutine with
      | .startingComms conn =>
          (({ s with connMu := none }.become goroutine .finished).spawn comms
            conn).bind (·.spawn incoming conn)
      | _ => none
  | .disconnect goroutine =>
      if s.activity goroutine = .idle then
        s.withStatus goroutine (.disconnecting goroutine) .afterDisconnecting
      else
        none
  | .resume goroutine =>
      match s.activity goroutine with
      | .disconnecting =>
          s.withStatus goroutine (.resume goroutine) .afterDisconnecting
      | .losing conn =>
          s.withStatus goroutine (.resume goroutine) (.afterConnectionLost conn)
      | _ => none
  | .stopCommsWorkers goroutine waiter =>
      if s.connMu ≠ none then
        none
      else
        match s.activity goroutine, s.conn with
        | .stopping, none => some (s.become goroutine .finishing)
        | .stopping, some _ =>
            some ({ s with conn := none }.become goroutine .awaitingWorkers)
        | .lossStopping conn reconnectRequested, none =>
            some (s.become goroutine (.lossNotRunning conn reconnectRequested))
        | .lossStopping conn reconnectRequested, some _ =>
            if s.activity waiter = .idle then
              some (({ s with conn := none }.become goroutine
                (.working conn)).become waiter (.lossAwaiting reconnectRequested))
            else
              none
        | _, _ => none
  | .workersStopped goroutine =>
      if s.workers ≠ 0 then
        none
      else
        match s.activity goroutine with
        | .awaitingWorkers => some (s.become goroutine .finishing)
        | .lossAwaiting reconnectRequested =>
            some (s.become goroutine (.lossFinishing reconnectRequested))
        | _ => none
  | .disDone goroutine =>
      match s.activity goroutine with
      | .finishing =>
          s.withStatus goroutine
            (.complete goroutine .disconnectionCompleted true) fun _ => .finished
      | .lossNotRunning conn reconnectRequested =>
          s.withStatus goroutine
            (.complete goroutine (.connectionLostHandler reconnectRequested)
              false) fun _ => .working conn
      | .lossFinishing reconnectRequested =>
          s.withStatus goroutine
            (.complete goroutine (.connectionLostHandler reconnectRequested)
              true) .afterHandler
      | _ => none
  | .reportLoss goroutine =>
      match s.activity goroutine with
      | .working conn =>
          some (s.become goroutine (.lossSeen conn
            (options.autoReconnect &&
              s.status.shared.status.value > Status.connecting.value)))
      | _ => none
  | .connectionLost goroutine =>
      match s.activity goroutine with
      | .lossSeen conn willReconnect =>
          s.withStatus goroutine (.connectionLost goroutine willReconnect)
            (.afterConnectionLost conn)
      | _ => none
  | .workerDone goroutine =>
      match s.activity goroutine with
      | .working _ =>
          some ({ s with workers := s.workers - 1 }.become goroutine .finished)
      | _ => none

end ClientSystem

end Client

end RmttGo
