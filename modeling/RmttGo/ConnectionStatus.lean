import RmttGo.Channels

/-!
# The client's connection status

`connectionStatus` guards a status, a reconnect flag and one channel with a
lock.  `Disconnecting` and `ConnectionLost` give the lock up in the middle to
wait for a connection attempt that is under way, so an operation is more than
one critical section.  This file translates the critical sections; the order
in which goroutines run them is left to the system built on top.
-/

namespace RmttGo

namespace Client

inductive Status
  | disconnected
  | disconnecting
  | connecting
  | reconnecting
  | connected
  deriving DecidableEq, Repr

def Status.value : Status → Nat
  | .disconnected => 0
  | .disconnecting => 1
  | .connecting => 2
  | .reconnecting => 3
  | .connected => 4

theorem Status.down_or_trying_or_connected (status : Status) :
    (status = .disconnected ∨ status = .disconnecting) ∨
      (status = .connecting ∨ status = .reconnecting) ∨
      status = .connected := by
  cases status <;> simp

inductive StatusError
  | abortConnection
  | alreadyConnectedOrReconnecting
  | statusMustBeDisconnected
  | alreadyDisconnected
  | disconnectionRequested
  | disconnectionInProgress
  | alreadyHandlingConnectionLoss
  | connLossWhileDisconnecting
  deriving DecidableEq, Repr

/-- The completion functions the operations hand out: `connected`,
`disconnectionCompleted`, and the closure made by `getConnectionLostHandler`. -/
inductive Completion
  | connected
  | disconnectionCompleted
  | connectionLostHandler (reconnectRequested : Bool)
  deriving DecidableEq, Repr

/-- What an operation or a completion function returns: a completion function
and no error, an error, or neither. -/
inductive Return
  | completion (function : Completion)
  | failure (error : StatusError)
  | done
  deriving DecidableEq, Repr

/-- Where a goroutine stands in its latest operation.  A channel is `none`
when the field held nil. -/
inductive Call
  | idle
  /-- `Disconnecting` found the status disconnecting. -/
  | awaitDisconnect (disConnectDone : Option Nat)
  /-- `Disconnecting` found a connection attempt. -/
  | awaitConnect (connectDone : Option Nat) (prevStatus : Status)
  /-- `Disconnecting` is past the wait and about to lock again. -/
  | relock
  /-- `ConnectionLost` found a connection attempt. -/
  | awaitLost (connectDone : Option Nat) (willReconnect : Bool)
  | returned (result : Return)
  deriving DecidableEq, Repr

structure ConnectionStatus where
  status : Status
  willReconnect : Bool
  actionCompleted : Option Nat
  channels : ChannelHeap
  deriving DecidableEq, Repr

namespace ConnectionStatus

def zero : ConnectionStatus :=
  ⟨.disconnected, false, none, .empty⟩

/-- `c.actionCompleted = make(chan struct{})`. -/
def makeActionCompleted (c : ConnectionStatus) : ConnectionStatus :=
  { c with
    actionCompleted := some c.channels.make.1
    channels := c.channels.make.2 }

/-- `close(c.actionCompleted); c.actionCompleted = nil`; `none` is a panic. -/
def closeActionCompleted (c : ConnectionStatus) : Option ConnectionStatus :=
  (c.channels.close c.actionCompleted).map fun channels =>
    { c with actionCompleted := none, channels := channels }

def connecting (c : ConnectionStatus) : Return × ConnectionStatus :=
  if c.status = .connected ∨ c.status = .reconnecting then
    (.failure .alreadyConnectedOrReconnecting, c)
  else if c.status ≠ .disconnected then
    (.failure .statusMustBeDisconnected, c)
  else
    (.completion .connected, { c with status := .connecting }.makeActionCompleted)

/-- `connected`; the deferred close runs in every case. -/
def connected (c : ConnectionStatus) (success : Bool) :
    Option (Return × ConnectionStatus) :=
  if c.status = .disconnecting then
    c.closeActionCompleted.map (.failure .abortConnection, ·)
  else if success then
    { c with status := .connected }.closeActionCompleted.map (.done, ·)
  else
    { c with status := .disconnected }.closeActionCompleted.map (.done, ·)

/-- `Disconnecting` up to its first unlock. -/
def disconnecting (c : ConnectionStatus) : Call × ConnectionStatus :=
  match c.status with
  | .disconnected => (.returned (.failure .alreadyDisconnected), c)
  | .disconnecting =>
      (.awaitDisconnect c.actionCompleted, { c with willReconnect := false })
  | .connecting | .reconnecting =>
      (.awaitConnect c.actionCompleted c.status,
        { c with status := .disconnecting })
  | .connected =>
      (.returned (.completion .disconnectionCompleted),
        { c with status := .disconnecting }.makeActionCompleted)

/-- The test `Disconnecting` makes behind its wait, without the lock. -/
def disconnectingWoken (c : ConnectionStatus) (prevStatus : Status) : Call :=
  if prevStatus = .reconnecting ∧ !c.willReconnect then
    .returned (.failure .alreadyDisconnected)
  else
    .relock

def disconnectionCompleted (c : ConnectionStatus) :
    Option (Return × ConnectionStatus) :=
  { c with status := .disconnected }.closeActionCompleted.map (.done, ·)

/-- `ConnectionLost` up to its first unlock. -/
def connectionLost (c : ConnectionStatus) (willReconnect : Bool) :
    Call × ConnectionStatus :=
  match c.status with
  | .disconnected => (.returned (.failure .alreadyDisconnected), c)
  | .disconnecting => (.returned (.failure .disconnectionInProgress), c)
  | .connecting | .reconnecting =>
      (.awaitLost c.actionCompleted willReconnect,
        { c with willReconnect, status := .disconnecting })
  | .connected =>
      (.returned (.completion (.connectionLostHandler willReconnect)),
        { c with willReconnect, status := .disconnecting }.makeActionCompleted)

/-- `ConnectionLost` from its second lock on. -/
def connectionLostWoken (c : ConnectionStatus) (willReconnect : Bool) :
    Return × ConnectionStatus :=
  if !willReconnect then
    (.failure .alreadyDisconnected, c)
  else
    (.completion (.connectionLostHandler willReconnect), c.makeActionCompleted)

/-- The closure returned by `getConnectionLostHandler`. -/
def connectionLostHandler (c : ConnectionStatus)
    (reconnectRequested proceed : Bool) :
    Option (Return × ConnectionStatus) :=
  if !c.willReconnect || !proceed then
    { c with status := .disconnected }.closeActionCompleted.map
      (if !reconnectRequested || !proceed then .done
        else .failure .disconnectionRequested, ·)
  else
    some (.completion .connected, { c with status := .reconnecting })

/-- Continue a suspended call; `none` while it has to wait. -/
def resume (c : ConnectionStatus) : Call → Option (Call × ConnectionStatus)
  | .awaitDisconnect disConnectDone =>
      if c.channels.Released disConnectDone then
        some (.returned (.failure .alreadyDisconnected), c)
      else
        none
  | .awaitConnect connectDone prevStatus =>
      if c.channels.Released connectDone then
        some (c.disconnectingWoken prevStatus, c)
      else
        none
  | .relock =>
      some (.returned (.completion .disconnectionCompleted),
        c.makeActionCompleted)
  | .awaitLost connectDone willReconnect =>
      if c.channels.Released connectDone then
        some ((c.connectionLostWoken willReconnect).map .returned id)
      else
        none
  | .idle | .returned _ => none

/-- Call a completion function; `none` is a panic. -/
def complete (c : ConnectionStatus) (argument : Bool) :
    Completion → Option (Return × ConnectionStatus)
  | .connected => c.connected argument
  | .disconnectionCompleted => c.disconnectionCompleted
  | .connectionLostHandler reconnectRequested =>
      c.connectionLostHandler reconnectRequested argument

section Outcomes

variable {c later : ConnectionStatus}

theorem connecting_of_disconnected (disconnected : c.status = .disconnected) :
    c.connecting =
      (.completion .connected,
        { c with status := .connecting }.makeActionCompleted) := by
  simp [connecting, disconnected]

theorem connecting_of_ne_disconnected (connectable : c.status ≠ .disconnected) :
    ∃ error, c.connecting = (.failure error, c) := by
  unfold connecting
  split <;> exact ⟨_, rfl⟩

theorem disconnecting_of_disconnected (disconnected : c.status = .disconnected) :
    c.disconnecting = (.returned (.failure .alreadyDisconnected), c) := by
  simp [disconnecting, disconnected]

theorem disconnecting_of_disconnecting
    (underWay : c.status = .disconnecting) :
    c.disconnecting =
      (.awaitDisconnect c.actionCompleted, { c with willReconnect := false }) := by
  simp [disconnecting, underWay]

theorem disconnecting_of_trying
    (trying : c.status = .connecting ∨ c.status = .reconnecting) :
    c.disconnecting =
      (.awaitConnect c.actionCompleted c.status,
        { c with status := .disconnecting }) := by
  rcases trying with trying | trying <;> simp [disconnecting, trying]

theorem disconnecting_of_connected (isConnected : c.status = .connected) :
    c.disconnecting =
      (.returned (.completion .disconnectionCompleted),
        { c with status := .disconnecting }.makeActionCompleted) := by
  simp [disconnecting, isConnected]

theorem connectionLost_of_down {willReconnect : Bool}
    (down : c.status = .disconnected ∨ c.status = .disconnecting) :
    ∃ error, c.connectionLost willReconnect = (.returned (.failure error), c) := by
  rcases down with down | down <;> simp [connectionLost, down]

theorem connectionLost_of_trying {willReconnect : Bool}
    (trying : c.status = .connecting ∨ c.status = .reconnecting) :
    c.connectionLost willReconnect =
      (.awaitLost c.actionCompleted willReconnect,
        { c with willReconnect, status := .disconnecting }) := by
  rcases trying with trying | trying <;> simp [connectionLost, trying]

theorem connectionLost_of_connected {willReconnect : Bool}
    (isConnected : c.status = .connected) :
    c.connectionLost willReconnect =
      (.returned (.completion (.connectionLostHandler willReconnect)),
        { c with willReconnect, status := .disconnecting }.makeActionCompleted) := by
  simp [connectionLost, isConnected]

theorem eq_of_closeActionCompleted
    (closed : c.closeActionCompleted = some later) :
    later = { c with actionCompleted := none, channels := later.channels } := by
  obtain ⟨channels, -, rfl⟩ := Option.map_eq_some_iff.mp closed
  rfl

inductive Resumed (c : ConnectionStatus) :
    Call → Call × ConnectionStatus → Prop
  | late {disConnectDone : Option Nat}
      (released : c.channels.Released disConnectDone) :
      Resumed c (.awaitDisconnect disConnectDone)
        (.returned (.failure .alreadyDisconnected), c)
  | overtaken {connectDone : Option Nat}
      (released : c.channels.Released connectDone)
      (cancelled : c.willReconnect = false) :
      Resumed c (.awaitConnect connectDone .reconnecting)
        (.returned (.failure .alreadyDisconnected), c)
  | woken {connectDone : Option Nat} {prevStatus : Status}
      (released : c.channels.Released connectDone)
      (kept : prevStatus = .reconnecting → c.willReconnect = true) :
      Resumed c (.awaitConnect connectDone prevStatus) (.relock, c)
  | relocked :
      Resumed c .relock
        (.returned (.completion .disconnectionCompleted), c.makeActionCompleted)
  | lostForGood {connectDone : Option Nat}
      (released : c.channels.Released connectDone) :
      Resumed c (.awaitLost connectDone false)
        (.returned (.failure .alreadyDisconnected), c)
  | lost {connectDone : Option Nat}
      (released : c.channels.Released connectDone) :
      Resumed c (.awaitLost connectDone true)
        (.returned (.completion (.connectionLostHandler true)),
          c.makeActionCompleted)

theorem resumed_of_resume {call : Call} {outcome : Call × ConnectionStatus}
    (resumed : c.resume call = some outcome) : c.Resumed call outcome := by
  cases call with
  | idle => cases resumed
  | returned result => cases resumed
  | awaitDisconnect disConnectDone =>
      obtain ⟨released, ⟨⟩⟩ := Option.ite_none_right_eq_some.mp resumed
      exact .late released
  | awaitConnect connectDone prevStatus =>
      obtain ⟨released, ⟨⟩⟩ := Option.ite_none_right_eq_some.mp resumed
      unfold disconnectingWoken
      split
      · rename_i overtaken
        obtain ⟨rfl, cancelled⟩ := overtaken
        exact .overtaken released (by simpa using cancelled)
      · rename_i kept
        refine .woken released ?_
        intro wasReconnecting
        simpa [wasReconnecting] using kept
  | relock =>
      cases resumed
      exact .relocked
  | awaitLost connectDone willReconnect =>
      obtain ⟨released, ⟨⟩⟩ := Option.ite_none_right_eq_some.mp resumed
      cases willReconnect with
      | false => exact .lostForGood released
      | true => exact .lost released

inductive Completed (c : ConnectionStatus) (argument : Bool) :
    Completion → Return → ConnectionStatus → Prop
  | aborted {channels : ChannelHeap} (underWay : c.status = .disconnecting) :
      Completed c argument .connected (.failure .abortConnection)
        { c with actionCompleted := none, channels }
  | ended {channels : ChannelHeap} (undecided : c.status ≠ .disconnecting) :
      Completed c argument .connected .done
        { c with
          status := if argument then .connected else .disconnected
          actionCompleted := none
          channels }
  | disconnected {channels : ChannelHeap} :
      Completed c argument .disconnectionCompleted .done
        { c with status := .disconnected, actionCompleted := none, channels }
  | stopped {channels : ChannelHeap} {reconnectRequested : Bool}
      (stopped : (!c.willReconnect || !argument) = true) :
      Completed c argument (.connectionLostHandler reconnectRequested)
        (if !reconnectRequested || !argument then .done
          else .failure .disconnectionRequested)
        { c with status := .disconnected, actionCompleted := none, channels }
  | reconnecting {reconnectRequested : Bool}
      (wanted : c.willReconnect = true) (proceed : argument = true) :
      Completed c argument (.connectionLostHandler reconnectRequested)
        (.completion .connected) { c with status := .reconnecting }

theorem completed_of_complete {argument : Bool} {function : Completion}
    {result : Return}
    (completed : c.complete argument function = some (result, later)) :
    c.Completed argument function result later := by
  cases function with
  | connected =>
      simp only [complete, connected] at completed
      split at completed
      · rename_i underWay
        obtain ⟨_, closed, ⟨⟩⟩ := Option.map_eq_some_iff.mp completed
        rw [eq_of_closeActionCompleted closed]
        exact .aborted underWay
      · rename_i undecided
        cases argument <;>
          obtain ⟨_, closed, ⟨⟩⟩ := Option.map_eq_some_iff.mp completed <;>
          rw [eq_of_closeActionCompleted closed] <;>
          exact .ended undecided
  | disconnectionCompleted =>
      obtain ⟨_, closed, ⟨⟩⟩ := Option.map_eq_some_iff.mp completed
      rw [eq_of_closeActionCompleted closed]
      exact .disconnected
  | connectionLostHandler reconnectRequested =>
      simp only [complete, connectionLostHandler] at completed
      split at completed
      · rename_i stopped
        obtain ⟨_, closed, ⟨⟩⟩ := Option.map_eq_some_iff.mp completed
        rw [eq_of_closeActionCompleted closed]
        exact .stopped stopped
      · rename_i proceeds
        cases completed
        simp only [Bool.or_eq_true, Bool.not_eq_true', not_or,
          Bool.not_eq_false] at proceeds
        exact .reconnecting proceeds.1 proceeds.2

theorem Completed.of_connected {argument : Bool} {function : Completion}
    {result : Return}
    (completed : c.Completed argument function result later)
    (busy : c.status ≠ .connected) (status : later.status = .connected) :
    function = .connected ∧ argument = true := by
  cases completed with
  | aborted underWay => exact absurd status busy
  | ended undecided =>
      cases argument with
      | false => cases status
      | true => exact ⟨rfl, rfl⟩
  | disconnected => cases status
  | stopped stopped => cases status
  | reconnecting wanted proceed => cases status

theorem Completed.of_disconnected {argument : Bool} {function : Completion}
    {result : Return}
    (completed : c.Completed argument function result later)
    (busy : c.status ≠ .disconnected) (status : later.status = .disconnected) :
    function ≠ .connected ∨ argument = false := by
  cases completed with
  | aborted underWay => exact absurd status busy
  | ended undecided =>
      cases argument with
      | false => exact .inr rfl
      | true => cases status
  | disconnected => exact .inl (by simp)
  | stopped stopped => exact .inl (by simp)
  | reconnecting wanted proceed => cases status

end Outcomes

end ConnectionStatus

end Client

end RmttGo
