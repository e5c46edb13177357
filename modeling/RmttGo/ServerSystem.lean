import Mathlib.Data.List.AList
import RmttGo.PacketReader
import RmttGo.DeviceConnection

/-!
# The goroutines of a server

One goroutine runs `handleConnection` for each accepted connection.  Pushes,
kicks, takeovers, the keepalive reapers and `Close` run beside them and meet
them in the connection store and in the device connections.  Between two steps
of a goroutine any other may run; a step is an access to the store, a write to
a connection, a change of the active flag, a packet read, or a callback.
-/

namespace RmttGo

namespace Server

open Codec

namespace ReturnCode

def accepted : UInt8 := 0x00
def refusedBadProtocolVersion : UInt8 := 0x01
def refusedNotAuthorised : UInt8 := 0x03

end ReturnCode

section Store

/-- The connections by device; connections are numbered. -/
abbrev ConnectionStore := AList fun _ : Bytes => Nat

namespace ConnectionStore

def register (store : ConnectionStore) (deviceID : Bytes) (conn : Nat) :
    Option Nat × ConnectionStore :=
  (store.lookup deviceID, store.insert deviceID conn)

def get (store : ConnectionStore) (deviceID : Bytes) : Option Nat :=
  store.lookup deviceID

/-- Deletes the entry if and only if it is the given connection. -/
def remove (store : ConnectionStore) (deviceID : Bytes) (conn : Nat) :
    Bool × ConnectionStore :=
  if store.lookup deviceID = some conn then
    (true, store.erase deviceID)
  else
    (false, store)

def all (store : ConnectionStore) : List Nat :=
  store.entries.map Sigma.snd

variable (store : ConnectionStore) (deviceID : Bytes) (conn : Nat)

theorem get_register (key : Bytes) :
    (store.register deviceID conn).2.get key =
      if key = deviceID then some conn else store.get key := by
  unfold get register
  split_ifs with same
  · subst same
    exact AList.lookup_insert store
  · exact AList.lookup_insert_ne same

theorem get_remove (key : Bytes) :
    (store.remove deviceID conn).2.get key =
      if key = deviceID ∧ store.get key = some conn then none
      else store.get key := by
  unfold get remove
  by_cases same : key = deviceID
  · subst same
    split_ifs with isStored <;> simp_all
  · simp only [same, false_and, if_false]
    split_ifs
    · exact AList.lookup_erase_ne same
    · rfl

end ConnectionStore

end Store

section Handshake

structure KeepalivePolicy where
  minSeconds : Int
  maxSeconds : Int
  defaultSeconds : Int
  allowDisable : Bool
  deriving DecidableEq, Repr

def KeepalivePolicy.decide (policy : KeepalivePolicy) (clientKp : Int) : Int :=
  if clientKp ≤ 0 then
    if policy.allowDisable then 0 else policy.defaultSeconds
  else if clientKp < policy.minSeconds then
    policy.minSeconds
  else if clientKp > policy.maxSeconds then
    policy.maxSeconds
  else
    clientKp

def defaultKeepalivePolicy : KeepalivePolicy :=
  ⟨30, 600, 60, false⟩

structure ServerOptions where
  authenticator : Option (Bytes → Bytes × Bool)
  keepalivePolicy : KeepalivePolicy
  /-- `MessageHandler != nil`. -/
  handlesMessages : Bool

def newServerOptions : ServerOptions :=
  ⟨none, defaultKeepalivePolicy, false⟩

def connackPacket (returnCode : UInt8) (serverKeepalive : UInt16) :
    ControlPacket :=
  .connack ⟨.ofType MessageType.connack, returnCode, serverKeepalive⟩

/-- What `handleConnection` makes of the first packet. -/
inductive Greeting
  /-- Close without an answer. -/
  | drop
  | refuse (returnCode : UInt8)
  | welcome (deviceID : Bytes) (serverKp : Int)
  deriving DecidableEq, Repr

def greet (options : ServerOptions) : ControlPacket → Greeting
  | .connect packet =>
      if packet.magicNumber ≠ 0x637a7175 then
        .drop
      else if packet.protocolVersion ≠ 1 then
        .refuse ReturnCode.refusedBadProtocolVersion
      else
        let (deviceID, allowed) :=
          match options.authenticator with
          | some authenticate => authenticate packet.credential
          | none => (packet.credential, true)
        if !allowed then
          .refuse ReturnCode.refusedNotAuthorised
        else if deviceID = [] then
          .refuse ReturnCode.refusedNotAuthorised
        else
          .welcome deviceID (options.keepalivePolicy.decide packet.keepalive.toNat)
  | _ => .drop

end Handshake

/-- Where `handleConnection` stands. -/
inductive Handler
  | unaccepted
  /-- Accepted by a listener, and not yet past `s.wg.Add(1)`. -/
  | accepted
  /-- Counted in the wait group, but not yet in `s.conns`. -/
  | entered
  | awaitingConnect
  | refusing (returnCode : UInt8)
  | welcoming (deviceID : Bytes) (serverKp : Int)
  /-- The device connection is made and `Register` comes next. -/
  | registering (serverKp : Int)
  /-- `Register` has returned a previous connection. -/
  | takingOver (prev : Nat) (serverKp : Int)
  /-- `OnConnectionEstablished` comes next. -/
  | establishing (serverKp : Int)
  /-- In the loop of `handleDeviceConnection`. -/
  | looping (serverKp : Int)
  | answering (serverKp : Int)
  /-- About to write the DISCONNECT for a protocol violation. -/
  | violating (serverKp : Int)
  /-- The deferred functions: the timer is stopped and the device connection
  closed, then it is removed, then comes the callback. -/
  | closing (serverKp : Int)
  | removing
  | notifying
  /-- The deferred functions of `handleConnection`. -/
  | leaving
  | returned
  deriving DecidableEq, Repr

/-- The goroutines beside the handlers. -/
inductive Task
  | idle
  /-- `Push` has looked the connection up. -/
  | pushFound (conn : Nat) (payload : Bytes)
  | pushWriting (conn : Nat) (payload : Bytes)
  /-- `Kick` has looked the connection up. -/
  | kickFound (deviceID : Bytes) (conn : Nat) (reason : UInt8)
  | kickSending (deviceID : Bytes) (conn : Nat) (reason : UInt8)
  | kickClosing (deviceID : Bytes) (conn : Nat) (reason : UInt8)
  | kickRemoving (deviceID : Bytes) (conn : Nat) (reason : UInt8)
  | kickNotifying (deviceID : Bytes) (conn : Nat) (reason : UInt8)
  /-- The teardown of a superseded connection. -/
  | takeoverSending (prev : Nat)
  | takeoverClosing (prev : Nat)
  /-- The function of the keepalive timer. -/
  | reapSending (conn : Nat)
  | reapClosing (conn : Nat)
  /-- `Close` has stopped the listeners. -/
  | shutdownListing
  | shutdownSending (remaining : List Nat)
  | shutdownClosing (conn : Nat) (remaining : List Nat)
  | shutdownWaiting
  | finished
  deriving DecidableEq, Repr

inductive CloseReason
  | connectionClosed
  | kicked (reason : UInt8)
  deriving DecidableEq, Repr

/-- The calls of the `ConnectionListener`, with the connection they are for. -/
inductive LifecycleEvent
  | established (deviceID : Bytes) (conn : Nat)
  | closed (deviceID : Bytes) (conn : Nat) (reason : CloseReason)
  deriving DecidableEq, Repr

structure Session where
  inbound : Buffer
  /-- The connection below; inactive until the device connection is made. -/
  device : DeviceConnection
  handler : Handler

structure ServerSystem where
  store : ConnectionStore
  sessions : Nat → Session
  tasks : Nat → Task
  /-- All calls of `Register`, latest first. -/
  registrations : List (Bytes × Nat)
  events : List LifecycleEvent
  /-- The calls of the `MessageHandler`. -/
  messages : List (Nat × Bytes × Bytes)
  listening : Bool
  /-- The wait group of the handlers. -/
  running : Nat

inductive ServerEvent
  | accept (conn : Nat) (inbound : Bytes)
  | enter (conn : Nat)
  | track (conn : Nat)
  | read (conn : Nat)
  | readFails (conn : Nat)
  | greet (conn : Nat) (now : Nat) (outcome : TransportOutcome)
  | register (conn : Nat)
  | takeOver (conn : Nat) (task : Nat)
  | establish (conn : Nat)
  | answer (conn : Nat) (now : Nat) (outcome : TransportOutcome)
  | close (conn : Nat)
  | remove (conn : Nat)
  | notify (conn : Nat)
  | leave (conn : Nat)
  | push (task : Nat) (deviceID payload : Bytes)
  | kick (task : Nat) (deviceID : Bytes) (reason : UInt8)
  | reap (task : Nat) (conn : Nat)
  | shutdown (task : Nat)
  | proceed (task : Nat) (now : Nat) (outcome : TransportOutcome)
  deriving DecidableEq, Repr

namespace ServerSystem

def initial : ServerSystem where
  store := ∅
  sessions := fun _ => ⟨⟨[]⟩, ⟨.fresh, [], false⟩, .unaccepted⟩
  tasks := fun _ => .idle
  registrations := []
  events := []
  messages := []
  listening := true
  running := 0

def handler (s : ServerSystem) (conn : Nat) : Handler :=
  (s.sessions conn).handler

def device (s : ServerSystem) (conn : Nat) : DeviceConnection :=
  (s.sessions conn).device

def setSession (s : ServerSystem) (conn : Nat) (session : Session) :
    ServerSystem :=
  { s with sessions := Function.update s.sessions conn session }

def setHandler (s : ServerSystem) (conn : Nat) (handler : Handler) :
    ServerSystem :=
  s.setSession conn { s.sessions conn with handler }

def setDevice (s : ServerSystem) (conn : Nat) (device : DeviceConnection) :
    ServerSystem :=
  s.setSession conn { s.sessions conn with device }

def setTask (s : ServerSystem) (task : Nat) (position : Task) : ServerSystem :=
  { s with tasks := Function.update s.tasks task position }

def report (s : ServerSystem) (event : LifecycleEvent) : ServerSystem :=
  { s with events := s.events ++ [event] }

/-- `conn.Close()` on the connection below, and the handler is done. -/
def abandon (s : ServerSystem) (conn : Nat) (below : Conn) : ServerSystem :=
  s.setSession conn { s.sessions conn with
    device := { s.device conn with conn := below.close }
    handler := .leaving }

def greeted (s : ServerSystem) (conn : Nat) : Greeting → ServerSystem
  | .drop => s.abandon conn (s.device conn).conn
  | .refuse returnCode => s.setHandler conn (.refusing returnCode)
  | .welcome deviceID serverKp => s.setHandler conn (.welcoming deviceID serverKp)

def received (options : ServerOptions) (s : ServerSystem) (conn : Nat)
    (serverKp : Int) : ControlPacket → ServerSystem
  | .push packet =>
      if options.handlesMessages then
        { s with
          messages := s.messages ++
            [(conn, (s.device conn).deviceID, packet.payload)] }
      else
        s
  | .pingreq _ => s.setHandler conn (.answering serverKp)
  | .disconnect _ => s.setHandler conn (.closing serverKp)
  | _ => s.setHandler conn (.violating serverKp)

/-- `Close` of the server closes every connection in `s.conns`. -/
def closeAll (s : ServerSystem) : ServerSystem :=
  { s with
    sessions := fun conn =>
      match (s.sessions conn).handler with
      | .unaccepted | .accepted | .entered | .returned => s.sessions conn
      | _ => { s.sessions conn with
          device := { s.device conn with conn := (s.device conn).conn.close } } }

/-- A task with its next step.  Writes happen at an instant and with a
transport outcome, which the other steps do not use. -/
def proceed (s : ServerSystem) (task : Nat) (now : Nat)
    (outcome : TransportOutcome) : Option ServerSystem :=
  match s.tasks task with
  | .idle | .finished => none
  | .pushFound conn payload =>
      if (s.device conn).active then
        some (s.setTask task (.pushWriting conn payload))
      else
        some (s.setTask task .finished)
  | .pushWriting conn payload =>
      some ((s.setDevice conn ((s.device conn).write payload now outcome).2).setTask
        task .finished)
  | .kickFound deviceID conn reason =>
      if (s.device conn).active then
        some (s.setTask task (.kickSending deviceID conn reason))
      else
        some (s.setTask task .finished)
  | .kickSending deviceID conn reason =>
      some ((s.setDevice conn ((s.device conn).sendDisconnect reason now
        outcome)).setTask task (.kickClosing deviceID conn reason))
  | .kickClosing deviceID conn reason =>
      some ((s.setDevice conn (s.device conn).close).setTask task
        (.kickRemoving deviceID conn reason))
  | .kickRemoving deviceID conn reason =>
      some ({ s with store := (s.store.remove deviceID conn).2 }.setTask task
        (.kickNotifying deviceID conn reason))
  | .kickNotifying deviceID conn reason =>
      some ((s.report (.closed deviceID conn (.kicked reason))).setTask task
        .finished)
  | .takeoverSending prev =>
      some ((s.setDevice prev ((s.device prev).sendDisconnect
        Reason.sessionTakenOver now outcome)).setTask task (.takeoverClosing prev))
  | .takeoverClosing prev =>
      some ((s.setDevice prev (s.device prev).close).setTask task .finished)
  | .reapSending conn =>
      some ((s.setDevice conn ((s.device conn).sendDisconnect
        Reason.keepaliveTimeout now outcome)).setTask task (.reapClosing conn))
  | .reapClosing conn =>
      some ((s.setDevice conn (s.device conn).close).setTask task .finished)
  | .shutdownListing => some (s.setTask task (.shutdownSending s.store.all))
  | .shutdownSending (conn :: remaining) =>
      some ((s.setDevice conn ((s.device conn).sendDisconnect
        Reason.serverShutdown now outcome)).setTask task
          (.shutdownClosing conn remaining))
  | .shutdownClosing conn remaining =>
      some ((s.setDevice conn (s.device conn).close).setTask task
        (.shutdownSending remaining))
  | .shutdownSending [] => some (s.closeAll.setTask task .shutdownWaiting)
  | .shutdownWaiting =>
      -- `s.wg.Wait()`
      if s.running = 0 then some (s.setTask task .finished) else none

def spawn (s : ServerSystem) (task : Nat) (position : Task) :
    Option ServerSystem :=
  if s.tasks task = .idle then some (s.setTask task position) else none

def step (options : ServerOptions) (s : ServerSystem) :
    ServerEvent → Option ServerSystem
  | .accept conn inbound =>
      if s.listening ∧ s.handler conn = .unaccepted then
        some (s.setSession conn ⟨⟨inbound⟩, ⟨.fresh, [], false⟩, .accepted⟩)
      else
        none
  | .enter conn =>
      if s.handler conn = .accepted then
        some ({ s with running := s.running + 1 }.setHandler conn .entered)
      else
        none
  | .track conn =>
      if s.handler conn = .entered then
        some (s.setHandler conn .awaitingConnect)
      else
        none
  | .read conn =>
      -- A read behind `Close` fails, which is `readFails`.
      if (s.device conn).conn.closed then
        none
      else
        match s.handler conn, readPacket (s.sessions conn).inbound with
        | .awaitingConnect, .ok (packet, inbound) =>
            some ((s.setSession conn { s.sessions conn with inbound }).greeted conn
              (greet options packet))
        | .awaitingConnect, .error _ => some (s.abandon conn (s.device conn).conn)
        | .looping serverKp, .ok (packet, inbound) =>
            some (received options
              (s.setSession conn { s.sessions conn with inbound }) conn serverKp
              packet)
        | .looping serverKp, .error (.unsupportedPacketType _) =>
            some (s.setHandler conn (.violating serverKp))
        | .looping serverKp, .error _ =>
            some (s.setHandler conn (.closing serverKp))
        | _, _ => none
  | .readFails conn =>
      match s.handler conn with
      | .awaitingConnect => some (s.abandon conn (s.device conn).conn)
      | .looping serverKp => some (s.setHandler conn (.closing serverKp))
      | _ => none
  | .greet conn now outcome =>
      match s.handler conn with
      | .refusing returnCode =>
          some (s.abandon conn ((s.device conn).conn.write now outcome
            (connackPacket returnCode 0)).2)
      | .welcoming deviceID serverKp =>
          let sent := (s.device conn).conn.write now outcome
            (connackPacket ReturnCode.accepted (.ofInt serverKp))
          if sent.1 then
            some (s.setSession conn { s.sessions conn with
              device := newDeviceConnection sent.2 deviceID
              handler := .registering serverKp })
          else
            some (s.abandon conn sent.2)
      | _ => none
  | .register conn =>
      match s.handler conn with
      | .registering serverKp =>
          let deviceID := (s.device conn).deviceID
          let registered := s.store.register deviceID conn
          some ({ s with
            store := registered.2
            registrations := (deviceID, conn) :: s.registrations }.setHandler conn
              (match registered.1 with
                | some prev => .takingOver prev serverKp
                | none => .establishing serverKp))
      | _ => none
  | .takeOver conn task =>
      match s.handler conn with
      | .takingOver prev serverKp =>
          (s.setHandler conn (.establishing serverKp)).spawn task
            (.takeoverSending prev)
      | _ => none
  | .establish conn =>
      match s.handler conn with
      | .establishing serverKp =>
          some ((s.report (.established (s.device conn).deviceID conn)).setHandler
            conn (.looping serverKp))
      | _ => none
  | .answer conn now outcome =>
      match s.handler conn with
      | .answering serverKp =>
          some (s.setSession conn { s.sessions conn with
            device := (s.device conn).answerPing now outcome
            handler := .looping serverKp })
      | .violating serverKp =>
          some (s.setSession conn { s.sessions conn with
            device := { s.device conn with
              conn := ((s.device conn).conn.write now outcome
                (disconnectPacket Reason.protocolViolation)).2 }
            handler := .closing serverKp })
      | _ => none
  | .close conn =>
      match s.handler conn with
      | .closing _ =>
          some (s.setSession conn { s.sessions conn with
            device := (s.device conn).close
            handler := .removing })
      | _ => none
  | .remove conn =>
      if s.handler conn = .removing then
        some ({ s with
          store := (s.store.remove (s.device conn).deviceID conn).2 }.setHandler
            conn .notifying)
      else
        none
  | .notify conn =>
      if s.handler conn = .notifying then
        some ((s.report (.closed (s.device conn).deviceID conn
          .connectionClosed)).setHandler conn .leaving)
      else
        none
  | .leave conn =>
      if s.handler conn = .leaving then
        some ({ s with running := s.running - 1 }.setHandler conn .returned)
      else
        none
  | .push task deviceID payload =>
      match s.store.get deviceID with
      | some conn => s.spawn task (.pushFound conn payload)
      | none => s.spawn task .finished
  | .kick task deviceID reason =>
      match s.store.get deviceID with
      | some conn => s.spawn task (.kickFound deviceID conn reason)
      | none => s.spawn task .finished
  | .reap task conn =>
      -- Time is left open: the timer may fire whenever it is armed.
      match s.handler conn with
      | .looping serverKp | .answering serverKp | .violating serverKp
      | .closing serverKp =>
          if serverKp > 0 then s.spawn task (.reapSending conn) else none
      | _ => none
  | .shutdown task =>
      ({ s with listening := false }).spawn task .shutdownListing
  | .proceed task now outcome => s.proceed task now outcome

end ServerSystem

end Server

end RmttGo
