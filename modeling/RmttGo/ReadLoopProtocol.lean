import RmttGo.SessionSteps
import RmttGo.StoppingPoint

/-!
# The protocol of the server's read loop

What `handleDeviceConnection` is to do about a stream of bytes: start a call of
the `MessageHandler` for each PUSH and write a PINGRESP for each PINGREQ until
the loop stops, write a DISCONNECT if the stop is a protocol violation, then
close the connection, remove it from the store and report it closed.
-/

namespace RmttGo

namespace Server

open Codec

section Protocol

inductive Effect
  | start (deviceID payload : Bytes)
  | write (bytes : Bytes)
  | close
  | remove
  | report (event : LifecycleEvent)
  deriving DecidableEq, Repr

/-- All but PUSH and PINGREQ end the loop. -/
def endsLoop : ControlPacket → Bool
  | .push _ | .pingreq _ => false
  | _ => true

/-- What the loop does about a packet that does not end it. -/
def answers (options : ServerOptions) (deviceID : Bytes) :
    ControlPacket → List Effect
  | .push packet =>
      if options.handlesMessages then [.start deviceID packet.payload] else []
  | .pingreq _ => [.write pingrespPacket.frame]
  | _ => []

/-- The stop is a protocol violation: a packet that only the other end may send
or that comes too late, or an error with the words of an unknown type. -/
def violates : Stop → Bool
  | .failure failure => failure.Mentions unsupportedWords
  | .packet (.connect _) | .packet (.connack _) | .packet (.pingresp _) => true
  | .packet _ => false

def violationEffects (stop : Stop) : List Effect :=
  if violates stop then
    [.write (disconnectPacket Reason.protocolViolation).frame]
  else
    []

def loopEffects (options : ServerOptions) (deviceID stream : Bytes) :
    List Effect :=
  (readUntil endsLoop stream).packets.flatMap (answers options deviceID) ++
    violationEffects (readUntil endsLoop stream).stop

/-- The deferred functions; `entries` is how often the connection is in the
store. -/
def closingEffects (deviceID : Bytes) (conn entries : Nat) : List Effect :=
  .close :: (List.replicate entries .remove ++
    [.report (.closed deviceID conn .connectionClosed)])

variable {options : ServerOptions} {deviceID stream : Bytes}

theorem loopEffects_of_packet {packet : ControlPacket} {later : Buffer}
    (isRead : readPacket (⟨stream⟩ : Buffer) = .ok (packet, later))
    (goesOn : endsLoop packet = false) :
    loopEffects options deviceID stream =
      answers options deviceID packet ++
        loopEffects options deviceID later.unread := by
  simp only [loopEffects, readUntil_of_packet isRead goesOn, List.flatMap_cons,
    List.append_assoc]

theorem loopEffects_of_end {packet : ControlPacket} {later : Buffer}
    (isRead : readPacket (⟨stream⟩ : Buffer) = .ok (packet, later))
    (isEnd : endsLoop packet = true) :
    loopEffects options deviceID stream = violationEffects (.packet packet) := by
  simp [loopEffects, readUntil_of_end isRead isEnd]

theorem loopEffects_of_error {failure : Error}
    (failed : readPacket (⟨stream⟩ : Buffer) = .error failure) :
    loopEffects options deviceID stream = violationEffects (.failure failure) := by
  simp [loopEffects, readUntil_of_error failed]

/-- No byte behind the stopping point has an effect. -/
theorem loopEffects_take_append
    (followed : stopPoint endsLoop stream < stream.length) (other : Bytes) :
    loopEffects options deviceID
        (stream.take (stopPoint endsLoop stream) ++ other) =
      loopEffects options deviceID stream := by
  obtain ⟨packets, stop⟩ := readUntil_take_append followed other
  rw [loopEffects, packets, stop]
  rfl

/-- The packets that are violations in whatever state the device is. -/
def Misplaced : ControlPacket → Prop
  | .connect _ | .connack _ | .pingresp _ => True
  | _ => False

theorem violates_iff :
    violates (readUntil endsLoop stream).stop = true ↔
      (∃ packet, (readUntil endsLoop stream).stop = .packet packet ∧
        Misplaced packet) ∨
      UnknownFrame (readUntil endsLoop stream).last := by
  have stops := readUntil_stopsAtLast endsLoop stream
  generalize readUntil endsLoop stream = reading at stops
  unfold Reading.StopsAtLast at stops
  cases isStop : reading.stop with
  | failure failure =>
      rw [isStop] at stops
      simp [violates, mentions_unsupported_iff stops]
  | packet packet =>
      rw [isStop] at stops
      obtain ⟨isEnd, later, isRead⟩ := stops
      have known : ¬ UnknownFrame reading.last := by
        intro unknown
        obtain ⟨messageType, failed⟩ := unknown.readPacket_eq
        rw [isRead] at failed
        cases failed
      cases packet <;> simp [violates, Misplaced, known]

theorem violationEffects_of_unsupported (messageType : UInt8) :
    violationEffects (.failure (.unsupportedPacketType messageType)) =
      [.write (disconnectPacket Reason.protocolViolation).frame] := by
  simp [violationEffects, violates, Error.mentions_unsupported]

theorem violationEffects_of_other {failure : Error} {stream : Bytes}
    (failed : readPacket (⟨stream⟩ : Buffer) = .error failure)
    (other : ∀ messageType, failure ≠ .unsupportedPacketType messageType) :
    violationEffects (.failure failure) = [] := by
  have plain : failure.Plain := by
    refine (unknownFrame_or_plain failed).resolve_left fun unknown => ?_
    obtain ⟨messageType, isUnsupported⟩ := unknown.readPacket_eq
    rw [failed] at isUnsupported
    exact other messageType (Except.error.inj isUnsupported)
  simp [violationEffects, violates, plain.not_mentions]

end Protocol

section Position

/-- What the handler has left to do, when its connection is so often in the
store. -/
def pending (options : ServerOptions) (conn : Nat) (session : Session)
    (entries : Nat) : List Effect :=
  let deviceID := session.device.deviceID
  let loop := loopEffects options deviceID session.inbound.unread
  let closing := closingEffects deviceID conn entries
  match session.handler with
  | .looping _ => loop ++ closing
  | .answering _ => .write pingrespPacket.frame :: (loop ++ closing)
  | .violating _ =>
      .write (disconnectPacket Reason.protocolViolation).frame :: closing
  | .closing _ => closing
  | .removing => closing.tail
  | .notifying => [.report (.closed deviceID conn .connectionClosed)]
  | _ => []

/-- The connection is not in the store any more. -/
def Handler.removed : Handler → Bool
  | .notifying | .leaving | .returned => true
  | _ => false

namespace Session

/-- A bound on the number of steps the handler still takes. -/
def remaining (session : Session) : Nat :=
  let unread := session.inbound.unread.length
  match session.handler with
  | .looping _ => 2 * unread + 6
  | .answering _ => 2 * unread + 7
  | .violating _ => 5
  | .closing _ => 4
  | .removing => 3
  | .notifying => 2
  | .leaving => 1
  | _ => 0

/-- The handler has reached its loop; the connection is open until it closes
it. -/
def Served (session : Session) : Prop :=
  match session.handler with
  | .looping _ | .answering _ | .violating _ | .closing _ =>
      session.device.active = true ∧ session.device.conn.closed = false
  | .removing | .notifying | .leaving | .returned =>
      session.device.conn.closed = true
  | _ => False

/-- Where the handler is decides what `Served` says. -/
theorem Served.of_handler {session : Session} {handler : Handler}
    (served : session.Served) (position : session.handler = handler) :
    { session with handler }.Served := by
  rwa [← position]

theorem Served.setDevice {session : Session} {device : DeviceConnection}
    (served : session.Served)
    (active : device.conn.closed = false → device.active = session.device.active)
    (keeps : device.conn.closed = true → session.device.conn.closed = true)
    (stays : session.device.conn.closed = true → device.conn.closed = true) :
    { session with device }.Served := by
  unfold Served at served ⊢
  cases handler : session.handler <;> simp_all

theorem remaining_congr {session after : Session}
    (handler : after.handler = session.handler)
    (inbound : after.inbound = session.inbound) :
    after.remaining = session.remaining := by
  unfold remaining
  rw [handler, inbound]

end Session

section Pending

variable {options : ServerOptions} {conn : Nat} {session after : Session}

theorem pending_congr (handler : after.handler = session.handler)
    (inbound : after.inbound = session.inbound)
    (device : after.device.deviceID = session.device.deviceID) {entries : Nat} :
    pending options conn after entries = pending options conn session entries := by
  unfold pending
  rw [handler, inbound, device]

/-- Until the removal, how often the connection is in the store matters only
for the removal. -/
theorem exists_pending_eq (served : session.Served)
    (notRemoved : session.handler.removed = false) :
    ∃ ahead, ∀ entries, pending options conn session entries =
      ahead ++ (closingEffects session.device.deviceID conn entries).tail := by
  unfold pending closingEffects
  unfold Session.Served at served
  cases handler : session.handler with
  | looping serverKp =>
      exact ⟨loopEffects options session.device.deviceID session.inbound.unread ++
        [.close], fun entries => by simp⟩
  | answering serverKp =>
      exact ⟨.write pingrespPacket.frame :: (loopEffects options
        session.device.deviceID session.inbound.unread ++ [.close]),
        fun entries => by simp⟩
  | violating serverKp => exact ⟨[.write _, .close], fun entries => rfl⟩
  | closing serverKp => exact ⟨[.close], fun entries => rfl⟩
  | removing => exact ⟨[], fun entries => rfl⟩
  | notifying | leaving | returned =>
      rw [handler] at notRemoved
      cases notRemoved
  | _ => simp [handler] at served

end Pending

/-- Nothing that other goroutines do opens a connection again. -/
theorem DeviceConnection.Operated.closed_stays {dc after : DeviceConnection}
    (operated : dc.Operated after) (closed : dc.conn.closed = true) :
    after.conn.closed = true := by
  cases active : dc.active with
  | false => rwa [operated.eq_of_inactive active]
  | true =>
      cases operated with
      | write payload now outcome =>
          rwa [write_of_active now outcome active, writeBounded_closed]
      | sendDisconnect reason now outcome =>
          rwa [sendDisconnect_of_active now outcome active, writeBounded_closed]
      | close =>
          unfold DeviceConnection.close
          rw [active]
          rfl

/-- A device connection becomes inactive only together with its connection. -/
theorem DeviceConnection.Operated.active_of_open {dc after : DeviceConnection}
    (operated : dc.Operated after) (isOpen : after.conn.closed = false) :
    after.active = dc.active := by
  cases active : dc.active with
  | false => rwa [operated.eq_of_inactive active]
  | true =>
      cases operated with
      | write payload now outcome =>
          rwa [write_of_active now outcome active, writeBounded_active]
      | sendDisconnect reason now outcome =>
          rwa [sendDisconnect_of_active now outcome active, writeBounded_active]
      | close =>
          unfold DeviceConnection.close at isOpen
          rw [active] at isOpen
          cases isOpen

end Position

end Server

end RmttGo
