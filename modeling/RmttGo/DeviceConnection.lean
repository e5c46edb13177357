import RmttGo.ControlPackets
import RmttGo.EventRuns
import RmttGo.Transport

/-!
# Writing to a device

`deviceConnection` and the heartbeat answer of the server's read loop, which
write to the same `net.Conn`.  `Write` and `SendDisconnect` look at the active
flag and set a deadline of five seconds that nothing ever clears; the heartbeat
answer does neither.
-/

namespace RmttGo

namespace Server

open Codec

/-- The connection below, with the frames of control packets. -/
abbrev Conn := NetConn ControlPacket.frame

def writeTimeout : Nat := 5 * second

def pingrespPacket : ControlPacket :=
  .pingresp ⟨.ofType MessageType.pingresp⟩

inductive WriteError
  /-- `net.ErrClosed`. -/
  | closed
  | transport
  deriving DecidableEq, Repr

structure DeviceConnection where
  conn : Conn
  deviceID : Bytes
  active : Bool

def newDeviceConnection (conn : Conn) (deviceID : Bytes) : DeviceConnection :=
  ⟨conn, deviceID, true⟩

namespace DeviceConnection

/-- The packet under a deadline of `writeTimeout` from now. -/
def writeBounded (dc : DeviceConnection) (now : Nat) (outcome : TransportOutcome)
    (packet : ControlPacket) : Bool × DeviceConnection :=
  let written :=
    (dc.conn.setWriteDeadline (now + writeTimeout)).write now outcome packet
  (written.1, { dc with conn := written.2 })

def write (dc : DeviceConnection) (payload : Bytes) (now : Nat)
    (outcome : TransportOutcome) : Except WriteError Unit × DeviceConnection :=
  if !dc.active then
    (.error .closed, dc)
  else
    let sent := dc.writeBounded now outcome (pushPacket payload)
    (if sent.1 then .ok () else .error .transport, sent.2)

def sendDisconnect (dc : DeviceConnection) (reason : UInt8) (now : Nat)
    (outcome : TransportOutcome) : DeviceConnection :=
  if !dc.active then
    dc
  else
    (dc.writeBounded now outcome (disconnectPacket reason)).2

def close (dc : DeviceConnection) : DeviceConnection :=
  if dc.active then
    { dc with active := false, conn := dc.conn.close }
  else
    dc

/-- The answer to a PINGREQ in `handleDeviceConnection`; the error is dropped. -/
def answerPing (dc : DeviceConnection) (now : Nat) (outcome : TransportOutcome) :
    DeviceConnection :=
  { dc with conn := (dc.conn.write now outcome pingrespPacket).2 }

section Effects

variable (dc : DeviceConnection) (now : Nat) (outcome : TransportOutcome)
  (packet : ControlPacket)

@[simp]
theorem writeBounded_active :
    (dc.writeBounded now outcome packet).2.active = dc.active :=
  rfl

@[simp]
theorem writeBounded_closed :
    (dc.writeBounded now outcome packet).2.conn.closed = dc.conn.closed := by
  unfold writeBounded
  rw [NetConn.write_closed]
  rfl

@[simp]
theorem writeBounded_writeDeadline :
    (dc.writeBounded now outcome packet).2.conn.writeDeadline =
      some (now + writeTimeout) := by
  unfold writeBounded
  rw [NetConn.write_writeDeadline]
  rfl

theorem writeBounded_writes :
    (dc.writeBounded now outcome packet).2.conn.writes =
      dc.conn.writes ++ ((dc.conn.setWriteDeadline (now + writeTimeout)).accept
        now outcome packet).toList := by
  unfold writeBounded
  rw [NetConn.write_writes]
  rfl

theorem write_of_active {dc : DeviceConnection} (active : dc.active = true)
    (payload : Bytes) :
    (dc.write payload now outcome).2 =
      (dc.writeBounded now outcome (pushPacket payload)).2 := by
  unfold write
  rw [active]
  rfl

theorem write_of_inactive {dc : DeviceConnection} (inactive : dc.active = false)
    (payload : Bytes) : dc.write payload now outcome = (.error .closed, dc) := by
  unfold write
  rw [inactive]
  rfl

theorem sendDisconnect_of_active {dc : DeviceConnection}
    (active : dc.active = true) (reason : UInt8) :
    dc.sendDisconnect reason now outcome =
      (dc.writeBounded now outcome (disconnectPacket reason)).2 := by
  unfold sendDisconnect
  rw [active]
  rfl

theorem sendDisconnect_of_inactive {dc : DeviceConnection}
    (inactive : dc.active = false) (reason : UInt8) :
    dc.sendDisconnect reason now outcome = dc := by
  unfold sendDisconnect
  rw [inactive]
  rfl

/-- The same device connection after some operations: it keeps its device and
never becomes active again. -/
structure Later (before after : DeviceConnection) : Prop where
  deviceID : after.deviceID = before.deviceID
  active : after.active = true → before.active = true

theorem Later.inactive {before after : DeviceConnection}
    (later : before.Later after) (inactive : before.active = false) :
    after.active = false := by
  by_contra isActive
  cases inactive.symm.trans (later.active (Bool.eq_true_of_not_eq_false isActive))

theorem Later.of_conn (conn : Conn) : dc.Later { dc with conn } :=
  ⟨rfl, fun active => active⟩

theorem write_later (payload : Bytes) :
    dc.Later (dc.write payload now outcome).2 := by
  unfold write
  split
  · exact Later.of_conn dc _
  · exact Later.of_conn dc _

theorem sendDisconnect_later (reason : UInt8) :
    dc.Later (dc.sendDisconnect reason now outcome) := by
  unfold sendDisconnect
  split
  · exact Later.of_conn dc _
  · exact Later.of_conn dc _

theorem close_active : dc.close.active = false := by
  unfold close
  split
  · rfl
  · rename_i inactive
    exact Bool.eq_false_of_not_eq_true inactive

theorem close_later : dc.Later dc.close where
  deviceID := by
    unfold close
    split <;> rfl
  active := by simp [close_active]

theorem not_expired_of_set (conn : Conn) :
    ¬ (conn.setWriteDeadline (now + writeTimeout)).Expired now := by
  simp [NetConn.setWriteDeadline, NetConn.Expired, writeTimeout, second]

end Effects

end DeviceConnection

section Heartbeats

inductive Traffic
  | push (now : Nat) (payload : Bytes)
  | pingreq (now : Nat)
  deriving DecidableEq, Repr

/-- The peer drains, so every write the connection attempts is taken whole. -/
def DeviceConnection.serve (dc : DeviceConnection) : Traffic → DeviceConnection
  | .push now payload => (dc.write payload now .whole).2
  | .pingreq now => dc.answerPing now .whole

/-- One PINGRESP, whole, is what went out in between. -/
def Answered (before after : DeviceConnection) : Prop :=
  ∃ delivery, after.conn.writes = before.conn.writes ++ [delivery] ∧
    delivery.message = pingrespPacket ∧ delivery.Complete

def AllAnswered : DeviceConnection → List Traffic → Prop
  | _, [] => True
  | dc, .push now payload :: traffic =>
      AllAnswered (dc.serve (.push now payload)) traffic
  | dc, .pingreq now :: traffic =>
      Answered dc (dc.serve (.pingreq now)) ∧
        AllAnswered (dc.serve (.pingreq now)) traffic

/-- Every PINGREQ comes before any push, or less than `writeTimeout` after the
latest one. -/
def Timely : Option Nat → List Traffic → Prop
  | _, [] => True
  | _, .push now _ :: traffic => Timely (some now) traffic
  | lastPush, .pingreq now :: traffic =>
      (∀ pushed, lastPush = some pushed → now < pushed + writeTimeout) ∧
        Timely lastPush traffic

structure Healthy (dc : DeviceConnection) (lastPush : Option Nat) : Prop where
  active : dc.active = true
  isOpen : dc.conn.closed = false
  deadline : dc.conn.writeDeadline = lastPush.map (· + writeTimeout)

theorem Healthy.push {dc : DeviceConnection} {lastPush : Option Nat}
    (healthy : Healthy dc lastPush) (now : Nat) (payload : Bytes) :
    Healthy (dc.serve (.push now payload)) (some now) := by
  have sent : dc.serve (.push now payload) =
      (dc.writeBounded now .whole (pushPacket payload)).2 :=
    DeviceConnection.write_of_active now .whole healthy.active payload
  rw [sent]
  constructor
  · simp [healthy.active]
  · simp [healthy.isOpen]
  · simp

theorem Healthy.pingreq {dc : DeviceConnection} {lastPush : Option Nat}
    (healthy : Healthy dc lastPush) (now : Nat) :
    Healthy (dc.serve (.pingreq now)) lastPush := by
  constructor
  · exact healthy.active
  · simp [DeviceConnection.serve, DeviceConnection.answerPing, healthy.isOpen]
  · simp [DeviceConnection.serve, DeviceConnection.answerPing, healthy.deadline]

theorem Healthy.expired_iff {dc : DeviceConnection} {lastPush : Option Nat}
    (healthy : Healthy dc lastPush) (now : Nat) :
    dc.conn.Expired now ↔
      ∃ pushed, lastPush = some pushed ∧ pushed + writeTimeout ≤ now := by
  unfold NetConn.Expired
  rw [healthy.deadline]
  cases lastPush <;> simp

/-- A heartbeat is answered exactly if the deadline of the latest push has not
passed. -/
theorem Healthy.answered_iff {dc : DeviceConnection} {lastPush : Option Nat}
    (healthy : Healthy dc lastPush) (now : Nat) :
    Answered dc (dc.serve (.pingreq now)) ↔
      ∀ pushed, lastPush = some pushed → now < pushed + writeTimeout := by
  have writes := dc.conn.write_writes now .whole pingrespPacket
  have inTime : ¬ dc.conn.Expired now ↔
      ∀ pushed, lastPush = some pushed → now < pushed + writeTimeout := by
    rw [healthy.expired_iff]
    push Not
    rfl
  rw [← inTime]
  constructor
  · rintro ⟨delivery, wrote, -⟩ expired
    have refused : dc.conn.accept now .whole pingrespPacket = none :=
      NetConn.accept_eq_none_iff.mpr (.inr expired)
    rw [refused] at writes
    have same := writes.symm.trans wrote
    simp at same
  · intro inTime
    rw [NetConn.accept_whole healthy.isOpen inTime] at writes
    exact ⟨_, writes, rfl, rfl⟩

theorem Healthy.allAnswered_iff {dc : DeviceConnection} {lastPush : Option Nat}
    {traffic : List Traffic} (healthy : Healthy dc lastPush) :
    AllAnswered dc traffic ↔ Timely lastPush traffic := by
  induction traffic generalizing dc lastPush with
  | nil => simp [AllAnswered, Timely]
  | cons event traffic ih =>
      cases event with
      | push now payload => exact ih (healthy.push now payload)
      | pingreq now =>
          exact and_congr (healthy.answered_iff now) (ih (healthy.pingreq now))

/-- On a connection that nobody closes and whose peer drains, all heartbeats
are answered exactly if none comes `writeTimeout` or more after a push with no
other push in between. -/
theorem heartbeats_answered_iff (deviceID : Bytes) (traffic : List Traffic) :
    AllAnswered (newDeviceConnection .fresh deviceID) traffic ↔
      Timely none traffic := by
  apply Healthy.allAnswered_iff
  exact ⟨rfl, rfl, rfl⟩

/-- A push, and a heartbeat five seconds later. -/
theorem heartbeat_after_push_unanswered :
    ¬ AllAnswered (newDeviceConnection .fresh [0x64])
        [.push 0 [0x68, 0x69], .pingreq (5 * second)] := by
  have healthy : Healthy (newDeviceConnection .fresh [0x64]) none :=
    ⟨rfl, rfl, rfl⟩
  rw [healthy.allAnswered_iff]
  simp [Timely, writeTimeout]

end Heartbeats

end Server

end RmttGo
