import RmttGo.StreamRoundTrip
import RmttGo.DeviceConnection

/-!
# Frames after a torn frame

All writers of one device connection, with any transport outcome.  A write
that fails halfway leaves the connection active, so the next writer puts its
frame behind the torn one.  The peer's bytes stay framed exactly if chance or
the transport keeps every later writer silent.
-/

namespace RmttGo

namespace Server

open Codec EventRun

theorem two_le_frame_length (packet : ControlPacket) :
    2 ≤ packet.frame.length := by
  have header := List.length_pos_of_ne_nil
    (encodeLength_ne_nil packet.write.2.fixedHeader.remainingLength)
  rw [ControlPacket.frame_eq, List.length_append]
  simp only [FixedHeader.pack, List.length_cons]
  omega

inductive WireOperation
  | write (payload : Bytes) (now : Nat) (outcome : TransportOutcome)
  | sendDisconnect (reason : UInt8) (now : Nat) (outcome : TransportOutcome)
  | pingresp (now : Nat) (outcome : TransportOutcome)
  | close
  deriving DecidableEq, Repr

namespace DeviceConnection

def perform (dc : DeviceConnection) : WireOperation → DeviceConnection
  | .write payload now outcome => (dc.write payload now outcome).2
  | .sendDisconnect reason now outcome => dc.sendDisconnect reason now outcome
  | .pingresp now outcome => dc.answerPing now outcome
  | .close => dc.close

/-- What an operation under the active flag and a new deadline delivers. -/
def deliversBounded (dc : DeviceConnection) (now : Nat)
    (outcome : TransportOutcome) (packet : ControlPacket) :
    Option (Delivery ControlPacket.frame) :=
  if dc.active then
    (dc.conn.setWriteDeadline (now + writeTimeout)).accept now outcome packet
  else
    none

def delivers (dc : DeviceConnection) :
    WireOperation → Option (Delivery ControlPacket.frame)
  | .write payload now outcome =>
      dc.deliversBounded now outcome (pushPacket payload)
  | .sendDisconnect reason now outcome =>
      dc.deliversBounded now outcome (disconnectPacket reason)
  | .pingresp now outcome => dc.conn.accept now outcome pingrespPacket
  | .close => none

theorem perform_writes (dc : DeviceConnection) (operation : WireOperation) :
    (dc.perform operation).conn.writes =
      dc.conn.writes ++ (dc.delivers operation).toList := by
  cases operation with
  | write payload now outcome =>
      simp only [perform, delivers, deliversBounded]
      cases active : dc.active with
      | true =>
          rw [write_of_active now outcome active, writeBounded_writes, if_pos rfl]
      | false => simp [write_of_inactive now outcome active]
  | sendDisconnect reason now outcome =>
      simp only [perform, delivers, deliversBounded]
      cases active : dc.active with
      | true =>
          rw [sendDisconnect_of_active now outcome active, writeBounded_writes,
            if_pos rfl]
      | false => simp [sendDisconnect_of_inactive now outcome active]
  | pingresp now outcome => exact dc.conn.write_writes now outcome pingrespPacket
  | close =>
      simp only [perform, delivers, close]
      split <;> simp [NetConn.close]

/-- The operation is kept off the wire: by the active flag, by the connection
below, or by a transport that takes nothing. -/
def Silent (dc : DeviceConnection) : WireOperation → Prop
  | .write _ _ outcome | .sendDisconnect _ _ outcome =>
      dc.active = false ∨ dc.conn.closed = true ∨ outcome = .part 0
  | .pingresp now outcome =>
      dc.conn.closed = true ∨ dc.conn.Expired now ∨ outcome = .part 0
  | .close => True

end DeviceConnection

theorem taken_eq_zero_iff {conn : Conn} {now : Nat} {outcome : TransportOutcome}
    {packet : ControlPacket} :
    (∀ delivery, conn.accept now outcome packet = some delivery →
        delivery.taken = 0) ↔
      conn.closed = true ∨ conn.Expired now ∨ outcome = .part 0 := by
  have size := two_le_frame_length packet
  by_cases refused : conn.closed = true ∨ conn.Expired now
  · constructor
    · intro _
      exact refused.imp_right .inl
    · intro _ delivery accepted
      rw [NetConn.accept_eq_none_iff.mpr refused] at accepted
      cases accepted
  · rw [← or_assoc, or_iff_right refused]
    cases outcome with
    | whole =>
        simp only [NetConn.accept, if_neg refused, Option.some.injEq,
          forall_eq', reduceCtorEq, iff_false]
        omega
    | part taken =>
        simp only [NetConn.accept, if_neg refused, Option.some.injEq,
          forall_eq', TransportOutcome.part.injEq]
        omega

theorem DeviceConnection.silent_iff {dc : DeviceConnection}
    {operation : WireOperation} :
    dc.Silent operation ↔
      ∀ delivery, dc.delivers operation = some delivery →
        delivery.taken = 0 := by
  have bounded : ∀ now outcome packet,
      (∀ delivery, dc.deliversBounded now outcome packet = some delivery →
          delivery.taken = 0) ↔
        dc.active = false ∨ dc.conn.closed = true ∨ outcome = .part 0 := by
    intro now outcome packet
    unfold deliversBounded
    cases active : dc.active with
    | false => simp
    | true =>
        rw [if_pos rfl, taken_eq_zero_iff]
        simp [not_expired_of_set]
  cases operation with
  | write payload now outcome => exact (bounded _ _ _).symm
  | sendDisconnect reason now outcome => exact (bounded _ _ _).symm
  | pingresp now outcome => exact taken_eq_zero_iff.symm
  | close => simp [Silent, delivers]

/-- Once a frame is torn, operations are silent. -/
def StaysSilent (dc : DeviceConnection) (operation : WireOperation) : Prop :=
  (∃ delivery ∈ dc.conn.writes, delivery.Torn) → dc.Silent operation

theorem framed_perform_iff {dc : DeviceConnection} {operation : WireOperation} :
    Framed (dc.perform operation).conn.writes ↔
      Framed dc.conn.writes ∧ StaysSilent dc operation := by
  rw [StaysSilent, DeviceConnection.silent_iff, DeviceConnection.perform_writes]
  cases dc.delivers operation with
  | none => simp
  | some delivery => simpa using framed_append_singleton

/-- What the peer may receive: whole frames, and at most one that is cut short
at the very end. -/
def FramesThenCut (received : Bytes) : Prop :=
  ∃ (packets : List ControlPacket) (tail : Bytes),
    received = packets.flatMap ControlPacket.frame ++ tail ∧
      (tail = [] ∨ ∃ packet : ControlPacket, tail <+: packet.frame ∧
        tail.length < packet.frame.length)

/-- No frame is behind a torn one, and the peer's bytes are frames. -/
def WellFramed (dc : DeviceConnection) : Prop :=
  Framed dc.conn.writes ∧
    FramesThenCut (dc.conn.writes.flatMap Delivery.bytes)

theorem wellFramed_iff {dc : DeviceConnection} :
    WellFramed dc ↔ Framed dc.conn.writes := by
  constructor
  · rintro ⟨framed, -⟩
    exact framed
  · intro framed
    exact ⟨framed, framed.exists_messages⟩

def wireStep (dc : DeviceConnection) (operation : WireOperation) :
    Option DeviceConnection :=
  some (dc.perform operation)

/-- The wire of a device connection stays framed through a sequence of
operations exactly if, once one of them has torn a frame, all that follow are
kept off the wire by something other than the torn frame. -/
theorem always_framed_iff (deviceID : Bytes) (operations : List WireOperation) :
    Always wireStep WellFramed (newDeviceConnection .fresh deviceID)
        operations ↔
      Meets wireStep StaysSilent (newDeviceConnection .fresh deviceID)
        operations := by
  refine always_iff_meets (fun dc => Framed dc.conn.writes)
    wellFramed_iff.mpr ?_ ?_ ?_
  · rintro dc next operation framed silent ⟨⟩
    exact framed_perform_iff.mpr ⟨framed, silent⟩
  · rintro dc next operation framed disturbs ⟨⟩ stillFramed
    exact disturbs (framed_perform_iff.mp (wellFramed_iff.mp stillFramed)).2
  · exact List.Pairwise.nil

/-- A push of which one byte goes out before its deadline, and a heartbeat
answer a second later. -/
theorem pingresp_after_torn_push :
    ∃ dc, run wireStep (newDeviceConnection .fresh [0x64])
          [.write [0x68, 0x69] 0 (.part 1), .pingresp second .whole] = some dc ∧
      ¬ WellFramed dc ∧
      dc.conn.writes.flatMap Delivery.bytes = [0x30, 0x60, 0x00] := by
  refine ⟨_, rfl, ?_, ?_⟩
  · rw [wellFramed_iff]
    decide +kernel
  · decide +kernel

end Server

end RmttGo
