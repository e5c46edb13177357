import RmttGo.ReadLoopProtocol
import RmttGo.WireFraming

/-!
# Connections with a DISCONNECT on them

What the operations on one connection add to the frames written on it, and who
closes it once a DISCONNECT is among them, as far as its own handler decides
that.
-/

namespace RmttGo

namespace Server

open Codec

abbrev Written := Delivery ControlPacket.frame

/-- The frame of a DISCONNECT that was written whole. -/
def IsDisconnect (delivery : Written) : Prop :=
  delivery.message.messageType = MessageType.disconnect ∧ delivery.Complete

namespace DeviceConnection

def Dismissed (dc : DeviceConnection) : Prop :=
  ∃ delivery ∈ dc.conn.writes, IsDisconnect delivery

/-- No byte of a frame follows a DISCONNECT. -/
def DisconnectIsLast (dc : DeviceConnection) : Prop :=
  dc.conn.writes.Pairwise fun earlier later =>
    IsDisconnect earlier → later.taken = 0

/-- One operation adds at most one frame, and none behind a closed connection. -/
structure Extends (before after : DeviceConnection) (added : Option Written) :
    Prop where
  writes : after.conn.writes = before.conn.writes ++ added.toList
  open_of_added : ∀ delivery, added = some delivery → before.conn.closed = false

variable {dc after : DeviceConnection}

theorem Extends.refl (dc : DeviceConnection) : dc.Extends dc none where
  writes := (List.append_nil _).symm
  open_of_added := nofun

theorem Extends.congr {added : Option Written} (extended : dc.Extends after added)
    {later : DeviceConnection} (same : later.conn.writes = after.conn.writes) :
    dc.Extends later added :=
  ⟨same.trans extended.writes, extended.open_of_added⟩

theorem Extends.dismissed_iff {added : Option Written}
    (extended : dc.Extends after added) :
    after.Dismissed ↔
      dc.Dismissed ∨ ∃ delivery, added = some delivery ∧ IsDisconnect delivery := by
  unfold Dismissed
  rw [extended.writes]
  simp only [List.mem_append, Option.mem_toList]
  constructor
  · rintro ⟨delivery, earlier | isNew, isDisconnect⟩
    · exact .inl ⟨delivery, earlier, isDisconnect⟩
    · exact .inr ⟨delivery, isNew, isDisconnect⟩
  · rintro (⟨delivery, earlier, isDisconnect⟩ | ⟨delivery, isNew, isDisconnect⟩)
    · exact ⟨delivery, .inl earlier, isDisconnect⟩
    · exact ⟨delivery, .inr isNew, isDisconnect⟩

theorem Extends.disconnectIsLast_iff {added : Option Written}
    (extended : dc.Extends after added) :
    after.DisconnectIsLast ↔
      dc.DisconnectIsLast ∧
        (dc.Dismissed → ∀ delivery, added = some delivery → delivery.taken = 0) := by
  have single : added.toList.Pairwise fun earlier later : Written =>
      IsDisconnect earlier → later.taken = 0 := by
    cases added with
    | none => exact .nil
    | some delivery => exact List.pairwise_singleton _ _
  unfold DisconnectIsLast Dismissed
  rw [extended.writes, List.pairwise_append]
  simp only [single, true_and, Option.mem_toList]
  constructor
  · rintro ⟨earlier, behind⟩
    refine ⟨earlier, ?_⟩
    rintro ⟨disconnect, isWritten, isDisconnect⟩ delivery isNew
    exact behind disconnect isWritten delivery isNew isDisconnect
  · rintro ⟨earlier, behind⟩
    refine ⟨earlier, ?_⟩
    intro disconnect isWritten delivery isNew isDisconnect
    exact behind ⟨disconnect, isWritten, isDisconnect⟩ delivery isNew

theorem open_of_accept {conn : Conn} {now : Nat} {outcome : TransportOutcome}
    {packet : ControlPacket} {delivery : Written}
    (accepted : conn.accept now outcome packet = some delivery) :
    conn.closed = false := by
  by_contra isOpen
  have refused : conn.accept now outcome packet = none :=
    NetConn.accept_eq_none_iff.mpr (.inl (Bool.eq_true_of_not_eq_false isOpen))
  rw [refused] at accepted
  cases accepted

/-- A frame written to the connection below, with any change to the rest of the
device connection. -/
theorem extends_of_write (conn : Conn) (now : Nat) (outcome : TransportOutcome)
    (packet : ControlPacket) (writes : conn.writes = dc.conn.writes)
    (closed : conn.closed = dc.conn.closed)
    (written : after.conn.writes = (conn.write now outcome packet).2.writes) :
    dc.Extends after (conn.accept now outcome packet) where
  writes := by rw [written, NetConn.write_writes, writes]
  open_of_added := by
    intro delivery accepted
    rw [← closed]
    exact open_of_accept accepted

theorem extends_perform (dc : DeviceConnection) (operation : WireOperation) :
    dc.Extends (dc.perform operation) (dc.delivers operation) where
  writes := dc.perform_writes operation
  open_of_added := by
    intro delivery delivered
    cases operation with
    | write payload now outcome | sendDisconnect reason now outcome =>
        obtain ⟨-, accepted⟩ := Option.ite_none_right_eq_some.mp delivered
        have isOpen := open_of_accept accepted
        exact isOpen
    | pingresp now outcome => exact open_of_accept delivered
    | close => cases delivered

theorem close_writes (dc : DeviceConnection) :
    dc.close.conn.writes = dc.conn.writes := by
  unfold close
  split <;> rfl

/-- Only the frame of a DISCONNECT dismisses. -/
theorem Extends.dismissed_of_other {conn : Conn} {now : Nat}
    {outcome : TransportOutcome} {packet : ControlPacket}
    (extended : dc.Extends after (conn.accept now outcome packet))
    (other : packet.messageType ≠ MessageType.disconnect)
    (dismissed : after.Dismissed) : dc.Dismissed := by
  rcases extended.dismissed_iff.mp dismissed with
    before | ⟨delivery, accepted, isDisconnect, -⟩
  · exact before
  · rw [NetConn.accept_message accepted] at isDisconnect
    exact absurd isDisconnect other

theorem dismissed_of_write {payload : Bytes} {now : Nat}
    {outcome : TransportOutcome}
    (dismissed : (dc.write payload now outcome).2.Dismissed) : dc.Dismissed := by
  cases active : dc.active with
  | false => rwa [write_of_inactive now outcome active] at dismissed
  | true =>
      rw [write_of_active now outcome active] at dismissed
      have extended : dc.Extends (dc.writeBounded now outcome
          (pushPacket payload)).2 ((dc.conn.setWriteDeadline
            (now + writeTimeout)).accept now outcome (pushPacket payload)) :=
        extends_of_write _ now outcome _ rfl rfl rfl
      refine extended.dismissed_of_other ?_ dismissed
      nofun

/-- A push that succeeds has put its whole frame on the connection. -/
theorem not_silent_of_write_ok {payload : Bytes} {now : Nat}
    {outcome : TransportOutcome}
    (succeeded : (dc.write payload now outcome).1 = .ok ()) :
    ¬ dc.Silent (.write payload now outcome) := by
  intro silent
  rw [silent_iff] at silent
  cases active : dc.active with
  | false =>
      rw [write_of_inactive now outcome active] at succeeded
      cases succeeded
  | true =>
      simp only [delivers, deliversBounded, active, if_true] at silent
      simp only [write, active, Bool.not_true, Bool.false_eq_true, if_false]
        at succeeded
      split at succeeded
      case isFalse => cases succeeded
      case isTrue sent =>
        simp only [writeBounded, NetConn.write] at sent
        cases accepted : (dc.conn.setWriteDeadline (now + writeTimeout)).accept
            now outcome (pushPacket payload) with
        | none =>
            rw [accepted] at sent
            cases sent
        | some delivery =>
            rw [accepted] at sent
            have complete : delivery.Complete := of_decide_eq_true sent
            have long := two_le_frame_length delivery.message
            have taken := silent delivery accepted
            rw [complete] at taken
            omega

end DeviceConnection

section Sessions

open DeviceConnection

/-- The device connection has not been made. -/
def Handler.unmade : Handler → Bool
  | .unaccepted | .accepted | .entered | .awaitingConnect | .refusing _
  | .welcoming _ _ => true
  | _ => false

/-- Before the device connection is made nothing was written; from then on it is
active until the connection is closed. -/
def Session.Attended (session : Session) : Prop :=
  if session.handler.unmade then
    session.device.active = false ∧ session.device.conn.writes = []
  else
    session.device.active = true ∨ session.device.conn.closed = true

variable {options : ServerOptions} {conn : Nat} {event : ServerEvent}
  {session after : Session}

theorem Session.Attended.of_unmade (attended : session.Attended)
    (unmade : session.handler.unmade = true) :
    session.device.active = false ∧ session.device.conn.writes = [] := by
  unfold Session.Attended at attended
  rwa [if_pos unmade] at attended

theorem Session.Attended.of_made (attended : session.Attended)
    (made : session.handler.unmade = false) :
    session.device.active = true ∨ session.device.conn.closed = true := by
  unfold Session.Attended at attended
  rwa [if_neg (by rw [made]; exact Bool.false_ne_true)] at attended

theorem Session.attended_of_closed (closed : session.device.conn.closed = true)
    (made : session.handler.unmade = false) : session.Attended := by
  unfold Session.Attended
  rw [if_neg (by rw [made]; exact Bool.false_ne_true)]
  exact .inr closed

/-- A dismissed device connection was made. -/
theorem Session.Attended.made_of_dismissed (attended : session.Attended)
    (dismissed : session.device.Dismissed) :
    session.device.active = true ∨ session.device.conn.closed = true := by
  cases made : session.handler.unmade with
  | false => exact attended.of_made made
  | true =>
      obtain ⟨delivery, isWritten, -⟩ := dismissed
      rw [(attended.of_unmade made).2] at isWritten
      cases isWritten

theorem DeviceConnection.closed_of_close {dc : DeviceConnection}
    (made : dc.active = true ∨ dc.conn.closed = true) :
    dc.close.conn.closed = true := by
  unfold DeviceConnection.close
  split
  · rfl
  · rename_i inactive
    rcases made with active | closed
    · exact absurd active inactive
    · exact closed

theorem Session.Attended.operated {device : DeviceConnection}
    (attended : session.Attended) (operated : session.device.Operated device) :
    { session with device }.Attended := by
  cases made : session.handler.unmade with
  | true =>
      rw [operated.eq_of_inactive (attended.of_unmade made).1]
      exact attended
  | false =>
      cases closed : device.conn.closed with
      | true => exact Session.attended_of_closed closed made
      | false =>
          have sameActive := operated.active_of_open closed
          have wasOpen : session.device.conn.closed ≠ true := by
            intro wasClosed
            cases (operated.closed_stays wasClosed).symm.trans closed
          unfold Session.Attended
          rw [if_neg (by rw [made]; exact Bool.false_ne_true)]
          left
          rw [sameActive]
          exact (attended.of_made made).resolve_right wasOpen

theorem Session.Attended.step (attended : session.Attended)
    (stepped : SessionStep options conn event session after) :
    after.Attended := by
  cases stepped with
  | untouched => exact attended
  | accept position => exact ⟨rfl, rfl⟩
  | operate operated => exact attended.operated operated
  | closeBelow tracked =>
      cases made : session.handler.unmade with
      | true =>
          unfold Session.Attended
          rw [if_pos made]
          exact attended.of_unmade made
      | false => exact Session.attended_of_closed rfl made
  | greeted position isRead =>
      have unmade := attended.of_unmade (by rw [position]; rfl)
      cases greet options _ with
      | drop => exact .inr rfl
      | refuse returnCode => exact unmade
      | welcome deviceID serverKp => exact unmade
  | unreadable | refuse | welcomeFails => exact .inr rfl
  | welcome => exact .inl rfl
  | register position registers =>
      have made := attended.of_made (by rw [position]; rfl)
      cases registers <;> exact made
  | receive _ position goesOn =>
      have made := attended.of_made (by rw [position]; rfl)
      cases goesOn <;> exact made
  | answerPing position | violate position =>
      have made := attended.of_made (by rw [position]; rfl)
      rcases made with active | closed
      · exact .inl active
      · exact .inr ((NetConn.write_closed ..).trans closed)
  | close position =>
      have made := attended.of_made (by rw [position]; rfl)
      exact .inr (closed_of_close made)
  | enter position | track position =>
      exact attended.of_unmade (by rw [position]; rfl)
  | takeOver position | establish position | remove position | notify position
  | leave position =>
      exact attended.of_made (by rw [position]; rfl)

/-- The handler writes next, and looks neither at the active flag nor sets a
deadline. -/
def Handler.answers : Handler → Bool
  | .answering _ | .violating _ => true
  | _ => false

theorem SessionStep.extends_of_answer {now : Nat} {outcome : TransportOutcome}
    (stepped : SessionStep options conn (.answer conn now outcome) session after) :
    session.handler.answers = true ∧ ∃ packet, session.device.Extends after.device
      (session.device.conn.accept now outcome packet) := by
  cases stepped with
  | untouched notOwn => exact absurd rfl notOwn
  | unreadable isRead => exact isRead.elim nofun nofun
  | receive isRead => exact isRead.elim nofun nofun
  | answerPing position | violate position =>
      exact ⟨by rw [position]; rfl, _, extends_of_write _ _ _ _ rfl rfl rfl⟩

/-- But for its answers, a handler writes nothing behind a DISCONNECT. -/
theorem SessionStep.extends_of_quiet (attended : session.Attended)
    (stepped : SessionStep options conn event session after)
    (notProceed : ∀ task now outcome, event ≠ .proceed task now outcome)
    (notAnswer : ∀ now outcome, event ≠ .answer conn now outcome) :
    ∃ added, session.device.Extends after.device added ∧
      (session.device.Dismissed → added = none) := by
  have unchanged (same : after.device.conn.writes = session.device.conn.writes) :
      ∃ added, session.device.Extends after.device added ∧
        (session.device.Dismissed → added = none) :=
    ⟨none, (Extends.refl _).congr same, fun _ => rfl⟩
  -- The CONNACK is the first frame on its connection.
  have undismissed (unmade : session.handler.unmade = true) :
      ¬ session.device.Dismissed := by
    rintro ⟨delivery, isWritten, -⟩
    rw [(attended.of_unmade unmade).2] at isWritten
    cases isWritten
  cases stepped with
  | accept position =>
      apply unchanged
      rw [(attended.of_unmade (by rw [position]; rfl)).2]
      rfl
  | greeted position isRead =>
      apply unchanged
      cases greet options _ <;> rfl
  | refuse position | welcome position | welcomeFails position =>
      refine ⟨_, extends_of_write _ _ _ _ rfl rfl rfl, ?_⟩
      intro dismissed
      exact absurd dismissed (undismissed (by rw [position]; rfl))
  | close position => exact unchanged session.device.close_writes
  | answerPing | violate => exact absurd rfl (notAnswer _ _)
  | operate | closeBelow => exact absurd rfl (notProceed _ _ _)
  | _ => exact unchanged rfl

/-- A dismissed connection whose handler goes on is closed, or about to be
closed by its handler, or it was left to a task before. -/
theorem SessionStep.dismissed (attended : session.Attended)
    (stepped : SessionStep options conn event session after)
    (notProceed : ∀ task now outcome, event ≠ .proceed task now outcome)
    (dismissed : after.device.Dismissed) :
    after.device.conn.closed = true ∨
      (∃ serverKp, after.handler = .closing serverKp) ∨
      session.device.Dismissed ∧ session.device.conn.closed = false ∧
        ∀ serverKp, session.handler ≠ .closing serverKp := by
  have kept (device : after.device = session.device)
      (goesOn : ∀ serverKp, session.handler ≠ .closing serverKp) :
      after.device.conn.closed = true ∨
        (∃ serverKp, after.handler = .closing serverKp) ∨
        session.device.Dismissed ∧ session.device.conn.closed = false ∧
          ∀ serverKp, session.handler ≠ .closing serverKp := by
    rw [device] at dismissed ⊢
    cases closed : session.device.conn.closed with
    | true => exact .inl rfl
    | false => exact .inr (.inr ⟨dismissed, rfl, goesOn⟩)
  cases stepped with
  | untouched =>
      by_cases closing : ∃ serverKp, session.handler = .closing serverKp
      · exact .inr (.inl closing)
      · exact kept rfl (not_exists.mp closing)
  | accept position =>
      obtain ⟨delivery, isWritten, -⟩ := dismissed
      cases isWritten
  | greeted position isRead =>
      generalize greet options _ = greeting at dismissed kept ⊢
      cases greeting with
      | drop => exact .inl rfl
      | refuse returnCode => exact kept rfl (by rw [position]; nofun)
      | welcome deviceID serverKp => exact kept rfl (by rw [position]; nofun)
  | unreadable | refuse | welcomeFails => exact .inl rfl
  | welcome position sent =>
      have before : session.device.Dismissed := by
        refine Extends.dismissed_of_other (extends_of_write _ _ _ _ rfl rfl rfl)
          ?_ dismissed
        nofun
      obtain ⟨delivery, isWritten, -⟩ := before
      rw [(attended.of_unmade (by rw [position]; rfl)).2] at isWritten
      cases isWritten
  | answerPing position =>
      have before : session.device.Dismissed := by
        refine Extends.dismissed_of_other (extends_of_write _ _ _ _ rfl rfl rfl)
          ?_ dismissed
        nofun
      cases closed : session.device.conn.closed with
      | true => exact .inl ((NetConn.write_closed ..).trans closed)
      | false => exact .inr (.inr ⟨before, rfl, by rw [position]; nofun⟩)
  | violate position => exact .inr (.inl ⟨_, rfl⟩)
  | close position =>
      have made := attended.of_made (by rw [position]; rfl)
      exact .inl (closed_of_close made)
  | operate | closeBelow => exact absurd rfl (notProceed _ _ _)
  | receive _ position goesOn => exact kept rfl (by rw [position]; nofun)
  | _ position => exact kept rfl (by rw [position]; nofun)

end Sessions

end Server

end RmttGo
