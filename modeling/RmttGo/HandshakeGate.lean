import RmttGo.EventRuns
import RmttGo.ServerRecords
import RmttGo.SingleSession

/-!
# Nothing passes the handshake

Frames for a connection come from its handler, from `Push` and `Kick`, from a
takeover, the reaper and the shutdown.  All but the handler reach it through a
device connection that is made behind the CONNACK, so the first frame on every
connection is the CONNACK of its own handshake.
-/

namespace RmttGo

namespace Server

open Codec

namespace DeviceConnection

/-- The device connection has not been made. -/
def Unmade (dc : DeviceConnection) : Prop :=
  dc.deviceID = [] ∧ dc.active = false

def Unanswered (dc : DeviceConnection) : Prop :=
  dc.Unmade ∧ dc.conn.writes = []

/-- The connection was turned away, with at most a CONNACK. -/
def TurnedAway (dc : DeviceConnection) : Prop :=
  dc.Unmade ∧ ∀ delivery ∈ dc.conn.writes,
    dc.conn.writes = [delivery] ∧
      delivery.message.messageType = MessageType.connack

/-- The handshake of a connection that sent `inbound` has succeeded. -/
def Admitted (options : ServerOptions) (inbound : Bytes)
    (dc : DeviceConnection) : Prop :=
  ∃ packet rest serverKp ack later,
    readPacket (⟨inbound⟩ : Buffer) = .ok (packet, rest) ∧
      greet options packet = .welcome dc.deviceID serverKp ∧
      dc.conn.writes = ack :: later ∧
      ack.message = connackPacket ReturnCode.accepted (.ofInt serverKp) ∧
      ack.Complete ∧
      ∀ delivery ∈ later, delivery.message.messageType ≠ MessageType.connack

variable {dc after : DeviceConnection} {options : ServerOptions} {inbound : Bytes}

namespace Admitted

theorem extend (admitted : dc.Admitted options inbound)
    (sameDevice : after.deviceID = dc.deviceID)
    {added : List (Delivery ControlPacket.frame)}
    (writes : after.conn.writes = dc.conn.writes ++ added)
    (others : ∀ delivery ∈ added,
      delivery.message.messageType ≠ MessageType.connack) :
    after.Admitted options inbound := by
  obtain ⟨packet, rest, serverKp, ack, later, isRead, greeting, first, accepted,
    complete, noOther⟩ := admitted
  refine ⟨packet, rest, serverKp, ack, later ++ added, isRead, ?_, ?_, accepted,
    complete, ?_⟩
  · rw [sameDevice]
    exact greeting
  · rw [writes, first, List.cons_append]
  · intro delivery member
    rcases List.mem_append.mp member with earlier | new
    · exact noOther delivery earlier
    · exact others delivery new

theorem operated (admitted : dc.Admitted options inbound)
    (operated : dc.Operated after) : after.Admitted options inbound := by
  obtain ⟨sameDevice, added, writes, others⟩ := operated.adds
  exact admitted.extend sameDevice writes others

theorem write (admitted : dc.Admitted options inbound) (now : Nat)
    (outcome : TransportOutcome) {packet : ControlPacket}
    (other : packet.messageType ≠ MessageType.connack) :
    Admitted options inbound
      { dc with conn := (dc.conn.write now outcome packet).2 } := by
  refine admitted.extend rfl (dc.conn.write_writes now outcome packet) ?_
  intro delivery member
  rw [NetConn.accept_message (Option.mem_toList.mp member)]
  exact other

theorem closeBelow (admitted : dc.Admitted options inbound) :
    Admitted options inbound { dc with conn := dc.conn.close } :=
  admitted.extend rfl (List.append_nil _).symm nofun

end Admitted

end DeviceConnection

/-- How far the handshake has come. -/
inductive Gate
  | shut
  | waiting
  | welcoming (deviceID : Bytes) (serverKp : Int)
  | passed
  /-- The handler is done, from either side of the gate. -/
  | left

def Handler.gate : Handler → Gate
  | .unaccepted | .refusing _ => .shut
  | .accepted | .entered | .awaitingConnect => .waiting
  | .welcoming deviceID serverKp => .welcoming deviceID serverKp
  | .leaving | .returned => .left
  | _ => .passed

theorem Handler.passed_of_registered {handler : Handler}
    (registered : handler.stage = .registered) : handler.gate = .passed := by
  cases handler
  all_goals first | rfl | cases registered

/-- What the gate says about a connection that sent `inbound`, of which
`unread` is left. -/
def Gate.Holds (options : ServerOptions) (inbound : Bytes) (unread : Buffer)
    (dc : DeviceConnection) : Gate → Prop
  | .shut => dc.Unanswered
  | .waiting => dc.Unanswered ∧ unread = ⟨inbound⟩
  | .welcoming deviceID serverKp => dc.Unanswered ∧ ∃ packet rest,
      readPacket (⟨inbound⟩ : Buffer) = .ok (packet, rest) ∧
        greet options packet = .welcome deviceID serverKp
  | .passed => dc.Admitted options inbound
  | .left => dc.TurnedAway ∨ dc.Admitted options inbound

def Session.Gated (options : ServerOptions) (inbound : Bytes)
    (session : Session) : Prop :=
  session.handler.gate.Holds options inbound session.inbound session.device

section Gate

open DeviceConnection

variable {options : ServerOptions} {inbound : Bytes}

theorem Gate.Holds.operated {gate : Gate} {unread : Buffer}
    {dc after : DeviceConnection} (holds : gate.Holds options inbound unread dc)
    (operated : dc.Operated after) :
    gate.Holds options inbound unread after := by
  cases gate with
  | shut =>
      have same := operated.eq_of_inactive holds.1.2
      exact same ▸ holds
  | waiting =>
      have same := operated.eq_of_inactive holds.1.1.2
      exact same ▸ holds
  | welcoming deviceID serverKp =>
      have same := operated.eq_of_inactive holds.1.1.2
      exact same ▸ holds
  | passed => exact Admitted.operated holds operated
  | left =>
      rcases holds with turnedAway | admitted
      · have same := operated.eq_of_inactive turnedAway.1.2
        exact same ▸ .inl turnedAway
      · exact .inr (admitted.operated operated)

theorem Gate.Holds.closeBelow {gate : Gate} {unread : Buffer}
    {dc : DeviceConnection} (holds : gate.Holds options inbound unread dc) :
    gate.Holds options inbound unread { dc with conn := dc.conn.close } := by
  cases gate with
  | shut => exact holds
  | waiting => exact holds
  | welcoming deviceID serverKp => exact holds
  | passed => exact Admitted.closeBelow holds
  | left => exact holds.imp (fun turnedAway => turnedAway) Admitted.closeBelow

namespace DeviceConnection.Unanswered

variable {dc : DeviceConnection}

theorem turnAway (unanswered : dc.Unanswered) :
    TurnedAway { dc with conn := dc.conn.close } := by
  refine ⟨unanswered.1, ?_⟩
  intro delivery member
  rw [show dc.conn.close.writes = [] from unanswered.2] at member
  cases member

theorem write_writes (unanswered : dc.Unanswered) (now : Nat)
    (outcome : TransportOutcome) (returnCode : UInt8) (serverKp : UInt16) :
    ∀ delivery ∈ (dc.conn.write now outcome
        (connackPacket returnCode serverKp)).2.writes,
      (dc.conn.write now outcome (connackPacket returnCode serverKp)).2.writes =
          [delivery] ∧
        delivery.message = connackPacket returnCode serverKp := by
  rw [NetConn.write_writes, unanswered.2, List.nil_append]
  intro delivery member
  have accepted := Option.mem_toList.mp member
  exact ⟨by rw [accepted]; rfl, NetConn.accept_message accepted⟩

theorem refuse (unanswered : dc.Unanswered) (now : Nat)
    (outcome : TransportOutcome) (returnCode : UInt8) (serverKp : UInt16) :
    TurnedAway { dc with
      conn := (dc.conn.write now outcome
        (connackPacket returnCode serverKp)).2.close } := by
  refine ⟨unanswered.1, ?_⟩
  intro delivery member
  obtain ⟨only, connack⟩ :=
    unanswered.write_writes now outcome returnCode serverKp delivery member
  exact ⟨only, by rw [connack]; rfl⟩

/-- A device connection is made behind a CONNACK that was taken whole. -/
theorem welcome (unanswered : dc.Unanswered) {packet : ControlPacket}
    {rest : Buffer} {deviceID : Bytes} {serverKp : Int} {now : Nat}
    {outcome : TransportOutcome}
    (isRead : readPacket (⟨inbound⟩ : Buffer) = .ok (packet, rest))
    (greeting : greet options packet = .welcome deviceID serverKp)
    (sent : (dc.conn.write now outcome
      (connackPacket ReturnCode.accepted (.ofInt serverKp))).1 = true) :
    (newDeviceConnection (dc.conn.write now outcome
      (connackPacket ReturnCode.accepted (.ofInt serverKp))).2 deviceID).Admitted
        options inbound := by
  obtain ⟨ack, member, message, complete⟩ := NetConn.exists_complete_of_write sent
  obtain ⟨only, _⟩ := unanswered.write_writes now outcome _ _ ack member
  exact ⟨packet, rest, serverKp, ack, [], isRead, greeting, only, message,
    complete, nofun⟩

end DeviceConnection.Unanswered

theorem Session.Gated.greeted {session : Session} {packet : ControlPacket}
    {rest : Buffer} (unanswered : session.device.Unanswered)
    (isRead : readPacket (⟨inbound⟩ : Buffer) = .ok (packet, rest)) :
    (session.greeted (greet options packet)).Gated options inbound := by
  cases greeting : greet options packet with
  | drop => exact .inl unanswered.turnAway
  | refuse returnCode => exact unanswered
  | welcome deviceID serverKp => exact ⟨unanswered, packet, rest, isRead, greeting⟩

theorem Session.Gated.step {session after : Session} {conn : Nat}
    {event : ServerEvent} (gated : session.Gated options inbound)
    (stepped : SessionStep options conn event session after) :
    after.Gated options inbound ∨
      ∃ sent, event = .accept conn sent ∧ after.Gated options sent := by
  unfold Session.Gated at gated
  cases stepped with
  | untouched => exact .inl gated
  | accept position => exact .inr ⟨_, rfl, ⟨⟨⟨rfl, rfl⟩, rfl⟩, rfl⟩⟩
  | greeted position isRead =>
      rw [position] at gated
      rw [gated.2] at isRead
      exact .inl (Session.Gated.greeted gated.1 isRead)
  | unreadable _ position =>
      rw [position] at gated
      exact .inl (.inl gated.1.turnAway)
  | refuse position =>
      rw [position] at gated
      exact .inl (.inl (Unanswered.refuse gated _ _ _ _))
  | welcome position sent =>
      rw [position] at gated
      obtain ⟨unanswered, packet, rest, isRead, greeting⟩ := gated
      exact .inl (unanswered.welcome isRead greeting sent)
  | welcomeFails position =>
      rw [position] at gated
      exact .inl (.inl (gated.1.refuse _ _ _ _))
  | register position registers =>
      rw [position] at gated
      cases registers <;> exact .inl gated
  | receive _ position goesOn =>
      rw [position] at gated
      cases goesOn <;> exact .inl gated
  | answerPing position =>
      rw [position] at gated
      exact .inl (Admitted.write gated _ _ nofun)
  | violate position =>
      rw [position] at gated
      exact .inl (Admitted.write gated _ _ nofun)
  | close position =>
      rw [position] at gated
      exact .inl (Admitted.operated gated .close)
  | notify position =>
      rw [position] at gated
      exact .inl (.inr gated)
  | operate operated => exact .inl (gated.operated operated)
  | closeBelow => exact .inl gated.closeBelow
  | _ position =>
      rw [position] at gated
      exact .inl gated

theorem Session.Gated.deviceID_eq {session after : Session} {conn : Nat}
    {event : ServerEvent} (gated : session.Gated options inbound)
    (stepped : SessionStep options conn event session after)
    (named : session.device.deviceID ≠ []) :
    after.device.deviceID = session.device.deviceID := by
  unfold Session.Gated at gated
  cases stepped with
  | accept position =>
      rw [position] at gated
      exact absurd gated.1.1 named
  | welcome position sent =>
      rw [position] at gated
      exact absurd gated.1.1.1 named
  | greeted => exact Session.greeted_deviceID _ _
  | close => exact (Operated.adds .close).1
  | operate operated => exact operated.adds.1
  | _ => rfl

/-- The frames on a connection: none, a lone CONNACK, or those of an admitted
connection. -/
theorem Session.Gated.writes {session : Session}
    (gated : session.Gated options inbound) :
    session.device.TurnedAway ∨ session.device.Admitted options inbound := by
  have nothing : session.device.Unanswered → session.device.TurnedAway := by
    intro unanswered
    refine ⟨unanswered.1, ?_⟩
    rw [unanswered.2]
    nofun
  unfold Session.Gated at gated
  cases position : session.handler.gate with
  | shut =>
      rw [position] at gated
      exact .inl (nothing gated)
  | waiting =>
      rw [position] at gated
      exact .inl (nothing gated.1)
  | welcoming deviceID serverKp =>
      rw [position] at gated
      exact .inl (nothing gated.1)
  | passed =>
      rw [position] at gated
      exact .inr gated
  | left =>
      rw [position] at gated
      exact gated

theorem Session.Gated.admitted_of_passed {session : Session}
    (gated : session.Gated options inbound)
    (passed : session.handler.gate = .passed) :
    session.device.Admitted options inbound := by
  unfold Session.Gated at gated
  rw [passed] at gated
  exact gated

/-- A connection whose device is known has passed the gate. -/
theorem Session.Gated.admitted {session : Session}
    (gated : session.Gated options inbound)
    (named : session.device.deviceID ≠ []) :
    session.device.Admitted options inbound := by
  rcases gated.writes with turnedAway | admitted
  · exact absurd turnedAway.1.1 named
  · exact admitted

theorem Session.Gated.connack_first {session : Session}
    (gated : session.Gated options inbound)
    {first : Delivery ControlPacket.frame}
    {later : List (Delivery ControlPacket.frame)}
    (writes : session.device.conn.writes = first :: later) :
    first.message.messageType = MessageType.connack ∧
      ∀ delivery ∈ later, delivery.message.messageType ≠ MessageType.connack := by
  rcases gated.writes with ⟨_, lone⟩ |
    ⟨_, _, _, ack, _, _, _, admitted, message, _, others⟩
  · have isFirst : first ∈ session.device.conn.writes := by
      rw [writes]
      exact List.mem_cons_self
    obtain ⟨only, connack⟩ := lone first isFirst
    cases only.symm.trans writes
    exact ⟨connack, nofun⟩
  · cases admitted.symm.trans writes
    exact ⟨by rw [message]; rfl, others⟩

end Gate

section Guarantee

/-- The device that a credential stands for. -/
def ServerOptions.Authorises (options : ServerOptions)
    (credential deviceID : Bytes) : Prop :=
  match options.authenticator with
  | some authenticate => authenticate credential = (deviceID, true)
  | none => deviceID = credential

theorem welcome_of_greet {options : ServerOptions} {packet : ControlPacket}
    {deviceID : Bytes} {serverKp : Int}
    (greeting : greet options packet = .welcome deviceID serverKp) :
    ∃ connect, packet = .connect connect ∧ connect.magicNumber = 0x637a7175 ∧
      connect.protocolVersion = 1 ∧ deviceID ≠ [] ∧
      options.Authorises connect.credential deviceID := by
  cases packet
  case connect connect =>
    simp only [greet] at greeting
    split at greeting
    · cases greeting
    · rename_i magic
      split at greeting
      · cases greeting
      · rename_i version
        refine ⟨connect, rfl, not_not.mp magic, not_not.mp version, ?_⟩
        unfold ServerOptions.Authorises
        cases authenticator : options.authenticator with
        | none =>
            simp only [authenticator] at greeting
            split at greeting
            · cases greeting
            · split at greeting
              · cases greeting
              · rename_i nonempty
                cases greeting
                exact ⟨nonempty, rfl⟩
        | some authenticate =>
            simp only [authenticator] at greeting
            split at greeting
            · cases greeting
            · rename_i allowed
              split at greeting
              · cases greeting
              · rename_i nonempty
                cases greeting
                exact ⟨nonempty, Prod.ext rfl (by simpa using allowed)⟩
  all_goals cases greeting

theorem DeviceConnection.Admitted.named {options : ServerOptions}
    {inbound : Bytes} {dc : DeviceConnection}
    (admitted : dc.Admitted options inbound) : dc.deviceID ≠ [] := by
  obtain ⟨_, _, _, _, _, _, greeting, _⟩ := admitted
  obtain ⟨_, _, _, _, nonempty, _⟩ := welcome_of_greet greeting
  exact nonempty

namespace ServerSystem

variable {options : ServerOptions} {past : List ServerEvent}
  {s next : ServerSystem} {conn : Nat} {event : ServerEvent}

/-- The first packet on the connection was a CONNECT that stands for the
device, and the CONNACK that accepts it is the first frame on the wire. -/
def Handshaken (options : ServerOptions) (past : List ServerEvent)
    (s : ServerSystem) (conn : Nat) (deviceID : Bytes) : Prop :=
  ∃ inbound packet rest,
    .accept conn inbound ∈ past ∧
      readPacket (⟨inbound⟩ : Buffer) = .ok (.connect packet, rest) ∧
      packet.magicNumber = 0x637a7175 ∧ packet.protocolVersion = 1 ∧
      deviceID ≠ [] ∧ options.Authorises packet.credential deviceID ∧
      ∃ ack serverKp, (s.device conn).conn.writes.head? = some ack ∧
        ack.message = connackPacket ReturnCode.accepted serverKp ∧ ack.Complete

structure GatedByHandshake (options : ServerOptions) (past : List ServerEvent)
    (s : ServerSystem) : Prop where
  connack_first : ∀ conn first later,
    (s.device conn).conn.writes = first :: later →
      first.message.messageType = MessageType.connack ∧
        ∀ delivery ∈ later, delivery.message.messageType ≠ MessageType.connack
  stored : ∀ deviceID conn, s.store.get deviceID = some conn →
    s.Handshaken options past conn deviceID
  handled : ∀ conn deviceID payload, (conn, deviceID, payload) ∈ s.messages →
    s.Handshaken options past conn deviceID
  written : ∀ conn, ∀ delivery ∈ (s.device conn).conn.writes,
    delivery.message.messageType ≠ MessageType.connack →
      s.Handshaken options past conn (s.device conn).deviceID

structure Guarded (options : ServerOptions) (past : List ServerEvent)
    (s : ServerSystem) : Prop where
  gated : ∀ conn, ∃ inbound, (s.sessions conn).Gated options inbound ∧
    (s.handler conn = .unaccepted ∨ .accept conn inbound ∈ past)
  handled : ∀ conn deviceID payload, (conn, deviceID, payload) ∈ s.messages →
    (s.device conn).deviceID = deviceID ∧ deviceID ≠ []

theorem initial_guarded : initial.Guarded options [] where
  gated := fun _ => ⟨[], ⟨⟨rfl, rfl⟩, rfl⟩, .inl rfl⟩
  handled := nofun

theorem Guarded.gated_step (guarded : s.Guarded options past)
    (stepped : step options s event = some next) (conn : Nat) :
    ∃ inbound, (next.sessions conn).Gated options inbound ∧
      (next.handler conn = .unaccepted ∨
        .accept conn inbound ∈ past ++ [event]) := by
  obtain ⟨inbound, gated, accepted⟩ := guarded.gated conn
  have own := sessionStep_of_step stepped conn
  rcases gated.step own with after | ⟨sent, rfl, after⟩
  · rcases accepted with unaccepted | accepted
    · rcases own.unaccepted_or_accept unaccepted with still | ⟨sent, rfl, same⟩
      · exact ⟨inbound, after, .inl still⟩
      · refine ⟨sent, ?_, .inr (by simp)⟩
        rw [same]
        exact ⟨⟨⟨rfl, rfl⟩, rfl⟩, rfl⟩
    · exact ⟨inbound, after, .inr (List.mem_append_left _ accepted)⟩
  · exact ⟨sent, after, .inr (by simp)⟩

theorem Guarded.named_of_passed (guarded : s.Guarded options past)
    (passed : (s.handler conn).gate = .passed) :
    (s.device conn).deviceID ≠ [] := by
  obtain ⟨inbound, gated, _⟩ := guarded.gated conn
  exact (gated.admitted_of_passed passed).named

theorem Guarded.step (guarded : s.Guarded options past)
    (stepped : step options s event = some next) :
    next.Guarded options (past ++ [event]) := by
  have kept : ∀ conn deviceID, (s.device conn).deviceID = deviceID →
      deviceID ≠ [] → (next.device conn).deviceID = deviceID := by
    rintro conn _ rfl named
    obtain ⟨inbound, gated, _⟩ := guarded.gated conn
    exact gated.deviceID_eq (sessionStep_of_step stepped conn) named
  refine ⟨guarded.gated_step stepped, ?_⟩
  intro conn deviceID payload member
  rcases (records_of_step stepped).2.2 with
    same | ⟨reader, content, serverKp, _, looping, added⟩
  · rw [same] at member
    obtain ⟨sameDevice, named⟩ := guarded.handled conn deviceID payload member
    exact ⟨kept conn deviceID sameDevice named, named⟩
  · rw [added, List.mem_append, List.mem_singleton] at member
    rcases member with earlier | new
    · obtain ⟨sameDevice, named⟩ := guarded.handled conn deviceID payload earlier
      exact ⟨kept conn deviceID sameDevice named, named⟩
    · cases new
      have named : (s.device conn).deviceID ≠ [] := by
        apply guarded.named_of_passed
        rw [looping]
        rfl
      exact ⟨kept conn _ rfl named, named⟩

theorem Guarded.handshaken (guarded : s.Guarded options past)
    (named : (s.device conn).deviceID ≠ []) :
    s.Handshaken options past conn (s.device conn).deviceID := by
  obtain ⟨inbound, gated, accepted⟩ := guarded.gated conn
  obtain ⟨packet, rest, serverKp, ack, later, isRead, greeting, writes, message,
    complete, _⟩ := gated.admitted named
  obtain ⟨connect, rfl, magic, version, nonempty, authorised⟩ :=
    welcome_of_greet greeting
  have entered : .accept conn inbound ∈ past := by
    rcases accepted with unaccepted | accepted
    · unfold Session.Gated at gated
      rw [show (s.sessions conn).handler = .unaccepted from unaccepted] at gated
      exact absurd gated.1.1 named
    · exact accepted
  refine ⟨inbound, connect, rest, entered, isRead, magic, version, nonempty,
    authorised, ack, _, ?_, message, complete⟩
  show (s.sessions conn).device.conn.writes.head? = some ack
  rw [writes]
  rfl

theorem gated_by_handshake {events : List ServerEvent}
    (executed : EventRun.run (step options) initial events = some s) :
    GatedByHandshake options events s := by
  have guarded : s.Guarded options events :=
    EventRun.invariant_of_history (Guarded options)
      (fun guarded stepped => guarded.step stepped) initial_guarded executed
  have sound : s.Sound :=
    EventRun.invariant Sound (fun sound => sound.step) initial_sound executed
  constructor
  · intro conn first later writes
    obtain ⟨inbound, gated, _⟩ := guarded.gated conn
    exact gated.connack_first writes
  · intro deviceID conn isStored
    have sameDevice : (s.device conn).deviceID = deviceID :=
      sound.single.stored_key isStored
    rw [← sameDevice]
    apply guarded.handshaken
    apply guarded.named_of_passed
    exact Handler.passed_of_registered (sound.single.stored_registered isStored)
  · intro conn deviceID payload member
    obtain ⟨rfl, named⟩ := guarded.handled conn deviceID payload member
    exact guarded.handshaken named
  · intro conn delivery member other
    obtain ⟨inbound, gated, _⟩ := guarded.gated conn
    apply guarded.handshaken
    rcases gated.writes with ⟨_, lone⟩ | admitted
    · exact absurd (lone delivery member).2 other
    · exact admitted.named

/-- A device that has just registered, in the server without an
authenticator. -/
theorem gated_by_handshake_registered :
    ∃ s, EventRun.run (step newServerOptions) initial (handshake [100] 0) =
        some s ∧ s.store.get [100] = some 0 ∧
      s.Handshaken newServerOptions (handshake [100] 0) 0 [100] := by
  have outcome : (EventRun.run (step newServerOptions) initial
      (handshake [100] 0)).map (fun s => s.store.get [100]) =
        some (some 0) := by
    decide +kernel
  obtain ⟨s, executed, isStored⟩ := Option.map_eq_some_iff.mp outcome
  exact ⟨s, executed, isStored,
    (gated_by_handshake executed).stored [100] 0 isStored⟩

end ServerSystem

end Guarantee

end Server

end RmttGo
