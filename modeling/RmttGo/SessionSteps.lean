import RmttGo.SessionRegistry

/-!
# What a server step does to one connection

Handlers, kicks, takeovers, reapers and the shutdown all take their steps in
`ServerSystem.step`.  Seen from a single connection there are far fewer things
that can happen: its own handler goes on, or somebody operates on its device
connection.
-/

namespace RmttGo

namespace Server

open Codec

/-- The operations that other goroutines run on a device connection. -/
inductive DeviceConnection.Operated (dc : DeviceConnection) :
    DeviceConnection → Prop
  | write (payload : Bytes) (now : Nat) (outcome : TransportOutcome) :
      Operated dc (dc.write payload now outcome).2
  | sendDisconnect (reason : UInt8) (now : Nat) (outcome : TransportOutcome) :
      Operated dc (dc.sendDisconnect reason now outcome)
  | close : Operated dc dc.close

namespace DeviceConnection

variable {dc after : DeviceConnection}

theorem Operated.eq_of_inactive (operated : dc.Operated after)
    (inactive : dc.active = false) : after = dc := by
  cases operated with
  | write payload now outcome => rw [write_of_inactive now outcome inactive]
  | sendDisconnect reason now outcome =>
      exact sendDisconnect_of_inactive now outcome inactive reason
  | close =>
      unfold DeviceConnection.close
      rw [inactive]
      rfl

/-- Other goroutines only add frames that are not a CONNACK. -/
theorem Operated.adds (operated : dc.Operated after) :
    after.deviceID = dc.deviceID ∧ ∃ added,
      after.conn.writes = dc.conn.writes ++ added ∧
        ∀ delivery ∈ added,
          delivery.message.messageType ≠ MessageType.connack := by
  cases active : dc.active with
  | false =>
      rw [operated.eq_of_inactive active]
      exact ⟨rfl, [], (List.append_nil _).symm, nofun⟩
  | true =>
      cases operated with
      | write payload now outcome =>
          rw [write_of_active now outcome active]
          refine ⟨rfl, _, writeBounded_writes .., ?_⟩
          intro delivery member
          rw [NetConn.accept_message (Option.mem_toList.mp member)]
          exact nofun
      | sendDisconnect reason now outcome =>
          rw [sendDisconnect_of_active now outcome active]
          refine ⟨rfl, _, writeBounded_writes .., ?_⟩
          intro delivery member
          rw [NetConn.accept_message (Option.mem_toList.mp member)]
          exact nofun
      | close =>
          unfold DeviceConnection.close
          rw [active]
          exact ⟨rfl, [], (List.append_nil _).symm, nofun⟩

end DeviceConnection

namespace Session

/-- `conn.Close()` on the connection below, and the handler is done. -/
def abandon (session : Session) (below : Conn) : Session :=
  { session with
    device := { session.device with conn := below.close }
    handler := .leaving }

def greeted (session : Session) : Greeting → Session
  | .drop => session.abandon session.device.conn
  | .refuse returnCode => { session with handler := .refusing returnCode }
  | .welcome deviceID serverKp =>
      { session with handler := .welcoming deviceID serverKp }

end Session

/-- The connection is in `s.conns`. -/
def Handler.tracked : Handler → Bool
  | .unaccepted | .accepted | .entered | .returned => false
  | _ => true

/-- Where `handleDeviceConnection` can go from its loop. -/
inductive Handler.GoesOn (serverKp : Int) : Handler → Prop
  | looping : GoesOn serverKp (.looping serverKp)
  | answering : GoesOn serverKp (.answering serverKp)
  | violating : GoesOn serverKp (.violating serverKp)
  | closing : GoesOn serverKp (.closing serverKp)

/-- Where `handleConnection` can go from `Register`. -/
inductive Handler.Registers (serverKp : Int) : Handler → Prop
  | alone : Registers serverKp (.establishing serverKp)
  | succeeding (prev : Nat) : Registers serverKp (.takingOver prev serverKp)

/-- The connection whose handler takes the step. -/
def ServerEvent.actor : ServerEvent → Option Nat
  | .accept conn _ | .enter conn | .track conn | .read conn | .readFails conn
  | .greet conn _ _ | .register conn | .takeOver conn _ | .establish conn
  | .answer conn _ _ | .close conn | .remove conn | .notify conn
  | .leave conn => some conn
  | .push _ _ _ | .kick _ _ _ | .reap _ _ | .shutdown _ | .proceed _ _ _ => none

inductive SessionStep (options : ServerOptions) (conn : Nat) :
    ServerEvent → Session → Session → Prop
  | untouched {event : ServerEvent} {session : Session}
      (notOwn : event.actor ≠ some conn) :
      SessionStep options conn event session session
  | accept {inbound : Bytes} {session : Session}
      (position : session.handler = .unaccepted) :
      SessionStep options conn (.accept conn inbound) session
        ⟨⟨inbound⟩, ⟨.fresh, [], false⟩, .accepted⟩
  | enter {session : Session} (position : session.handler = .accepted) :
      SessionStep options conn (.enter conn) session
        { session with handler := .entered }
  | track {session : Session} (position : session.handler = .entered) :
      SessionStep options conn (.track conn) session
        { session with handler := .awaitingConnect }
  | greeted {session : Session} {packet : ControlPacket} {inbound : Buffer}
      (position : session.handler = .awaitingConnect)
      (isRead : readPacket session.inbound = .ok (packet, inbound)) :
      SessionStep options conn (.read conn) session
        ({ session with inbound }.greeted (greet options packet))
  | unreadable {event : ServerEvent} {session : Session}
      (isRead : event = .read conn ∨ event = .readFails conn)
      (position : session.handler = .awaitingConnect) :
      SessionStep options conn event session (session.abandon session.device.conn)
  | refuse {session : Session} {returnCode : UInt8} {now : Nat}
      {outcome : TransportOutcome}
      (position : session.handler = .refusing returnCode) :
      SessionStep options conn (.greet conn now outcome) session
        (session.abandon (session.device.conn.write now outcome
          (connackPacket returnCode 0)).2)
  | welcome {session : Session} {deviceID : Bytes} {serverKp : Int} {now : Nat}
      {outcome : TransportOutcome}
      (position : session.handler = .welcoming deviceID serverKp)
      (sent : (session.device.conn.write now outcome
        (connackPacket ReturnCode.accepted (.ofInt serverKp))).1 = true) :
      SessionStep options conn (.greet conn now outcome) session
        { session with
          device := newDeviceConnection (session.device.conn.write now outcome
            (connackPacket ReturnCode.accepted (.ofInt serverKp))).2 deviceID
          handler := .registering serverKp }
  | welcomeFails {session : Session} {deviceID : Bytes} {serverKp : Int}
      {now : Nat} {outcome : TransportOutcome}
      (position : session.handler = .welcoming deviceID serverKp) :
      SessionStep options conn (.greet conn now outcome) session
        (session.abandon (session.device.conn.write now outcome
          (connackPacket ReturnCode.accepted (.ofInt serverKp))).2)
  | register {session : Session} {serverKp : Int} {handler : Handler}
      (position : session.handler = .registering serverKp)
      (registers : handler.Registers serverKp) :
      SessionStep options conn (.register conn) session { session with handler }
  | takeOver {session : Session} {prev task : Nat} {serverKp : Int}
      (position : session.handler = .takingOver prev serverKp) :
      SessionStep options conn (.takeOver conn task) session
        { session with handler := .establishing serverKp }
  | establish {session : Session} {serverKp : Int}
      (position : session.handler = .establishing serverKp) :
      SessionStep options conn (.establish conn) session
        { session with handler := .looping serverKp }
  | receive {event : ServerEvent} {session : Session} {serverKp : Int}
      {inbound : Buffer} {handler : Handler}
      (isRead : event = .read conn ∨ event = .readFails conn)
      (position : session.handler = .looping serverKp)
      (goesOn : handler.GoesOn serverKp) :
      SessionStep options conn event session { session with inbound, handler }
  | answerPing {session : Session} {serverKp : Int} {now : Nat}
      {outcome : TransportOutcome}
      (position : session.handler = .answering serverKp) :
      SessionStep options conn (.answer conn now outcome) session
        { session with
          device := session.device.answerPing now outcome
          handler := .looping serverKp }
  | violate {session : Session} {serverKp : Int} {now : Nat}
      {outcome : TransportOutcome}
      (position : session.handler = .violating serverKp) :
      SessionStep options conn (.answer conn now outcome) session
        { session with
          device := { session.device with
            conn := (session.device.conn.write now outcome
              (disconnectPacket Reason.protocolViolation)).2 }
          handler := .closing serverKp }
  | close {session : Session} {serverKp : Int}
      (position : session.handler = .closing serverKp) :
      SessionStep options conn (.close conn) session
        { session with device := session.device.close, handler := .removing }
  | remove {session : Session} (position : session.handler = .removing) :
      SessionStep options conn (.remove conn) session
        { session with handler := .notifying }
  | notify {session : Session} (position : session.handler = .notifying) :
      SessionStep options conn (.notify conn) session
        { session with handler := .leaving }
  | leave {session : Session} (position : session.handler = .leaving) :
      SessionStep options conn (.leave conn) session
        { session with handler := .returned }
  | operate {task now : Nat} {outcome : TransportOutcome} {session : Session}
      {device : DeviceConnection} (operated : session.device.Operated device) :
      SessionStep options conn (.proceed task now outcome) session
        { session with device }
  | closeBelow {task now : Nat} {outcome : TransportOutcome} {session : Session}
      (tracked : session.handler.tracked = true) :
      SessionStep options conn (.proceed task now outcome) session
        { session with
          device := { session.device with conn := session.device.conn.close } }

theorem Session.greeted_deviceID (session : Session) (greeting : Greeting) :
    (session.greeted greeting).device.deviceID = session.device.deviceID := by
  cases greeting <;> rfl

theorem SessionStep.unaccepted_or_accept {options : ServerOptions} {conn : Nat}
    {event : ServerEvent} {session after : Session}
    (stepped : SessionStep options conn event session after)
    (unaccepted : session.handler = .unaccepted) :
    after.handler = .unaccepted ∨
      ∃ inbound, event = .accept conn inbound ∧
        after = ⟨⟨inbound⟩, ⟨.fresh, [], false⟩, .accepted⟩ := by
  cases stepped
  case untouched | operate | closeBelow => exact .inl unaccepted
  case accept => exact .inr ⟨_, rfl, rfl⟩
  all_goals cases unaccepted.symm.trans ‹session.handler = _›

theorem SessionStep.eq_of_actor {options : ServerOptions} {conn actor : Nat}
    {event : ServerEvent} {session after : Session}
    (stepped : SessionStep options conn event session after)
    (acts : event.actor = some actor) (other : actor ≠ conn) :
    after = session := by
  cases stepped
  case untouched => rfl
  case unreadable | receive =>
    rename_i isRead _
    rcases isRead with rfl | rfl <;> exact absurd (Option.some.inj acts).symm other
  case operate | closeBelow => cases acts
  all_goals exact absurd (Option.some.inj acts).symm other

namespace ServerSystem

variable {options : ServerOptions} {s next : ServerSystem} {conn task : Nat}
  {event : ServerEvent}

section Sessions

@[simp]
theorem sessions_setSession (session : Session) (other : Nat) :
    (s.setSession conn session).sessions other =
      if other = conn then session else s.sessions other :=
  Function.update_apply ..

/-- A step that sets one session is a step of that connection only. -/
theorem sessionStep_setSession {session : Session}
    (own : SessionStep options conn event (s.sessions conn) session)
    (acts : ∀ other, event.actor = some other → other = conn) (other : Nat) :
    SessionStep options other event (s.sessions other)
      ((s.setSession conn session).sessions other) := by
  rw [sessions_setSession]
  split_ifs with same
  · rw [same]
    exact own
  · exact .untouched fun actor => same (acts other actor)

theorem sessionStep_own {session : Session}
    (own : SessionStep options conn event (s.sessions conn) session)
    (actor : event.actor = some conn) (other : Nat) :
    SessionStep options other event (s.sessions other)
      ((s.setSession conn session).sessions other) := by
  apply sessionStep_setSession own
  intro acting isActor
  exact Option.some.inj (isActor.symm.trans actor)

theorem sessionStep_of_spawn {position : Task}
    (spawned : s.spawn task position = some next) (nobody : event.actor = none)
    (other : Nat) :
    SessionStep options other event (s.sessions other) (next.sessions other) := by
  obtain ⟨_, ⟨⟩⟩ := Option.ite_none_right_eq_some.mp spawned
  apply SessionStep.untouched
  rw [nobody]
  nofun

theorem sessionStep_closeAll {now : Nat} {outcome : TransportOutcome}
    (other : Nat) :
    SessionStep options other (.proceed task now outcome) (s.sessions other)
      (s.closeAll.sessions other) := by
  simp only [closeAll]
  split
  case h_5 untracked =>
    apply SessionStep.closeBelow
    cases position : (s.sessions other).handler <;> simp_all [Handler.tracked]
  all_goals exact .untouched (Option.some_ne_none other).symm

theorem sessionStep_of_proceed {now : Nat} {outcome : TransportOutcome}
    (proceeded : s.proceed task now outcome = some next) (other : Nat) :
    SessionStep options other (.proceed task now outcome) (s.sessions other)
      (next.sessions other) := by
  unfold proceed at proceeded
  split at proceeded
  all_goals try split at proceeded
  all_goals cases proceeded
  all_goals
    first
      | exact .untouched nofun
      | exact sessionStep_setSession (.operate (.write _ _ _)) nofun other
      | exact sessionStep_setSession (.operate (.sendDisconnect _ _ _)) nofun other
      | exact sessionStep_setSession (.operate .close) nofun other
      | exact sessionStep_closeAll other

theorem greeted_setSession (session : Session) (greeting : Greeting) :
    (s.setSession conn session).greeted conn greeting =
      s.setSession conn (session.greeted greeting) := by
  cases greeting <;>
    simp [ServerSystem.greeted, Session.greeted, abandon, Session.abandon,
      setHandler, setSession, device]

theorem received_setSession (session : Session) (serverKp : Int)
    (packet : ControlPacket) (looping : session.handler = .looping serverKp) :
    ∃ handler : Handler, handler.GoesOn serverKp ∧
      (received options (s.setSession conn session) conn serverKp
          packet).sessions =
        (s.setSession conn { session with handler }).sessions := by
  unfold received
  split
  · refine ⟨_, .looping, ?_⟩
    rw [← looping]
    split <;> rfl
  · exact ⟨_, .answering, by simp [setHandler, setSession]⟩
  · exact ⟨_, .closing, by simp [setHandler, setSession]⟩
  · exact ⟨_, .violating, by simp [setHandler, setSession]⟩

theorem sessionStep_of_read (stepped : step options s (.read conn) = some next)
    (other : Nat) :
    SessionStep options other (.read conn) (s.sessions other)
      (next.sessions other) := by
  simp only [step] at stepped
  split at stepped
  · cases stepped
  · split at stepped
    case h_1 packet inbound position isRead =>
      cases stepped
      rw [greeted_setSession]
      exact sessionStep_own (.greeted position isRead) rfl other
    case h_2 position _ =>
      cases stepped
      exact sessionStep_own (.unreadable (.inl rfl) position) rfl other
    case h_3 serverKp packet inbound position _ =>
      cases stepped
      obtain ⟨handler, goesOn, sessions⟩ := @received_setSession options s conn
        { s.sessions conn with inbound } serverKp packet position
      rw [sessions]
      exact sessionStep_own (.receive (.inl rfl) position goesOn) rfl other
    case h_4 serverKp _ position _ =>
      cases stepped
      exact sessionStep_own (.receive (.inl rfl) position .violating) rfl other
    case h_5 serverKp _ _ position _ =>
      cases stepped
      exact sessionStep_own (.receive (.inl rfl) position .closing) rfl other
    case h_6 => cases stepped

theorem sessionStep_of_greet {now : Nat} {outcome : TransportOutcome}
    (stepped : step options s (.greet conn now outcome) = some next)
    (other : Nat) :
    SessionStep options other (.greet conn now outcome) (s.sessions other)
      (next.sessions other) := by
  simp only [step] at stepped
  split at stepped
  case h_1 returnCode position =>
    cases stepped
    exact sessionStep_own (.refuse position) rfl other
  case h_2 deviceID serverKp position =>
    split at stepped
    · rename_i sent
      cases stepped
      exact sessionStep_own (.welcome position sent) rfl other
    · cases stepped
      exact sessionStep_own (.welcomeFails position) rfl other
  case h_3 => cases stepped

theorem sessionStep_of_step (stepped : step options s event = some next)
    (other : Nat) :
    SessionStep options other event (s.sessions other) (next.sessions other) := by
  cases event with
  | accept conn inbound =>
      obtain ⟨⟨_, position⟩, ⟨⟩⟩ := Option.ite_none_right_eq_some.mp stepped
      exact sessionStep_own (.accept position) rfl other
  | enter conn =>
      obtain ⟨position, ⟨⟩⟩ := Option.ite_none_right_eq_some.mp stepped
      exact sessionStep_own (.enter position) rfl other
  | track conn =>
      obtain ⟨position, ⟨⟩⟩ := Option.ite_none_right_eq_some.mp stepped
      exact sessionStep_own (.track position) rfl other
  | read conn => exact sessionStep_of_read stepped other
  | readFails conn =>
      simp only [step] at stepped
      split at stepped
      case h_1 position =>
        cases stepped
        exact sessionStep_own (.unreadable (.inr rfl) position) rfl other
      case h_2 serverKp position =>
        cases stepped
        exact sessionStep_own (.receive (.inr rfl) position .closing) rfl other
      case h_3 => cases stepped
  | greet conn now outcome => exact sessionStep_of_greet stepped other
  | register conn =>
      simp only [step] at stepped
      split at stepped
      case h_1 serverKp position =>
        cases stepped
        apply sessionStep_own (.register position _) rfl other
        split
        · exact .succeeding _
        · exact .alone
      case h_2 => cases stepped
  | takeOver conn task =>
      simp only [step] at stepped
      split at stepped
      case h_1 prev serverKp position =>
        obtain ⟨_, ⟨⟩⟩ := Option.ite_none_right_eq_some.mp stepped
        exact sessionStep_own (.takeOver position) rfl other
      case h_2 => cases stepped
  | establish conn =>
      simp only [step] at stepped
      split at stepped
      case h_1 serverKp position =>
        cases stepped
        exact sessionStep_own (.establish position) rfl other
      case h_2 => cases stepped
  | answer conn now outcome =>
      simp only [step] at stepped
      split at stepped
      case h_1 serverKp position =>
        cases stepped
        exact sessionStep_own (.answerPing position) rfl other
      case h_2 serverKp position =>
        cases stepped
        exact sessionStep_own (.violate position) rfl other
      case h_3 => cases stepped
  | close conn =>
      simp only [step] at stepped
      split at stepped
      case h_1 serverKp position =>
        cases stepped
        exact sessionStep_own (.close position) rfl other
      case h_2 => cases stepped
  | remove conn =>
      obtain ⟨position, ⟨⟩⟩ := Option.ite_none_right_eq_some.mp stepped
      exact sessionStep_own (.remove position) rfl other
  | notify conn =>
      obtain ⟨position, ⟨⟩⟩ := Option.ite_none_right_eq_some.mp stepped
      exact sessionStep_own (.notify position) rfl other
  | leave conn =>
      obtain ⟨position, ⟨⟩⟩ := Option.ite_none_right_eq_some.mp stepped
      exact sessionStep_own (.leave position) rfl other
  | push task deviceID payload =>
      simp only [step] at stepped
      split at stepped
      · exact sessionStep_of_spawn stepped rfl other
      · exact sessionStep_of_spawn stepped rfl other
  | kick task deviceID reason =>
      simp only [step] at stepped
      split at stepped
      · exact sessionStep_of_spawn stepped rfl other
      · exact sessionStep_of_spawn stepped rfl other
  | reap task conn =>
      simp only [step] at stepped
      split at stepped
      case h_5 => cases stepped
      all_goals
        obtain ⟨_, spawned⟩ := Option.ite_none_right_eq_some.mp stepped
        exact sessionStep_of_spawn spawned rfl other
  | shutdown task =>
      exact @sessionStep_of_spawn options { s with listening := false } next task
        _ _ stepped rfl other
  | proceed task now outcome => exact sessionStep_of_proceed stepped other

end Sessions

end ServerSystem

end Server

end RmttGo
