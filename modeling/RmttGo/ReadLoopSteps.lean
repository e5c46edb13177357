import RmttGo.ReadLoopProtocol
import RmttGo.SingleSession

/-!
# The steps of the server's read loop

The handler of one connection beside all the other goroutines of the server.  A
record kept beside the state has what the steps of the handler change.  Each of
its steps has the effects it was about to have, and the steps of the others
leave it where it is.
-/

namespace RmttGo

namespace Server

open Codec

namespace ServerSystem

section Record

def Stored (s : ServerSystem) (conn : Nat) : Prop :=
  s.store.get (s.device conn).deviceID = some conn

instance (s : ServerSystem) (conn : Nat) : Decidable (s.Stored conn) :=
  inferInstanceAs (Decidable (_ = _))

/-- How often the connection is in the store. -/
def entries (s : ServerSystem) (conn : Nat) : Nat :=
  if s.Stored conn then 1 else 0

/-- What a step of the handler has changed. -/
def effects (before after : ServerSystem) (conn : Nat) : List Effect :=
  (after.messages.drop before.messages.length).map
      (fun message => .start message.2.1 message.2.2) ++
    ((after.device conn).conn.writes.drop
      (before.device conn).conn.writes.length).map
        (fun delivery => .write delivery.bytes) ++
    (if (before.device conn).conn.closed = false ∧
      (after.device conn).conn.closed = true then [.close] else []) ++
    List.replicate (before.entries conn - after.entries conn) .remove ++
    (after.events.drop before.events.length).map .report

/-- The record of one handler: its effects, the number of its steps, and how
often another goroutine took its connection from the store. -/
structure LoopLog where
  effects : List Effect
  steps : Nat
  lost : Nat
  deriving DecidableEq, Repr

def noteLoop (conn : Nat) (before : ServerSystem) (event : ServerEvent)
    (after : ServerSystem) (log : LoopLog) : LoopLog :=
  if event.actor = some conn then
    { log with
      effects := log.effects ++ before.effects after conn
      steps := log.steps + 1 }
  else
    { log with lost := log.lost + (before.entries conn - after.entries conn) }

variable {before after : ServerSystem} {conn : Nat}

theorem effects_eq {messages : List (Nat × Bytes × Bytes)}
    {deliveries : List (Delivery ControlPacket.frame)}
    {events : List LifecycleEvent}
    (addsMessages : after.messages = before.messages ++ messages)
    (addsDeliveries : (after.device conn).conn.writes =
      (before.device conn).conn.writes ++ deliveries)
    (addsEvents : after.events = before.events ++ events) :
    before.effects after conn =
      messages.map (fun message => .start message.2.1 message.2.2) ++
        deliveries.map (fun delivery => .write delivery.bytes) ++
        (if (before.device conn).conn.closed = false ∧
          (after.device conn).conn.closed = true then [.close] else []) ++
        List.replicate (before.entries conn - after.entries conn) .remove ++
        events.map .report := by
  rw [effects, addsMessages, addsDeliveries, addsEvents]
  simp only [List.drop_left]

/-- The steps the read loop is promised: its reads end in end of stream, its
writes succeed, and nobody else closes its connection. -/
def Undisturbed (conn : Nat) (s : ServerSystem) : ServerEvent → Prop
  | .readFails reader => reader ≠ conn
  | .answer writer now outcome => writer = conn →
      outcome = .whole ∧ ¬ (s.device conn).conn.Expired now
  | .proceed task now outcome => ∀ next ∈ s.proceed task now outcome,
      (next.device conn).conn.closed = true → (s.device conn).conn.closed = true
  | _ => True

instance decidableUndisturbed (conn : Nat) (s : ServerSystem) :
    DecidablePred (Undisturbed conn s)
  | .readFails _ => inferInstanceAs (Decidable (_ ≠ _))
  | .answer .. => inferInstanceAs (Decidable (_ → _ ∧ ¬ _))
  | .proceed task now outcome =>
      inferInstanceAs (Decidable (∀ next ∈ s.proceed task now outcome, _ → _))
  | .accept .. | .enter _ | .track _ | .read _ | .greet .. | .register _
  | .takeOver .. | .establish _ | .close _ | .remove _ | .notify _ | .leave _
  | .push .. | .kick .. | .reap .. | .shutdown _ => .isTrue trivial

end Record

section Steps

variable {options : ServerOptions} {s next : ServerSystem} {conn : Nat}
  {event : ServerEvent}

theorem entries_congr (store : next.store = s.store)
    (device : (next.device conn).deviceID = (s.device conn).deviceID) :
    next.entries conn = s.entries conn := by
  have same : next.Stored conn ↔ s.Stored conn := by
    unfold Stored
    rw [store, device]
  simp only [entries, same]

theorem effects_setSession {session : Session}
    {deliveries : List (Delivery ControlPacket.frame)}
    (device : session.device.deviceID = (s.device conn).deviceID)
    (adds : session.device.conn.writes =
      (s.device conn).conn.writes ++ deliveries) :
    s.effects (s.setSession conn session) conn =
      deliveries.map (fun delivery => .write delivery.bytes) ++
        if (s.device conn).conn.closed = false ∧
          session.device.conn.closed = true then [.close] else [] := by
  have after : (s.setSession conn session).device conn = session.device := by
    simp
  have sameEntries : (s.setSession conn session).entries conn = s.entries conn :=
    entries_congr rfl (by rw [after, device])
  have messages : (s.setSession conn session).messages = s.messages ++ [] :=
    (List.append_nil _).symm
  have events : (s.setSession conn session).events = s.events ++ [] :=
    (List.append_nil _).symm
  rw [effects_eq messages (after ▸ adds) events, sameEntries, after]
  simp

/-- A step of the handler has the effects it was about to have, and counts. -/
structure Advances (options : ServerOptions) (conn : Nat)
    (s next : ServerSystem) : Prop where
  device : (next.device conn).deviceID = (s.device conn).deviceID
  pending : pending options conn (s.sessions conn) (s.entries conn) =
    s.effects next conn ++
      pending options conn (next.sessions conn) (next.entries conn)
  remaining : (next.sessions conn).remaining < (s.sessions conn).remaining
  served : (next.sessions conn).Served

theorem advances_setSession {session : Session}
    {deliveries : List (Delivery ControlPacket.frame)}
    (device : session.device.deviceID = (s.device conn).deviceID)
    (adds : session.device.conn.writes =
      (s.device conn).conn.writes ++ deliveries)
    (left : Server.pending options conn (s.sessions conn) (s.entries conn) =
      deliveries.map (fun delivery => .write delivery.bytes) ++
        (if (s.device conn).conn.closed = false ∧
          session.device.conn.closed = true then [.close] else []) ++
        Server.pending options conn session (s.entries conn))
    (remaining : session.remaining < (s.sessions conn).remaining)
    (served : session.Served) :
    s.Advances options conn (s.setSession conn session) := by
  have after : (s.setSession conn session).sessions conn = session := by simp
  have sameEntries : (s.setSession conn session).entries conn = s.entries conn :=
    entries_congr rfl (by simp [device])
  constructor
  · simp [device]
  · rw [effects_setSession device adds, sameEntries, after, left]
  · rwa [after]
  · rwa [after]

/-- The handler writes a packet, whole, and goes on. -/
theorem advances_write {now : Nat} {packet : ControlPacket} {handler : Handler}
    (isOpen : (s.device conn).conn.closed = false)
    (inTime : ¬ (s.device conn).conn.Expired now)
    (left : Server.pending options conn (s.sessions conn) (s.entries conn) =
      .write packet.frame :: Server.pending options conn
        { s.sessions conn with handler } (s.entries conn))
    (remaining : { s.sessions conn with handler }.remaining <
      (s.sessions conn).remaining)
    (served : { s.sessions conn with handler }.Served) :
    s.Advances options conn (s.setSession conn { s.sessions conn with
      device := { s.device conn with
        conn := ((s.device conn).conn.write now .whole packet).2 }
      handler }) := by
  have writes := (s.device conn).conn.write_writes now .whole packet
  rw [NetConn.accept_whole isOpen inTime] at writes
  have closed := (s.device conn).conn.write_closed now .whole packet
  refine advances_setSession ?_ writes ?_ ?_ ?_
  · rfl
  · rw [closed, left]
    simp only [isOpen, Delivery.bytes, List.take_length, Option.toList_some,
      List.map_cons, List.map_nil, Bool.false_eq_true, and_false, if_false,
      List.append_nil, List.cons_append, List.nil_append]
    rfl
  · exact remaining
  · unfold Session.Served at served ⊢
    dsimp only at served ⊢
    rw [closed]
    exact served

theorem advances_answer (served : (s.sessions conn).Served) {now : Nat}
    {outcome : TransportOutcome}
    (undisturbed : Undisturbed conn s (.answer conn now outcome))
    (stepped : step options s (.answer conn now outcome) = some next) :
    s.Advances options conn next := by
  obtain ⟨rfl, inTime⟩ := undisturbed rfl
  simp only [step] at stepped
  split at stepped
  case h_3 => cases stepped
  all_goals
    rename_i serverKp position
    cases stepped
    have handler : (s.sessions conn).handler = _ := position
    have isOpen := served.of_handler handler
    apply advances_write isOpen.2 inTime
    · simp [Server.pending, handler]
    · simp [Session.remaining, handler]
    · exact isOpen

theorem advances_close (served : (s.sessions conn).Served)
    (stepped : step options s (.close conn) = some next) :
    s.Advances options conn next := by
  simp only [step] at stepped
  split at stepped
  case h_1 serverKp position =>
    cases stepped
    have handler : (s.sessions conn).handler = .closing serverKp := position
    obtain ⟨active, isOpen⟩ := served.of_handler handler
    have closed : (s.device conn).close =
        { s.device conn with active := false, conn := (s.device conn).conn.close } :=
      if_pos active
    have isOpen : (s.device conn).conn.closed = false := isOpen
    rw [closed]
    refine advances_setSession ?_ (List.append_nil _).symm ?_ ?_ ?_
    · rfl
    · simp [Server.pending, handler, isOpen, NetConn.close, closingEffects]
      rfl
    · simp [Session.remaining, handler]
    · rfl
  case h_2 => cases stepped

/-- The handler goes on without touching its connection. -/
theorem advances_goOn {handler : Handler} (events : List LifecycleEvent)
    (entries : Nat) (after : next.sessions conn = { s.sessions conn with handler })
    (messages : next.messages = s.messages)
    (addsEvents : next.events = s.events ++ events)
    (stored : next.entries conn = entries)
    (left : Server.pending options conn (s.sessions conn) (s.entries conn) =
      List.replicate (s.entries conn - entries) .remove ++ events.map .report ++
        Server.pending options conn { s.sessions conn with handler } entries)
    (remaining : { s.sessions conn with handler }.remaining <
      (s.sessions conn).remaining)
    (served : { s.sessions conn with handler }.Served) :
    s.Advances options conn next := by
  have device : next.device conn = s.device conn := by
    unfold ServerSystem.device
    rw [after]
  have addsMessages : next.messages = s.messages ++ [] := by
    rw [messages, List.append_nil]
  have writes : (next.device conn).conn.writes =
      (s.device conn).conn.writes ++ [] := by
    rw [device, List.append_nil]
  constructor
  · rw [device]
  · rw [effects_eq addsMessages writes addsEvents, after, device, stored, left]
    simp
  · rwa [after]
  · rwa [after]

theorem sessions_setHandler (same : next.sessions = s.sessions)
    (handler : Handler) :
    (next.setHandler conn handler).sessions conn =
      { s.sessions conn with handler } := by
  rw [← same]
  exact Function.update_self ..

theorem entries_setHandler (store : next.store = s.store)
    (same : next.sessions = s.sessions) (handler : Handler) :
    (next.setHandler conn handler).entries conn = s.entries conn := by
  have sameStore : (next.setHandler conn handler).store = s.store := store
  apply entries_congr sameStore
  unfold device
  rw [sessions_setHandler same]

theorem entries_remove (stepped : step options s (.remove conn) = some next) :
    next.entries conn = 0 := by
  obtain ⟨-, ⟨⟩⟩ := Option.ite_none_right_eq_some.mp stepped
  apply if_neg
  simp [Stored, setHandler, setSession, ConnectionStore.get_remove, device]

theorem advances_remove (served : (s.sessions conn).Served)
    (stepped : step options s (.remove conn) = some next) :
    s.Advances options conn next := by
  obtain ⟨position, ⟨⟩⟩ := Option.ite_none_right_eq_some.mp stepped
  have handler : (s.sessions conn).handler = .removing := position
  have closed := served.of_handler handler
  refine advances_goOn [] 0 (sessions_setHandler rfl .notifying) rfl
    (List.append_nil _).symm (entries_remove stepped) ?_ ?_ ?_
  · simp [Server.pending, handler, closingEffects]
  · simp [Session.remaining, handler]
  · exact closed

theorem advances_notify (served : (s.sessions conn).Served)
    (stepped : step options s (.notify conn) = some next) :
    s.Advances options conn next := by
  obtain ⟨position, ⟨⟩⟩ := Option.ite_none_right_eq_some.mp stepped
  have handler : (s.sessions conn).handler = .notifying := position
  have closed := served.of_handler handler
  refine advances_goOn
    [.closed (s.device conn).deviceID conn .connectionClosed] (s.entries conn)
    (sessions_setHandler rfl .leaving) rfl rfl
    (entries_setHandler rfl rfl .leaving) ?_ ?_ ?_
  · simp [Server.pending, handler, device]
  · simp [Session.remaining, handler]
  · exact closed

theorem advances_leave (served : (s.sessions conn).Served)
    (stepped : step options s (.leave conn) = some next) :
    s.Advances options conn next := by
  obtain ⟨position, ⟨⟩⟩ := Option.ite_none_right_eq_some.mp stepped
  have handler : (s.sessions conn).handler = .leaving := position
  have closed := served.of_handler handler
  refine advances_goOn [] (s.entries conn) (sessions_setHandler rfl .returned) rfl
    (List.append_nil _).symm (entries_setHandler rfl rfl .returned) ?_ ?_ ?_
  · simp [Server.pending, handler]
  · simp [Session.remaining, handler]
  · exact closed

theorem setHandler_setSession (session : Session) (handler : Handler) :
    (s.setSession conn session).setHandler conn handler =
      s.setSession conn { session with handler } := by
  simp [setHandler, setSession]

/-- The handler has read something and turns to what comes next. -/
theorem advances_turn {inbound : Buffer} {handler : Handler}
    (left : Server.pending options conn (s.sessions conn) (s.entries conn) =
      Server.pending options conn { s.sessions conn with inbound, handler }
        (s.entries conn))
    (remaining : { s.sessions conn with inbound, handler }.remaining <
      (s.sessions conn).remaining)
    (served : { s.sessions conn with inbound, handler }.Served) :
    s.Advances options conn
      (s.setSession conn { s.sessions conn with inbound, handler }) := by
  refine advances_setSession ?_ (List.append_nil _).symm ?_ remaining served
  · rfl
  · have stays : ¬ ((s.device conn).conn.closed = false ∧
        (s.sessions conn).device.conn.closed = true) := by
      rintro ⟨isOpen, closed⟩
      cases isOpen.symm.trans closed
    rw [left, if_neg stays]
    rfl

/-- A PUSH starts a call of the `MessageHandler`, if there is one. -/
theorem advances_push {packet : PushPacket} {later : Buffer} {serverKp : Int}
    (handler : (s.sessions conn).handler = .looping serverKp)
    (served : (s.sessions conn).Served)
    (isRead : readPacket (s.sessions conn).inbound = .ok (.push packet, later)) :
    s.Advances options conn (received options
      (s.setSession conn { s.sessions conn with inbound := later }) conn serverKp
      (.push packet)) := by
  have loop := @loopEffects_of_packet options (s.sessions conn).device.deviceID
    _ _ _ isRead rfl
  have shorter := length_lt_of_readPacket isRead
  have remaining : { s.sessions conn with inbound := later }.remaining <
      (s.sessions conn).remaining := by
    simp only [Session.remaining, handler]
    omega
  simp only [received]
  split
  · rename_i handles
    generalize isNext : ServerSystem.mk .. = next
    have after : next.sessions conn = { s.sessions conn with inbound := later } := by
      rw [← isNext]
      simp
    have device : next.device conn = s.device conn := by
      unfold ServerSystem.device
      rw [after]
    have stored : next.entries conn = s.entries conn :=
      entries_congr (by rw [← isNext]; rfl) (by rw [device])
    have messages : next.messages = s.messages ++
        [(conn, (s.sessions conn).device.deviceID, packet.payload)] := by
      rw [← isNext]
      simp [setSession, ServerSystem.device]
    have writes : (next.device conn).conn.writes =
        (s.device conn).conn.writes ++ [] := by
      rw [device, List.append_nil]
    have events : next.events = s.events ++ [] := by
      rw [← isNext]
      exact (List.append_nil _).symm
    constructor
    · rw [device]
    · rw [effects_eq messages writes events, after, device, stored]
      simp [Server.pending, handler, loop, answers, handles]
    · rwa [after]
    · rw [after]
      exact served
  · rename_i ignores
    have same : { s.sessions conn with inbound := later } =
        { s.sessions conn with inbound := later, handler := .looping serverKp } := by
      rw [← handler]
    rw [same] at remaining ⊢
    apply advances_turn _ remaining
    · exact served.of_handler handler
    · simp [Server.pending, handler, loop, answers, ignores]

theorem advances_receive {packet : ControlPacket} {later : Buffer} {serverKp : Int}
    (handler : (s.sessions conn).handler = .looping serverKp)
    (served : (s.sessions conn).Served)
    (isRead : readPacket (s.sessions conn).inbound = .ok (packet, later)) :
    s.Advances options conn (received options
      (s.setSession conn { s.sessions conn with inbound := later }) conn serverKp
      packet) := by
  have shorter := length_lt_of_readPacket isRead
  have isOpen := served.of_handler handler
  cases packet with
  | push packet => exact advances_push handler served isRead
  | pingreq packet =>
      have loop := @loopEffects_of_packet options (s.sessions conn).device.deviceID
        _ _ _ isRead rfl
      simp only [received, setHandler_setSession]
      apply advances_turn
      · simp [Server.pending, handler, loop, answers]
      · simp only [Session.remaining, handler]
        omega
      · exact isOpen
  | _ packet =>
      have loop := @loopEffects_of_end options (s.sessions conn).device.deviceID
        _ _ _ isRead rfl
      simp only [received, setHandler_setSession]
      apply advances_turn
      · simp [Server.pending, handler, loop, violationEffects, violates]
      · simp only [Session.remaining, handler]
        omega
      · exact isOpen

theorem advances_read (served : (s.sessions conn).Served)
    (stepped : step options s (.read conn) = some next) :
    s.Advances options conn next := by
  simp only [step] at stepped
  split at stepped
  · cases stepped
  · split at stepped
    case h_1 position _ => exact (served.of_handler position).elim
    case h_2 position _ => exact (served.of_handler position).elim
    case h_3 serverKp packet later position isRead =>
      cases stepped
      exact advances_receive position served isRead
    case h_4 serverKp messageType position failed =>
      have handler : (s.sessions conn).handler = .looping serverKp := position
      have loop := @loopEffects_of_error options (s.sessions conn).device.deviceID
        _ _ failed
      have isOpen := served.of_handler handler
      cases stepped
      apply advances_turn
      · simp [Server.pending, handler, loop, violationEffects_of_unsupported]
      · simp only [Session.remaining, handler]
        omega
      · exact isOpen
    case h_5 serverKp failure other position failed =>
      have handler : (s.sessions conn).handler = .looping serverKp := position
      have loop := @loopEffects_of_error options (s.sessions conn).device.deviceID
        _ _ failed
      have isOpen := served.of_handler handler
      cases stepped
      apply advances_turn
      · simp [Server.pending, handler, loop, violationEffects_of_other failed other]
      · simp only [Session.remaining, handler]
        omega
      · exact isOpen
    case h_6 => cases stepped

/-- Every step the handler takes in its loop or behind it. -/
theorem advances_of_step (served : (s.sessions conn).Served)
    (undisturbed : Undisturbed conn s event) (own : event.actor = some conn)
    (stepped : step options s event = some next) :
    s.Advances options conn next := by
  have sessionStep := sessionStep_of_step stepped conn
  generalize next.sessions conn = after at sessionStep
  cases sessionStep
  case untouched notOwn => exact absurd own notOwn
  case answerPing | violate => exact advances_answer served undisturbed stepped
  case close => exact advances_close served stepped
  case remove => exact advances_remove served stepped
  case notify => exact advances_notify served stepped
  case leave => exact advances_leave served stepped
  case receive isRead _ =>
    rcases isRead with rfl | rfl
    · exact advances_read served stepped
    · exact absurd rfl undisturbed
  case operate | closeBelow => cases own
  all_goals
    unfold Session.Served at served
    simp_all only

/-- A step of anybody else leaves the handler where it is. -/
structure Waits (conn : Nat) (s next : ServerSystem) : Prop where
  handler : (next.sessions conn).handler = (s.sessions conn).handler
  inbound : (next.sessions conn).inbound = (s.sessions conn).inbound
  device : (next.device conn).deviceID = (s.device conn).deviceID
  served : (next.sessions conn).Served

theorem waits_of_step (served : (s.sessions conn).Served)
    (undisturbed : Undisturbed conn s event) (other : event.actor ≠ some conn)
    (stepped : step options s event = some next) : s.Waits conn next := by
  have sessionStep := sessionStep_of_step stepped conn
  generalize isAfter : next.sessions conn = after at sessionStep
  cases sessionStep
  case untouched =>
    exact ⟨by rw [isAfter], by rw [isAfter], by rw [device, isAfter]; rfl,
      by rwa [isAfter]⟩
  case operate device operated =>
    have keeps := undisturbed next stepped
    simp only [ServerSystem.device, isAfter] at keeps
    refine ⟨by rw [isAfter], by rw [isAfter], ?_, ?_⟩
    · rw [ServerSystem.device, isAfter]
      exact operated.adds.1
    · rw [isAfter]
      exact served.setDevice operated.active_of_open keeps operated.closed_stays
  case closeBelow tracked =>
    have keeps := undisturbed next stepped
    simp only [ServerSystem.device, isAfter] at keeps
    refine ⟨by rw [isAfter], by rw [isAfter], ?_, ?_⟩
    · rw [ServerSystem.device, isAfter]
      rfl
    · rw [isAfter]
      exact served.setDevice (fun _ => rfl) keeps (fun _ => rfl)
  case receive isRead _ | unreadable isRead _ =>
    rcases isRead with rfl | rfl <;> exact absurd rfl other
  all_goals exact absurd rfl other

/-- Only the handler itself puts its connection into the store. -/
theorem stored_of_others (other : event.actor ≠ some conn)
    (stepped : step options s event = some next)
    (device : (next.device conn).deviceID = (s.device conn).deviceID)
    (isStored : next.Stored conn) : s.Stored conn := by
  unfold Stored at isStored ⊢
  rw [device] at isStored
  generalize newStore : next.store = store at isStored
  cases newStore ▸ storeStep_of_step stepped with
  | quiet => exact isStored
  | register successor =>
      rw [ConnectionStore.get_register] at isStored
      split_ifs at isStored
      · exact absurd isStored other
      · exact isStored
  | remove another =>
      rw [ConnectionStore.get_remove] at isStored
      split_ifs at isStored
      exact isStored
  | kick current =>
      rw [ConnectionStore.get_remove] at isStored
      split_ifs at isStored
      exact isStored

theorem entries_le_of_others (other : event.actor ≠ some conn)
    (stepped : step options s event = some next)
    (device : (next.device conn).deviceID = (s.device conn).deviceID) :
    next.entries conn ≤ s.entries conn := by
  have stored := stored_of_others other stepped device
  unfold entries
  split_ifs <;> simp_all

/-- The store changes in the handler's own steps only when it removes. -/
theorem entries_of_own (served : (s.sessions conn).Served)
    (own : event.actor = some conn)
    (stepped : step options s event = some next)
    (device : (next.device conn).deviceID = (s.device conn).deviceID) :
    (next.handler conn).removed = (s.handler conn).removed ∧
        next.entries conn = s.entries conn ∨
      (next.handler conn).removed = true ∧ next.entries conn = 0 := by
  have sessionStep := sessionStep_of_step stepped conn
  have storeStep := storeStep_of_step stepped
  unfold handler
  generalize next.sessions conn = after at sessionStep
  cases sessionStep
  case untouched notOwn => exact absurd own notOwn
  case remove => exact .inr ⟨rfl, entries_remove stepped⟩
  case operate | closeBelow => cases own
  case receive goesOn isRead position =>
    refine .inl ⟨by cases goesOn <;> simp [position, Handler.removed],
      entries_congr ?_ device⟩
    generalize next.store = store at storeStep
    rcases isRead with rfl | rfl <;> cases storeStep <;> rfl
  case answerPing position | violate position | close position | notify position |
      leave position =>
    refine .inl ⟨by simp [position, Handler.removed], entries_congr ?_ device⟩
    generalize next.store = store at storeStep
    cases storeStep
    rfl
  all_goals
    unfold Session.Served at served
    simp_all only

end Steps

end ServerSystem

end Server

end RmttGo
