import RmttGo.EventRuns
import RmttGo.ReadLoopSteps

/-!
# The read loop of the server

For every stream of bytes and beside all the other goroutines of the server,
`handleDeviceConnection` returns, and has then done what its protocol says.
-/

namespace RmttGo

namespace Server

open Codec

namespace ServerSystem

section Runs

variable {options : ServerOptions} {conn : Nat} {start s next : ServerSystem}
  {log : LoopLog} {event : ServerEvent}

/-- What the whole handler does, from `start` on, if other goroutines took its
connection from the store that often. -/
def protocolEffects (options : ServerOptions) (start : ServerSystem) (conn : Nat)
    (lost : Nat) : List Effect :=
  loopEffects options (start.device conn).deviceID
      (start.sessions conn).inbound.unread ++
    closingEffects (start.device conn).deviceID conn (start.entries conn - lost)

structure Follows (options : ServerOptions) (conn : Nat) (start : ServerSystem)
    (s : ServerSystem) (log : LoopLog) : Prop where
  served : (s.sessions conn).Served
  device : (s.device conn).deviceID = (start.device conn).deviceID
  effects : log.effects ++ pending options conn (s.sessions conn) (s.entries conn) =
    protocolEffects options start conn log.lost
  steps : log.steps + (s.sessions conn).remaining ≤
    2 * (start.sessions conn).inbound.unread.length + 6
  lost_le : log.lost ≤ start.entries conn
  stored : (s.handler conn).removed = false →
    s.entries conn + log.lost = start.entries conn
  removed : (s.handler conn).removed = true → s.entries conn = 0

theorem Follows.own (follows : Follows options conn start s log)
    (undisturbed : Undisturbed conn s event) (own : event.actor = some conn)
    (stepped : step options s event = some next) :
    Follows options conn start next (noteLoop conn s event next log) := by
  have advances := advances_of_step follows.served undisturbed own stepped
  have changes := entries_of_own follows.served own stepped advances.device
  rw [noteLoop, if_pos own]
  constructor
  · exact advances.served
  · rw [advances.device, follows.device]
  · dsimp only
    rw [List.append_assoc, ← advances.pending, follows.effects]
  · have remaining := advances.remaining
    have steps := follows.steps
    dsimp only
    omega
  · exact follows.lost_le
  · intro notRemoved
    rcases changes with ⟨same, entries⟩ | ⟨removed, -⟩
    · rw [entries]
      exact follows.stored (same ▸ notRemoved)
    · cases notRemoved.symm.trans removed
  · intro removed
    rcases changes with ⟨same, entries⟩ | ⟨-, gone⟩
    · rw [entries]
      exact follows.removed (same ▸ removed)
    · exact gone

theorem Follows.others (follows : Follows options conn start s log)
    (undisturbed : Undisturbed conn s event) (other : event.actor ≠ some conn)
    (stepped : step options s event = some next) :
    Follows options conn start next (noteLoop conn s event next log) := by
  have waits := waits_of_step follows.served undisturbed other stepped
  have fewer := entries_le_of_others other stepped waits.device
  have left (entries : Nat) :
      pending options conn (next.sessions conn) entries =
        pending options conn (s.sessions conn) entries :=
    pending_congr waits.handler waits.inbound waits.device
  have sameHandler : next.handler conn = s.handler conn := waits.handler
  rw [noteLoop, if_neg other]
  constructor
  · exact waits.served
  · rw [waits.device, follows.device]
  · have effects := follows.effects
    dsimp only
    rw [left]
    cases removed : (s.handler conn).removed with
    | false =>
        have stored := follows.stored removed
        obtain ⟨ahead, isAhead⟩ :=
          @exists_pending_eq options conn _ follows.served removed
        have deviceID : (s.sessions conn).device.deviceID =
            (start.device conn).deviceID := follows.device
        have before : start.entries conn - log.lost = s.entries conn := by omega
        have later : start.entries conn -
            (log.lost + (s.entries conn - next.entries conn)) =
              next.entries conn := by
          omega
        rw [isAhead, deviceID, protocolEffects, before, ← List.append_assoc] at effects
        have front : log.effects ++ ahead =
            loopEffects options (start.device conn).deviceID
              (start.sessions conn).inbound.unread ++ [.close] := by
          apply List.append_cancel_right (effects.trans _)
          simp [closingEffects]
        rw [isAhead, deviceID, protocolEffects, later, ← List.append_assoc, front]
        simp [closingEffects]
    | true =>
        have gone := follows.removed removed
        have goneNext : next.entries conn = 0 := by omega
        rw [gone] at effects ⊢
        rw [goneNext]
        exact effects
  · have steps := follows.steps
    rw [Session.remaining_congr waits.handler waits.inbound]
    exact steps
  · have lost := follows.lost_le
    cases removed : (s.handler conn).removed with
    | false =>
        have stored := follows.stored removed
        dsimp only
        omega
    | true =>
        have gone := follows.removed removed
        dsimp only
        omega
  · intro notRemoved
    have stored := follows.stored (sameHandler ▸ notRemoved)
    dsimp only
    omega
  · intro removed
    have gone := follows.removed (sameHandler ▸ removed)
    omega

theorem Follows.of_step (follows : Follows options conn start s log)
    (undisturbed : Undisturbed conn s event)
    (stepped : step options s event = some next) :
    Follows options conn start next (noteLoop conn s event next log) := by
  by_cases own : event.actor = some conn
  · exact follows.own undisturbed own stepped
  · exact follows.others undisturbed own stepped

/-- `handleDeviceConnection` starts on a connection that nobody has closed. -/
structure StartsLoop (s : ServerSystem) (conn : Nat) : Prop where
  looping : ∃ serverKp, s.handler conn = .looping serverKp
  active : (s.device conn).active = true
  isOpen : (s.device conn).conn.closed = false

theorem StartsLoop.follows (starts : start.StartsLoop conn) :
    Follows options conn start start ⟨[], 0, 0⟩ := by
  obtain ⟨serverKp, position⟩ := starts.looping
  have handler : (start.sessions conn).handler = .looping serverKp := position
  constructor
  · unfold Session.Served
    rw [handler]
    exact ⟨starts.active, starts.isOpen⟩
  · rfl
  · unfold pending
    rw [handler]
    rfl
  · simp [Session.remaining, handler]
  · exact Nat.zero_le _
  · exact fun _ => rfl
  · intro removed
    rw [position] at removed
    cases removed

/-- `handleDeviceConnection` has returned. -/
def HasReturned (s : ServerSystem) (conn : Nat) : Prop :=
  s.handler conn = .leaving ∨ s.handler conn = .returned

/-- A read on an open connection returns. -/
theorem exists_read {serverKp : Int} (position : s.handler conn = .looping serverKp)
    (isOpen : (s.device conn).conn.closed = false) :
    ∃ next, step options s (.read conn) = some next := by
  simp only [step, isOpen, position, Bool.false_eq_true, if_false]
  cases isRead : readPacket (s.sessions conn).inbound with
  | ok outcome => exact ⟨_, rfl⟩
  | error failure => cases failure <;> exact ⟨_, rfl⟩

/-- Until it has returned, the handler can take a step, whatever becomes of a
write. -/
theorem exists_own_step (served : (s.sessions conn).Served)
    (notReturned : ¬ s.HasReturned conn) (now : Nat) (outcome : TransportOutcome) :
    ∃ event next, event.actor = some conn ∧
      step options s event = some next ∧
      (outcome = .whole → ¬ (s.device conn).conn.Expired now →
        Undisturbed conn s event) := by
  unfold Session.Served at served
  cases position : s.handler conn with
  | looping serverKp =>
      have handler : (s.sessions conn).handler = .looping serverKp := position
      simp only [handler] at served
      obtain ⟨next, stepped⟩ := @exists_read options _ _ _ position served.2
      exact ⟨.read conn, next, rfl, stepped, fun _ _ => trivial⟩
  | answering serverKp | violating serverKp =>
      refine ⟨.answer conn now outcome, _, rfl, by simp only [step, position]; rfl,
        ?_⟩
      exact fun whole inTime _ => ⟨whole, inTime⟩
  | closing serverKp =>
      exact ⟨.close conn, _, rfl, by simp only [step, position]; rfl,
        fun _ _ => trivial⟩
  | removing =>
      exact ⟨.remove conn, _, rfl, if_pos position, fun _ _ => trivial⟩
  | notifying =>
      exact ⟨.notify conn, _, rfl, if_pos position, fun _ _ => trivial⟩
  | leaving => exact absurd (.inl position) notReturned
  | returned => exact absurd (.inr position) notReturned
  | _ =>
      unfold handler at position
      simp [position] at served

/-- The handler takes nobody else's entry out of the store. -/
theorem store_of_own (served : (s.sessions conn).Served)
    (own : event.actor = some conn) (stepped : step options s event = some next)
    {deviceID : Bytes} (notOwn : s.store.get deviceID ≠ some conn) :
    next.store.get deviceID = s.store.get deviceID := by
  generalize newStore : next.store = store
  cases newStore ▸ storeStep_of_step stepped with
  | quiet => rfl
  | register successor =>
      obtain rfl : successor = conn := Option.some.inj own
      simp only [step, handler] at stepped
      split at stepped
      case h_1 position => exact (served.of_handler position).elim
      case h_2 => cases stepped
  | remove removed =>
      obtain rfl : removed = conn := Option.some.inj own
      rw [ConnectionStore.get_remove, if_neg]
      exact fun isOwn => notOwn isOwn.2
  | kick => cases own

/-- What `handleDeviceConnection` has done from `start` on. -/
structure MeetsProtocol (options : ServerOptions) (conn : Nat)
    (start s : ServerSystem) (log : LoopLog) : Prop where
  /-- Nothing but the beginning of its protocol. -/
  beginning : log.effects <+: protocolEffects options start conn log.lost
  /-- All of it when it has returned.  The connection is closed then, and has
  left the store exactly once if it was there. -/
  complete : s.HasReturned conn →
    log.effects = protocolEffects options start conn log.lost ∧
      (s.device conn).conn.closed = true ∧ ¬ s.Stored conn ∧
      log.effects.count .remove + log.lost = start.entries conn
  /-- It returns: it has only so many steps, -/
  bounded : log.steps ≤ 2 * (start.sessions conn).inbound.unread.length + 6
  /-- and until it has returned it can take one. -/
  goesOn : ¬ s.HasReturned conn → ∀ (now : Nat) (outcome : TransportOutcome),
    ∃ event next, event.actor = some conn ∧ step options s event = some next ∧
      (outcome = .whole → ¬ (s.device conn).conn.Expired now →
        Undisturbed conn s event)
  /-- No step of it touches another connection. -/
  aside : ∀ event next, event.actor = some conn → step options s event = some next →
    (∀ other, other ≠ conn → next.sessions other = s.sessions other) ∧
      ∀ deviceID, s.store.get deviceID ≠ some conn →
        next.store.get deviceID = s.store.get deviceID

theorem count_remove_loopEffects (deviceID stream : Bytes) :
    (loopEffects options deviceID stream).count .remove = 0 := by
  rw [List.count_eq_zero, loopEffects, violationEffects]
  intro isRemove
  rcases List.mem_append.mp isRemove with isAnswer | isViolation
  · obtain ⟨packet, -, isAnswer⟩ := List.mem_flatMap.mp isAnswer
    cases packet <;> simp [answers] at isAnswer
  · simp at isViolation

theorem Follows.meetsProtocol (follows : Follows options conn start s log) :
    MeetsProtocol options conn start s log where
  beginning := ⟨_, follows.effects⟩
  complete := by
    intro returned
    have handler : (s.sessions conn).handler = .leaving ∨
        (s.sessions conn).handler = .returned := returned
    have removed : (s.handler conn).removed = true := by
      rcases returned with position | position <;> rw [position] <;> rfl
    have nothing : pending options conn (s.sessions conn) (s.entries conn) = [] := by
      rcases handler with handler | handler <;> simp [pending, handler]
    have effects := follows.effects
    rw [nothing, List.append_nil] at effects
    have served := follows.served
    have gone := follows.removed removed
    have lost := follows.lost_le
    refine ⟨effects, ?_, ?_, ?_⟩
    · rcases handler with handler | handler
      · exact served.of_handler handler
      · exact served.of_handler handler
    · intro isStored
      rw [entries, if_pos isStored] at gone
      cases gone
    · rw [effects, protocolEffects, List.count_append, count_remove_loopEffects]
      simp [closingEffects]
      omega
  bounded := Nat.le_of_add_right_le follows.steps
  goesOn := exists_own_step follows.served
  aside := by
    intro event next own stepped
    constructor
    · intro other different
      exact (sessionStep_of_step stepped other).eq_of_actor own different.symm
    · intro deviceID notOwn
      exact store_of_own follows.served own stepped notOwn

/-- Where the loop stops and what it may look at, in the bytes of the stream. -/
structure StopsByProtocol (options : ServerOptions) (deviceID stream : Bytes) :
    Prop where
  /-- The stop is the first error of `ReadPacket`, or the first packet that is
  neither a PUSH nor a PINGREQ. -/
  stop : (readUntil endsLoop stream).StopsAtLast endsLoop
  packets : ∀ packet ∈ (readUntil endsLoop stream).packets,
    endsLoop packet = false
  violation : violates (readUntil endsLoop stream).stop = true ↔
    (∃ packet, (readUntil endsLoop stream).stop = .packet packet ∧
      Misplaced packet) ∨ UnknownFrame (readUntil endsLoop stream).last
  /-- No byte behind the stopping point has an effect. -/
  behind : stopPoint endsLoop stream < stream.length → ∀ other,
    loopEffects options deviceID
        (stream.take (stopPoint endsLoop stream) ++ other) =
      loopEffects options deviceID stream

theorem stopsByProtocol (deviceID stream : Bytes) :
    StopsByProtocol options deviceID stream where
  stop := readUntil_stopsAtLast endsLoop stream
  packets := fun _ isRead => goesOn_of_mem_packets isRead
  violation := violates_iff
  behind := loopEffects_take_append

/-- On every stream of bytes, as long as its writes succeed and nobody else
closes its connection, `handleDeviceConnection` follows its protocol beside
whatever other goroutines do, and returns. -/
theorem read_loop_meets_protocol (starts : start.StartsLoop conn)
    {events : List ServerEvent}
    (undisturbed : EventRun.Meets (step options) (Undisturbed conn) start events)
    (executed : EventRun.run (EventRun.recorded (step options) (noteLoop conn))
      (start, ⟨[], 0, 0⟩) events = some (s, log)) :
    MeetsProtocol options conn start s log ∧
      StopsByProtocol options (start.device conn).deviceID
        (start.sessions conn).inbound.unread := by
  refine ⟨?_, stopsByProtocol _ _⟩
  have follows : Follows options conn start (s, log).1 (s, log).2 := by
    apply EventRun.invariant_of_meets
      (fun recordedState => Follows options conn start recordedState.1 recordedState.2)
      _ starts.follows (EventRun.meets_recorded.mpr undisturbed) executed
    intro state later event follows meets recordedStep
    obtain ⟨next, stepped, rfl⟩ := EventRun.recorded_eq_some.mp recordedStep
    exact follows.of_step meets stepped
  exact follows.meetsProtocol

/-- A CONNECT of the device `d`, and behind it a PUSH, a PINGREQ, a frame of an
unknown type and a DISCONNECT that is not read any more. -/
def unknownTypeStream : Bytes :=
  ControlPacket.frame (.connect
      ⟨.ofType MessageType.connect, 0x637a7175, 1, 0, 30, [100]⟩) ++
    [0x30, 3, 0, 104, 105, 0x50, 0, 0x40, 0, 0xE0, 1, 0]

def handlingOptions : ServerOptions :=
  { newServerOptions with handlesMessages := true }

theorem read_loop_meets_protocol_unknown_type :
    ∃ start s log,
      EventRun.run (step handlingOptions) initial
          [.accept 0 unknownTypeStream, .enter 0, .track 0, .read 0,
            .greet 0 0 .whole, .register 0, .establish 0] = some start ∧
        EventRun.run (EventRun.recorded (step handlingOptions) (noteLoop 0))
          (start, ⟨[], 0, 0⟩)
          [.read 0, .read 0, .answer 0 0 .whole, .read 0, .answer 0 0 .whole,
            .close 0, .remove 0, .notify 0] = some (s, log) ∧
        log.effects = [.start [100] [104, 105], .write [0x60, 0],
          .write [0xE0, 1, 4], .close, .remove,
          .report (.closed [100] 0 .connectionClosed)] ∧
        MeetsProtocol handlingOptions 0 start s log := by
  have outcome : ((EventRun.run (step handlingOptions) initial
      [.accept 0 unknownTypeStream, .enter 0, .track 0, .read 0,
        .greet 0 0 .whole, .register 0, .establish 0]).bind fun start =>
      (EventRun.run (EventRun.recorded (step handlingOptions) (noteLoop 0))
        (start, ⟨[], 0, 0⟩)
        [.read 0, .read 0, .answer 0 0 .whole, .read 0, .answer 0 0 .whole,
          .close 0, .remove 0, .notify 0]).map fun finish =>
        (start.handler 0, (start.device 0).active, (start.device 0).conn.closed,
          decide (EventRun.Meets (step handlingOptions) (Undisturbed 0) start
            [.read 0, .read 0, .answer 0 0 .whole, .read 0, .answer 0 0 .whole,
              .close 0, .remove 0, .notify 0]),
          finish.2.effects)) =
      some (.looping 30, true, false, true,
        [.start [100] [104, 105], .write [0x60, 0], .write [0xE0, 1, 4], .close,
          .remove, .report (.closed [100] 0 .connectionClosed)]) := by
    decide +kernel
  obtain ⟨start, reached, outcome⟩ := Option.bind_eq_some_iff.mp outcome
  obtain ⟨⟨s, log⟩, executed, facts⟩ := Option.map_eq_some_iff.mp outcome
  simp only [Prod.mk.injEq] at facts
  obtain ⟨position, active, isOpen, undisturbed, effects⟩ := facts
  exact ⟨start, s, log, reached, executed, effects,
    (read_loop_meets_protocol ⟨⟨30, position⟩, active, isOpen⟩
      (of_decide_eq_true undisturbed) executed).1⟩

end Runs

end ServerSystem

end Server

end RmttGo
