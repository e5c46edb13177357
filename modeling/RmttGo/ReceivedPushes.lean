import RmttGo.SessionSteps

/-!
# What the server hears on a connection

The handler of a connection takes one packet after the other from what has come
in.  The calls of the `MessageHandler` for the connection are those for its
pushes behind the first packet, in their order, whatever else the server does.
-/

namespace RmttGo

namespace Server

open Codec

/-- The payload of a PUSH. -/
def pushPayload : ControlPacket → Option Bytes
  | .push packet => some packet.payload
  | _ => none

/-- What the read loop gives to the `MessageHandler`. -/
def heardOf (options : ServerOptions) (packets : List ControlPacket) : List Bytes :=
  if options.handlesMessages then packets.filterMap pushPayload else []

theorem heardOf_append (options : ServerOptions) (packets later : List ControlPacket) :
    heardOf options (packets ++ later) =
      heardOf options packets ++ heardOf options later := by
  unfold heardOf
  split
  · exact List.filterMap_append
  · rfl

/-- Nothing has been read from the connection. -/
def Handler.silent : Handler → Bool
  | .unaccepted | .accepted | .entered | .awaitingConnect => true
  | _ => false

/-- A first packet has been read, and the connection not yet given up. -/
def Handler.greeted : Handler → Bool
  | .refusing _ | .welcoming _ _ | .registering _ | .takingOver _ _
  | .establishing _ | .looping _ | .answering _ | .violating _ | .closing _ => true
  | _ => false

theorem Handler.GoesOn.not_silent {serverKp : Int} {handler : Handler}
    (goesOn : handler.GoesOn serverKp) : handler.silent = false := by
  cases goesOn <;> rfl

namespace ServerSystem

/-- The payloads that the `MessageHandler` was given for the connection. -/
def heard (s : ServerSystem) (conn : Nat) : List Bytes :=
  (s.messages.filter fun message => message.1 = conn).map fun message => message.2.2

/-- What a step has to do with the reading on one connection. -/
inductive HearStep (options : ServerOptions) (conn : Nat) (event : ServerEvent)
    (session : Session) (heard : List Bytes) : Session → List Bytes → Prop
  | quiet {after : Session} (inbound : after.inbound = session.inbound)
      (silent : after.handler.silent = true → session.handler.silent = true)
      (greeted : after.handler.greeted = true → session.handler.greeted = true)
      (unaccepted : after.handler = .unaccepted → session.handler = .unaccepted)
      (notAccept : ∀ stream, event ≠ .accept conn stream) :
      HearStep options conn event session heard after heard
  | accept {stream : Bytes} (isEvent : event = .accept conn stream)
      (position : session.handler = .unaccepted) :
      HearStep options conn event session heard
        ⟨⟨stream⟩, ⟨.fresh, [], false⟩, .accepted⟩ heard
  | connect {packet : ControlPacket} {after : Session} (isEvent : event = .read conn)
      (position : session.handler = .awaitingConnect)
      (isRead : readPacket session.inbound = .ok (packet, after.inbound))
      (silent : after.handler.silent = false) :
      HearStep options conn event session heard after heard
  | receive {packet : ControlPacket} {serverKp : Int} {after : Session}
      (isEvent : event = .read conn) (position : session.handler = .looping serverKp)
      (isRead : readPacket session.inbound = .ok (packet, after.inbound))
      (silent : after.handler.silent = false) :
      HearStep options conn event session heard after
        (heard ++ heardOf options [packet])

variable {options : ServerOptions} {s next : ServerSystem} {conn : Nat}
  {event : ServerEvent}

theorem HearStep.refl {session : Session} {heard : List Bytes}
    (notAccept : ∀ stream, event ≠ .accept conn stream) :
    HearStep options conn event session heard session heard :=
  .quiet rfl id id id notAccept

theorem heard_congr (same : next.messages = s.messages) :
    next.heard conn = s.heard conn := by
  rw [heard, same, heard]

/-- All steps but those of reading and accepting leave the input alone. -/
theorem hearStep_of_sessionStep {session after : Session} {heard : List Bytes}
    (stepped : SessionStep options conn event session after)
    (notRead : event ≠ .read conn) (notFailed : event ≠ .readFails conn)
    (notAccept : ∀ stream, event ≠ .accept conn stream) :
    HearStep options conn event session heard after heard := by
  cases stepped with
  | untouched | operate | closeBelow => exact .quiet rfl id id id notAccept
  | accept position => exact absurd rfl (notAccept _)
  | greeted position isRead => exact absurd rfl notRead
  | unreadable isRead position =>
      exact absurd isRead (not_or.mpr ⟨notRead, notFailed⟩)
  | receive isRead position goesOn =>
      exact absurd isRead (not_or.mpr ⟨notRead, notFailed⟩)
  | register position registers =>
      cases registers <;> refine .quiet rfl ?_ ?_ ?_ notAccept <;>
        simp [Handler.silent, Handler.greeted, position]
  | _ =>
      refine .quiet rfl ?_ ?_ ?_ notAccept <;>
        simp_all [Handler.silent, Handler.greeted, Session.abandon]

theorem heard_received (serverKp : Int) (packet : ControlPacket) (other : Nat) :
    (received options s conn serverKp packet).heard other =
      s.heard other ++ if other = conn then heardOf options [packet] else [] := by
  cases packet with
  | push packet =>
      cases handles : options.handlesMessages with
      | false => simp [received, handles, heardOf]
      | true =>
          by_cases same : other = conn
          · subst same
            simp [received, handles, heardOf, heard, pushPayload]
          · simp [received, handles, heard, same, Ne.symm same]
  | _ => simp [received, heardOf, pushPayload, heard, setHandler, setSession]

theorem hearStep_of_read (stepped : step options s (.read conn) = some next) :
    HearStep options conn (.read conn) (s.sessions conn) (s.heard conn)
      (next.sessions conn) (next.heard conn) := by
  simp only [step] at stepped
  split at stepped
  · cases stepped
  · split at stepped
    case h_1 packet inbound position isRead =>
      cases stepped
      rw [greeted_setSession, sessions_setSession, if_pos rfl]
      cases greeting : greet options packet with
      | drop => exact .connect rfl position isRead rfl
      | refuse returnCode => exact .connect rfl position isRead rfl
      | welcome deviceID serverKp => exact .connect rfl position isRead rfl
    case h_3 serverKp packet inbound position isRead =>
      cases stepped
      obtain ⟨handler, goesOn, sessions⟩ := @received_setSession options s conn
        { s.sessions conn with inbound } serverKp packet position
      rw [sessions, sessions_setSession, if_pos rfl, heard_received, if_pos rfl]
      exact .receive rfl position isRead goesOn.not_silent
    case h_6 => cases stepped
    all_goals
      rename_i position _
      cases stepped
      have handler : (s.sessions conn).handler = _ := position
      simp only [abandon, setHandler, sessions_setSession, if_true]
      refine .quiet rfl ?_ ?_ ?_ (by simp) <;>
        simp [Handler.silent, Handler.greeted, handler]

theorem heard_of_read_other (stepped : step options s (.read conn) = some next)
    {other : Nat} (different : other ≠ conn) : next.heard other = s.heard other := by
  simp only [step] at stepped
  split at stepped
  · cases stepped
  · split at stepped
    case h_1 packet inbound position isRead =>
      cases stepped
      rw [greeted_setSession]
      rfl
    case h_3 serverKp packet inbound position isRead =>
      cases stepped
      rw [heard_received, if_neg different, List.append_nil]
      rfl
    case h_6 => cases stepped
    all_goals
      cases stepped
      rfl

theorem messages_of_spawn {task : Nat} {position : Task}
    (spawned : s.spawn task position = some next) : next.messages = s.messages := by
  obtain ⟨-, ⟨⟩⟩ := Option.ite_none_right_eq_some.mp spawned
  rfl

theorem messages_of_proceed {task now : Nat} {outcome : TransportOutcome}
    (proceeded : s.proceed task now outcome = some next) :
    next.messages = s.messages := by
  unfold proceed at proceeded
  split at proceeded
  all_goals try split at proceeded
  all_goals cases proceeded
  all_goals rfl

/-- Only the read loop calls the `MessageHandler`. -/
theorem messages_of_step (stepped : step options s event = some next)
    (notRead : ∀ reader, event ≠ .read reader) : next.messages = s.messages := by
  cases event with
  | read reader => exact absurd rfl (notRead reader)
  | proceed task now outcome => exact messages_of_proceed stepped
  | shutdown task => exact (messages_of_spawn stepped).trans rfl
  | push task deviceID payload | kick task deviceID reason =>
      simp only [step] at stepped
      split at stepped
      · exact messages_of_spawn stepped
      · exact messages_of_spawn stepped
  | reap task conn =>
      simp only [step] at stepped
      split at stepped
      case h_5 => cases stepped
      all_goals exact messages_of_spawn (Option.ite_none_right_eq_some.mp stepped).2
  | takeOver conn task =>
      simp only [step] at stepped
      split at stepped
      · exact (messages_of_spawn stepped).trans rfl
      · cases stepped
  | greet conn now outcome =>
      simp only [step] at stepped
      split at stepped
      · cases stepped
        rfl
      · split at stepped <;> cases stepped <;> rfl
      · cases stepped
  | readFails conn | register conn | establish conn | answer conn now outcome
  | close conn =>
      simp only [step] at stepped
      split at stepped
      all_goals cases stepped
      all_goals rfl
  | accept conn inbound | enter conn | track conn | remove conn | notify conn
  | leave conn =>
      obtain ⟨-, ⟨⟩⟩ := Option.ite_none_right_eq_some.mp stepped
      rfl

theorem hearStep_of_step (stepped : step options s event = some next) (conn : Nat) :
    HearStep options conn event (s.sessions conn) (s.heard conn)
      (next.sessions conn) (next.heard conn) := by
  have sessionStep := sessionStep_of_step stepped conn
  cases event with
  | read reader =>
      by_cases same : conn = reader
      · subst same
        exact hearStep_of_read stepped
      · rw [heard_of_read_other stepped same, sessionStep.eq_of_actor rfl (Ne.symm same)]
        exact .refl (by simp)
  | readFails reader =>
      rw [heard_congr (messages_of_step stepped (by simp))]
      by_cases same : conn = reader
      · subst same
        simp only [step] at stepped
        split at stepped
        case h_3 => cases stepped
        all_goals
          rename_i position
          cases stepped
          have handler : (s.sessions conn).handler = _ := position
          simp only [abandon, setHandler, sessions_setSession, if_true]
          refine .quiet rfl ?_ ?_ ?_ (by simp) <;>
            simp [Handler.silent, Handler.greeted, handler]
      · rw [sessionStep.eq_of_actor rfl (Ne.symm same)]
        exact .refl (by simp)
  | accept taker stream =>
      rw [heard_congr (messages_of_step stepped (by simp))]
      by_cases same : conn = taker
      · subst same
        obtain ⟨⟨-, position⟩, ⟨⟩⟩ := Option.ite_none_right_eq_some.mp stepped
        rw [sessions_setSession, if_pos rfl]
        exact .accept rfl position
      · rw [sessionStep.eq_of_actor rfl (Ne.symm same)]
        refine .refl ?_
        rintro _ ⟨⟩
        exact same rfl
  | _ =>
      rw [heard_congr (messages_of_step stepped (by simp))]
      exact hearStep_of_sessionStep sessionStep (by simp) (by simp) (by simp)

/-- What has been read from the stream of a connection, and said to the
`MessageHandler` about it. -/
structure Reads (options : ServerOptions) (stream : Bytes) (session : Session)
    (heard : List Bytes) (packets : List ControlPacket) : Prop where
  reads : ReadsTo readPacket ⟨stream⟩ packets session.inbound
  heard : heard = heardOf options packets.tail
  silent : session.handler.silent = true → packets = []
  greeted : session.handler.greeted = true → packets ≠ []

structure Hears (options : ServerOptions) (past : List ServerEvent)
    (s : ServerSystem) : Prop where
  unaccepted : ∀ {conn : Nat}, s.handler conn = .unaccepted → s.heard conn = []
  accepted : ∀ {conn : Nat} {stream : Bytes}, .accept conn stream ∈ past →
    s.handler conn ≠ .unaccepted ∧
      ∃ packets, Reads options stream (s.sessions conn) (s.heard conn) packets

theorem initial_hears : Hears options [] initial where
  unaccepted := fun _ => rfl
  accepted := by simp

theorem Reads.step {stream : Bytes} {session after : Session}
    {heard heardNow : List Bytes} {packets : List ControlPacket}
    (reading : Reads options stream session heard packets)
    (known : session.handler ≠ .unaccepted)
    (stepped : HearStep options conn event session heard after heardNow) :
    ∃ packets, Reads options stream after heardNow packets := by
  cases stepped with
  | quiet inbound silent greeted unaccepted notAccept =>
      exact ⟨packets, inbound ▸ reading.reads, reading.heard,
        fun isSilent => reading.silent (silent isSilent),
        fun isGreeted => reading.greeted (greeted isGreeted)⟩
  | accept isEvent position => exact absurd position known
  | @connect packet _ isEvent position isRead silent =>
      have nothing : packets = [] := reading.silent (by rw [position]; rfl)
      subst nothing
      refine ⟨[packet], reading.reads.concat isRead, reading.heard, ?_, by simp⟩
      simp [silent]
  | @receive packet serverKp _ isEvent position isRead silent =>
      have some_read : packets ≠ [] := reading.greeted (by rw [position]; rfl)
      refine ⟨packets ++ [packet], reading.reads.concat isRead, ?_, ?_, by simp⟩
      · rw [List.tail_append_of_ne_nil some_read, heardOf_append, reading.heard]
      · simp [silent]

/-- A connection is accepted once. -/
theorem HearStep.unaccepted {session after : Session} {heard heardNow : List Bytes}
    (stepped : HearStep options conn event session heard after heardNow)
    (isUnaccepted : after.handler = .unaccepted) :
    session.handler = .unaccepted ∧ heardNow = heard ∧
      ∀ stream, event ≠ .accept conn stream := by
  cases stepped with
  | quiet inbound silent greeted unaccepted notAccept =>
      exact ⟨unaccepted isUnaccepted, rfl, notAccept⟩
  | accept isEvent position => cases isUnaccepted
  | connect isEvent position isRead silent | receive isEvent position isRead silent =>
      rw [isUnaccepted] at silent
      cases silent

theorem Hears.step {past : List ServerEvent} (hears : Hears options past s)
    (stepped : ServerSystem.step options s event = some next) :
    Hears options (past ++ [event]) next := by
  constructor
  · intro conn unaccepted
    obtain ⟨before, same, -⟩ := (hearStep_of_step stepped conn).unaccepted unaccepted
    rw [same]
    exact hears.unaccepted before
  · intro conn stream isAccepted
    have hearStep := hearStep_of_step stepped conn
    rcases List.mem_append.mp isAccepted with before | now
    · obtain ⟨known, packets, reading⟩ := hears.accepted before
      exact ⟨fun unaccepted => known (hearStep.unaccepted unaccepted).1,
        reading.step known hearStep⟩
    · obtain rfl := List.mem_singleton.mp now
      refine ⟨fun unaccepted => (hearStep.unaccepted unaccepted).2.2 stream rfl, [], ?_⟩
      generalize next.heard conn = heardNow at hearStep ⊢
      generalize next.sessions conn = after at hearStep ⊢
      cases hearStep with
      | quiet inbound silent greeted unaccepted notAccept =>
          exact absurd rfl (notAccept stream)
      | accept isEvent position =>
          cases isEvent
          exact ⟨.done, (hears.unaccepted position).trans (by simp [heardOf]),
            fun _ => rfl, by simp [Handler.greeted]⟩
      | connect isEvent position isRead silent => cases isEvent
      | receive isEvent position isRead silent => cases isEvent

theorem hears_of_run {events : List ServerEvent}
    (executed : EventRun.run (ServerSystem.step options) initial events = some s) :
    Hears options events s :=
  EventRun.invariant_of_history (Hears options) (fun hears stepped => hears.step stepped)
    initial_hears executed

end ServerSystem

end Server

end RmttGo
