import RmttGo.DismissedConnections
import RmttGo.ServerRecords

/-!
# DISCONNECT as the last word on a connection

`Kick`, a takeover, the keepalive reaper, `Close` and a protocol violation send
a DISCONNECT and close the connection in a separate step.  The active flag
changes only in the second, and the handler does not look at it at all.  This
file shows that the steps in between are the only ones in which a frame can
follow a DISCONNECT.
-/

namespace RmttGo

namespace Server

open Codec

section Tasks

/-- The write a task makes next, and the connection it makes it on. -/
def Task.writes (now : Nat) (outcome : TransportOutcome) :
    Task → Option (Nat × WireOperation)
  | .pushWriting conn payload => some (conn, .write payload now outcome)
  | .kickSending _ conn reason => some (conn, .sendDisconnect reason now outcome)
  | .takeoverSending conn =>
      some (conn, .sendDisconnect Reason.sessionTakenOver now outcome)
  | .reapSending conn =>
      some (conn, .sendDisconnect Reason.keepaliveTimeout now outcome)
  | .shutdownSending (conn :: _) =>
      some (conn, .sendDisconnect Reason.serverShutdown now outcome)
  | _ => none

/-- The connection a task has sent its DISCONNECT to and closes next. -/
def Task.closes : Task → Option Nat
  | .kickClosing _ conn _ | .takeoverClosing conn | .reapClosing conn
  | .shutdownClosing conn _ => some conn
  | _ => none

theorem Task.writes_of_closes {position : Task} {conn now : Nat}
    {outcome : TransportOutcome} (closing : position.closes = some conn) :
    position.writes now outcome = none := by
  unfold Task.closes at closing
  split at closing
  case h_5 => cases closing
  all_goals rfl

namespace ServerSystem

open DeviceConnection

variable {options : ServerOptions} {s next : ServerSystem} {conn task : Nat}
  {event : ServerEvent}

/-- What the next step of a task does to one connection. -/
inductive TaskOperation (s next : ServerSystem) (task now : Nat)
    (outcome : TransportOutcome) (conn : Nat) : Prop
  | untouched (same : next.device conn = s.device conn)
      (notClosing : (s.tasks task).closes ≠ some conn)
      (notWriting : ∀ operation,
        (s.tasks task).writes now outcome ≠ some (conn, operation))
  | push (payload : Bytes) (position : s.tasks task = .pushWriting conn payload)
      (written : next.device conn =
        ((s.device conn).write payload now outcome).2)
  | disconnect (reason : UInt8)
      (sends : (s.tasks task).writes now outcome =
        some (conn, .sendDisconnect reason now outcome))
      (sent : next.device conn = (s.device conn).sendDisconnect reason now outcome)
      (closesNext : (next.tasks task).closes = some conn)
  | close (closed : next.device conn = (s.device conn).close)
      (closing : (s.tasks task).closes = some conn)
  | closeBelow (closed : next.device conn =
        { s.device conn with conn := (s.device conn).conn.close })
      (notWriting : (s.tasks task).writes now outcome = none)

theorem taskOperation_setDevice {now : Nat} {outcome : TransportOutcome}
    {device : DeviceConnection} {position : Task}
    (own : ((s.setDevice conn device).setTask task position).device conn = device →
      TaskOperation s ((s.setDevice conn device).setTask task position) task now
        outcome conn)
    (closesOnly : ∀ closing, (s.tasks task).closes = some closing →
      closing = conn)
    (writesOnly : ∀ written operation,
      (s.tasks task).writes now outcome = some (written, operation) →
        written = conn) (other : Nat) :
    TaskOperation s ((s.setDevice conn device).setTask task position) task now
      outcome other := by
  have deviceEq : ((s.setDevice conn device).setTask task position).device other =
      if other = conn then device else s.device other := by
    change (s.setDevice conn device).device other = _
    rw [setDevice, device_setSession]
  by_cases same : other = conn
  · subst same
    rw [if_pos rfl] at deviceEq
    exact own deviceEq
  · rw [if_neg same] at deviceEq
    refine .untouched deviceEq ?_ ?_
    · intro closing
      exact same (closesOnly other closing)
    · intro operation written
      exact same (writesOnly other operation written)

theorem taskOperation_disconnect {now : Nat} {outcome : TransportOutcome}
    {reason : UInt8} {position : Task} (notClosing : (s.tasks task).closes = none)
    (sends : (s.tasks task).writes now outcome =
      some (conn, .sendDisconnect reason now outcome))
    (closesNext : position.closes = some conn) (other : Nat) :
    TaskOperation s ((s.setDevice conn ((s.device conn).sendDisconnect reason now
      outcome)).setTask task position) task now outcome other := by
  apply taskOperation_setDevice
  · intro sent
    refine .disconnect reason sends sent ?_
    rwa [tasks_setTask, if_pos rfl]
  · rw [notClosing]
    nofun
  · rw [sends]
    rintro written operation ⟨⟩
    rfl

theorem taskOperation_close {now : Nat} {outcome : TransportOutcome}
    {position : Task} (closing : (s.tasks task).closes = some conn)
    (other : Nat) :
    TaskOperation s ((s.setDevice conn (s.device conn).close).setTask task
      position) task now outcome other := by
  apply taskOperation_setDevice (.close · closing)
  · rw [closing]
    rintro closed ⟨⟩
    rfl
  · rw [Task.writes_of_closes closing]
    rintro written operation ⟨⟩

theorem device_closeAll (s : ServerSystem) (other : Nat) :
    s.closeAll.device other = s.device other ∨
      s.closeAll.device other =
        { s.device other with conn := (s.device other).conn.close } := by
  simp only [device, closeAll]
  split
  case h_5 => exact .inr rfl
  all_goals exact .inl rfl

theorem taskOperation_of_proceed {now : Nat} {outcome : TransportOutcome}
    (proceeded : s.proceed task now outcome = some next) (other : Nat) :
    TaskOperation s next task now outcome other := by
  have idle (notClosing : (s.tasks task).closes = none)
      (notWriting : (s.tasks task).writes now outcome = none)
      (same : next.device other = s.device other) :
      TaskOperation s next task now outcome other := by
    refine .untouched same ?_ ?_
    · rw [notClosing]
      exact (Option.some_ne_none other).symm
    · rw [notWriting]
      rintro operation ⟨⟩
  cases current : s.tasks task with
  | idle | finished =>
      simp only [proceed, current] at proceeded
      cases proceeded
  | pushFound | kickFound | shutdownWaiting =>
      simp only [proceed, current] at proceeded
      split at proceeded <;> cases proceeded
      all_goals exact idle (by rw [current]; rfl) (by rw [current]; rfl) rfl
  | kickRemoving | kickNotifying | shutdownListing =>
      simp only [proceed, current] at proceeded
      cases proceeded
      exact idle (by rw [current]; rfl) (by rw [current]; rfl) rfl
  | pushWriting conn payload =>
      simp only [proceed, current] at proceeded
      cases proceeded
      apply taskOperation_setDevice (.push payload current)
      · rw [current]
        rintro closing ⟨⟩
      · rw [current]
        rintro written operation ⟨⟩
        rfl
  | kickSending | takeoverSending | reapSending =>
      simp only [proceed, current] at proceeded
      cases proceeded
      exact taskOperation_disconnect (by rw [current]; rfl) (by rw [current]; rfl)
        rfl other
  | kickClosing | takeoverClosing | reapClosing | shutdownClosing =>
      simp only [proceed, current] at proceeded
      cases proceeded
      exact taskOperation_close (by rw [current]; rfl) other
  | shutdownSending remaining =>
      cases remaining with
      | cons conn remaining =>
          simp only [proceed, current] at proceeded
          cases proceeded
          exact taskOperation_disconnect (by rw [current]; rfl)
            (by rw [current]; rfl) rfl other
      | nil =>
          simp only [proceed, current] at proceeded
          cases proceeded
          rcases s.device_closeAll other with same | closed
          · exact idle (by rw [current]; rfl) (by rw [current]; rfl) same
          · exact .closeBelow closed (by rw [current]; rfl)

end ServerSystem

end Tasks

section Farewell

theorem SessionStep.handler_of_proceed {options : ServerOptions}
    {conn task now : Nat} {outcome : TransportOutcome} {session after : Session}
    (stepped : SessionStep options conn (.proceed task now outcome) session
      after) : after.handler = session.handler := by
  cases stepped with
  | unreadable isRead => exact isRead.elim nofun nofun
  | receive isRead => exact isRead.elim nofun nofun
  | _ => rfl

namespace ServerSystem

open DeviceConnection

variable {options : ServerOptions} {s next : ServerSystem} {conn task : Nat}
  {event : ServerEvent}

/-- Somebody has still to close the connection: a task behind its
`SendDisconnect`, or the handler behind its loop. -/
def ClosePending (s : ServerSystem) (conn : Nat) : Prop :=
  (∃ task, (s.tasks task).closes = some conn) ∨
    ∃ serverKp, s.handler conn = .closing serverKp

structure Attended (s : ServerSystem) : Prop where
  sessions : ∀ conn, (s.sessions conn).Attended
  pending : ∀ conn, (s.device conn).Dismissed →
    (s.device conn).conn.closed = true ∨ s.ClosePending conn

theorem initial_attended : initial.Attended where
  sessions := fun _ => ⟨rfl, rfl⟩
  pending := by
    rintro conn ⟨delivery, isWritten, -⟩
    cases isWritten

theorem ClosePending.proceed {now : Nat} {outcome : TransportOutcome}
    (pending : s.ClosePending conn)
    (proceeded : s.proceed task now outcome = some next)
    (notClosing : (s.tasks task).closes ≠ some conn) :
    next.ClosePending conn := by
  rcases pending with ⟨other, closes⟩ | ⟨serverKp, closing⟩
  · have different : other ≠ task := by
      rintro rfl
      exact notClosing closes
    refine .inl ⟨other, ?_⟩
    rwa [tasks_of_proceed proceeded, Function.update_of_ne different]
  · have sameHandler := (@sessionStep_of_proceed newServerOptions s next task now
      outcome proceeded conn).handler_of_proceed
    exact .inr ⟨serverKp, sameHandler.trans closing⟩

theorem Attended.pending_of_proceed (attended : s.Attended) {now : Nat}
    {outcome : TransportOutcome}
    (proceeded : s.proceed task now outcome = some next)
    (dismissed : (next.device conn).Dismissed) :
    (next.device conn).conn.closed = true ∨ next.ClosePending conn := by
  cases taskOperation_of_proceed proceeded conn with
  | untouched same notClosing =>
      rw [same] at dismissed ⊢
      exact (attended.pending conn dismissed).imp_right
        (·.proceed proceeded notClosing)
  | push payload position written =>
      rw [written] at dismissed ⊢
      rcases attended.pending conn (dismissed_of_write dismissed) with
        closed | pending
      · exact .inl ((Operated.write payload now outcome).closed_stays closed)
      · exact .inr (pending.proceed proceeded (by rw [position]; nofun))
  | disconnect reason sends sent closesNext =>
      exact .inr (.inl ⟨task, closesNext⟩)
  | close closed =>
      rw [closed] at dismissed ⊢
      have before : (s.device conn).Dismissed := by
        rwa [Dismissed, close_writes] at dismissed
      exact .inl (closed_of_close
        ((attended.sessions conn).made_of_dismissed before))
  | closeBelow closed =>
      rw [closed]
      exact .inl rfl

theorem Attended.pending_of_handler (attended : s.Attended)
    (stepped : step options s event = some next)
    (notProceed : ∀ task now outcome, event ≠ .proceed task now outcome)
    (dismissed : (next.device conn).Dismissed) :
    (next.device conn).conn.closed = true ∨ next.ClosePending conn := by
  rcases (sessionStep_of_step stepped conn).dismissed (attended.sessions conn)
    notProceed dismissed with closed | closing | ⟨before, isOpen, notClosing⟩
  · exact .inl closed
  · exact .inr (.inr closing)
  · rcases attended.pending conn before with
      closed | ⟨task, closes⟩ | ⟨serverKp, closing⟩
    · cases isOpen.symm.trans closed
    · have busy : s.tasks task ≠ .idle := by
        intro isIdle
        rw [isIdle] at closes
        cases closes
      refine .inr (.inl ⟨task, ?_⟩)
      rwa [task_stays stepped busy (notProceed task)]
    · exact absurd closing (notClosing serverKp)

theorem Attended.step (attended : s.Attended)
    (stepped : step options s event = some next) : next.Attended where
  sessions := fun conn =>
    (attended.sessions conn).step (sessionStep_of_step stepped conn)
  pending := by
    intro conn dismissed
    cases event with
    | proceed task now outcome =>
        exact attended.pending_of_proceed stepped dismissed
    | _ => exact attended.pending_of_handler stepped nofun dismissed

def DisconnectsLast (s : ServerSystem) : Prop :=
  ∀ conn, (s.device conn).DisconnectIsLast

/-- The step makes no write on the connection, or one that is kept off the
wire: by the active flag, by the connection below, or by a transport that takes
nothing.  A CONNACK need not be named, as it is the first frame of all. -/
def KeptOff (s : ServerSystem) (conn : Nat) : ServerEvent → Prop
  | .proceed task now outcome => ∀ operation,
      (s.tasks task).writes now outcome = some (conn, operation) →
        (s.device conn).Silent operation
  | .answer own now outcome => own = conn → (s.handler conn).answers = true →
      (s.device conn).conn.closed = true ∨ (s.device conn).conn.Expired now ∨
        outcome = .part 0
  | _ => True

/-- The step is kept off every connection that has a DISCONNECT on it and is
still to be closed by the goroutine that sent one. -/
def SparesDismissed (s : ServerSystem) (event : ServerEvent) : Prop :=
  ∀ conn, (s.device conn).Dismissed → s.ClosePending conn → s.KeptOff conn event

/-- A push that returns no error is ahead of any DISCONNECT. -/
def PushesAhead (s : ServerSystem) : ServerEvent → Prop
  | .proceed task now outcome => ∀ conn payload,
      s.tasks task = .pushWriting conn payload →
        ((s.device conn).write payload now outcome).1 = .ok () →
          ¬ (s.device conn).Dismissed
  | _ => True

theorem keptOff_of_not_writing {now : Nat} {outcome : TransportOutcome}
    (notWriting : ∀ operation,
      (s.tasks task).writes now outcome ≠ some (conn, operation)) :
    s.KeptOff conn (.proceed task now outcome) := by
  intro operation writes
  exact absurd writes (notWriting operation)

theorem keptOff_iff_silent {now : Nat} {outcome : TransportOutcome}
    {operation : WireOperation}
    (writes : (s.tasks task).writes now outcome = some (conn, operation)) :
    s.KeptOff conn (.proceed task now outcome) ↔
      (s.device conn).Silent operation := by
  simp only [KeptOff, writes, Option.some.injEq, Prod.mk.injEq, true_and, forall_eq']

/-- A task adds at most one frame to a connection, and it is kept off exactly if
no byte is added. -/
theorem extends_of_proceed {now : Nat} {outcome : TransportOutcome}
    (proceeded : s.proceed task now outcome = some next) (conn : Nat) :
    ∃ added, (s.device conn).Extends (next.device conn) added ∧
      (s.KeptOff conn (.proceed task now outcome) ↔
        ∀ delivery, added = some delivery → delivery.taken = 0) := by
  cases taskOperation_of_proceed proceeded conn with
  | untouched same notClosing notWriting =>
      have kept := keptOff_of_not_writing notWriting
      rw [same]
      exact ⟨none, .refl _, iff_of_true kept nofun⟩
  | push payload position written =>
      have writes : (s.tasks task).writes now outcome =
          some (conn, .write payload now outcome) := by
        rw [position]
        rfl
      rw [written]
      exact ⟨_, extends_perform _ (.write payload now outcome),
        (keptOff_iff_silent writes).trans silent_iff⟩
  | disconnect reason sends sent closesNext =>
      rw [sent]
      exact ⟨_, extends_perform _ (.sendDisconnect reason now outcome),
        (keptOff_iff_silent sends).trans silent_iff⟩
  | close closed closing =>
      have kept : s.KeptOff conn (.proceed task now outcome) := by
        apply keptOff_of_not_writing
        rw [Task.writes_of_closes closing]
        rintro operation ⟨⟩
      rw [closed]
      exact ⟨none, (Extends.refl _).congr (close_writes _), iff_of_true kept nofun⟩
  | closeBelow closed notWriting =>
      have kept : s.KeptOff conn (.proceed task now outcome) := by
        apply keptOff_of_not_writing
        rw [notWriting]
        rintro operation ⟨⟩
      rw [closed]
      exact ⟨none, (Extends.refl _).congr rfl, iff_of_true kept nofun⟩

/-- A step adds at most one frame to a connection.  If the connection has a
DISCONNECT on it, the step is kept off exactly if no byte is added. -/
theorem Attended.extends (attended : s.Attended)
    (stepped : ServerSystem.step options s event = some next) (conn : Nat) :
    ∃ added, (s.device conn).Extends (next.device conn) added ∧
      ((s.device conn).Dismissed → (s.KeptOff conn event ↔
        ∀ delivery, added = some delivery → delivery.taken = 0)) := by
  have handled := sessionStep_of_step stepped conn
  have quiet (notProceed : ∀ task now outcome, event ≠ .proceed task now outcome)
      (notAnswer : ∀ now outcome, event ≠ .answer conn now outcome)
      (kept : s.KeptOff conn event) :
      ∃ added, (s.device conn).Extends (next.device conn) added ∧
        ((s.device conn).Dismissed → (s.KeptOff conn event ↔
          ∀ delivery, added = some delivery → delivery.taken = 0)) := by
    obtain ⟨added, extended, nothing⟩ := handled.extends_of_quiet
      (attended.sessions conn) notProceed notAnswer
    refine ⟨added, extended, ?_⟩
    intro dismissed
    rw [nothing dismissed]
    exact iff_of_true kept nofun
  cases event with
  | proceed task now outcome =>
      obtain ⟨added, extended, kept⟩ := extends_of_proceed stepped conn
      exact ⟨added, extended, fun _ => kept⟩
  | answer own now outcome =>
      by_cases same : own = conn
      · subst same
        obtain ⟨answers, packet, extended⟩ := handled.extends_of_answer
        refine ⟨_, extended, fun _ => ?_⟩
        rw [taken_eq_zero_iff]
        exact ⟨fun kept => kept rfl answers, fun taken _ _ => taken⟩
      · refine quiet nofun ?_ (fun own => absurd own same)
        rintro _ _ ⟨⟩
        exact same rfl
  | _ => exact quiet nofun nofun trivial

/-- No step but those of `SparesDismissed` puts a frame behind a DISCONNECT, as
a connection with a DISCONNECT on it is closed or about to be. -/
theorem Attended.disconnectsLast_iff (attended : s.Attended)
    (stepped : ServerSystem.step options s event = some next) :
    next.DisconnectsLast ↔ s.DisconnectsLast ∧ s.SparesDismissed event := by
  constructor
  · intro last
    refine ⟨?_, ?_⟩
    · intro conn
      obtain ⟨added, extended, -⟩ := attended.extends stepped conn
      exact (extended.disconnectIsLast_iff.mp (last conn)).1
    · intro conn dismissed _
      obtain ⟨added, extended, kept⟩ := attended.extends stepped conn
      exact (kept dismissed).mpr
        ((extended.disconnectIsLast_iff.mp (last conn)).2 dismissed)
  · rintro ⟨last, spares⟩ conn
    obtain ⟨added, extended, kept⟩ := attended.extends stepped conn
    refine extended.disconnectIsLast_iff.mpr ⟨last conn, ?_⟩
    intro dismissed delivery isAdded
    rcases attended.pending conn dismissed with closed | pending
    · cases (extended.open_of_added delivery isAdded).symm.trans closed
    · exact (kept dismissed).mp (spares conn dismissed pending) delivery isAdded

theorem Attended.pushesAhead (attended : s.Attended)
    (spares : s.SparesDismissed event) : s.PushesAhead event := by
  cases event with
  | proceed task now outcome =>
      intro conn payload position succeeded dismissed
      apply not_silent_of_write_ok succeeded
      rcases attended.pending conn dismissed with closed | pending
      · exact .inr (.inl closed)
      · exact spares conn dismissed pending _ (by rw [position]; rfl)
  | _ => trivial

/-- In a run, a DISCONNECT is always the last frame on its connection, and every
push that returns no error is ahead of it, exactly if no goroutine in front of a
write makes it while a DISCONNECT is on the connection and the goroutine that
sent it is in front of its `Close`. -/
theorem disconnect_is_last_word_iff (options : ServerOptions)
    (events : List ServerEvent) :
    (EventRun.Always (step options) DisconnectsLast initial events ∧
        EventRun.Meets (step options) PushesAhead initial events) ↔
      EventRun.Meets (step options) SparesDismissed initial events := by
  have lastIff : EventRun.Always (step options) DisconnectsLast initial events ↔
      EventRun.Meets (step options) SparesDismissed initial events := by
    refine EventRun.always_iff_meets
      (fun s => s.Attended ∧ s.DisconnectsLast) And.right ?_ ?_ ?_
    · rintro s next event ⟨attended, last⟩ spares stepped
      exact ⟨attended.step stepped,
        (attended.disconnectsLast_iff stepped).mpr ⟨last, spares⟩⟩
    · rintro s next event ⟨attended, -⟩ violated stepped last
      exact violated ((attended.disconnectsLast_iff stepped).mp last).2
    · exact ⟨initial_attended, fun _ => .nil⟩
  constructor
  · intro holds
    exact lastIff.mp holds.1
  · intro spares
    refine ⟨lastIff.mpr spares, ?_⟩
    exact EventRun.Meets.mono Attended Attended.step Attended.pushesAhead
      initial_attended spares

/-- A push has looked its connection up, the handler has read a PINGREQ and the
keepalive timer has fired when a kick sends its DISCONNECT: the push, the
PINGRESP and a second DISCONNECT follow it, and the push returns no error. -/
theorem frames_follow_disconnect :
    ∃ s finish, EventRun.run (step newServerOptions) initial
        [.accept 0 (ControlPacket.frame (.connect
            ⟨.ofType MessageType.connect, 0x637a7175, 1, 0, 30, [100]⟩) ++
            ControlPacket.frame (.pingreq ⟨.ofType MessageType.pingreq⟩)),
          .enter 0, .track 0, .read 0, .greet 0 0 .whole, .register 0,
          .establish 0, .read 0, .push 1 [100] [7], .proceed 1 0 .whole,
          .kick 2 [100] 1, .proceed 2 0 .whole, .reap 3 0,
          .proceed 2 0 .whole] = some s ∧
      s.tasks 1 = .pushWriting 0 [7] ∧
      ((s.device 0).write [7] 1 .whole).1 = .ok () ∧
      EventRun.run (step newServerOptions) s
        [.proceed 1 1 .whole, .answer 0 1 .whole, .proceed 3 1 .whole] =
          some finish ∧
      (finish.device 0).conn.writes.map
          (fun delivery => (delivery.message, decide delivery.Complete)) =
        [(connackPacket ReturnCode.accepted 30, true), (disconnectPacket 1, true),
          (pushPacket [7], true), (pingrespPacket, true),
          (disconnectPacket Reason.keepaliveTimeout, true)] := by
  have outcome : ((EventRun.run (step newServerOptions) initial
      [.accept 0 (ControlPacket.frame (.connect
          ⟨.ofType MessageType.connect, 0x637a7175, 1, 0, 30, [100]⟩) ++
          ControlPacket.frame (.pingreq ⟨.ofType MessageType.pingreq⟩)),
        .enter 0, .track 0, .read 0, .greet 0 0 .whole, .register 0,
        .establish 0, .read 0, .push 1 [100] [7], .proceed 1 0 .whole,
        .kick 2 [100] 1, .proceed 2 0 .whole, .reap 3 0,
        .proceed 2 0 .whole]).bind fun s =>
      (EventRun.run (step newServerOptions) s
        [.proceed 1 1 .whole, .answer 0 1 .whole, .proceed 3 1 .whole]).map
          fun finish => (s.tasks 1,
            decide (((s.device 0).write [7] 1 .whole).1.toOption = some ()),
            (finish.device 0).conn.writes.map
              (fun delivery => (delivery.message, decide delivery.Complete)))) =
      some (.pushWriting 0 [7], true,
        [(connackPacket ReturnCode.accepted 30, true),
          (disconnectPacket 1, true), (pushPacket [7], true),
          (pingrespPacket, true),
          (disconnectPacket Reason.keepaliveTimeout, true)]) := by
    decide +kernel
  obtain ⟨s, executed, outcome⟩ := Option.bind_eq_some_iff.mp outcome
  obtain ⟨finish, continued, facts⟩ := Option.map_eq_some_iff.mp outcome
  simp only [Prod.mk.injEq, decide_eq_true_eq] at facts
  refine ⟨s, finish, executed, facts.1, ?_, continued, facts.2.2⟩
  cases result : ((s.device 0).write [7] 1 .whole).1 with
  | error failure =>
      rw [result] at facts
      cases facts.2.1
  | ok _ => rfl

end ServerSystem

end Farewell

end Server

end RmttGo
