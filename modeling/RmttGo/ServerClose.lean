import Mathlib.Data.Finset.Card
import RmttGo.ServerRecords
import RmttGo.SingleSession

/-!
# What `Close` leaves behind

`Close` stops the listeners, disconnects the stored devices, closes the tracked
connections and waits for the handlers.  A handler joins the wait group itself,
as its first action, so the wait can end while a connection that a listener has
accepted is not yet past that action.  `Close` is complete exactly when there is
none.
-/

namespace RmttGo

namespace Server

open Codec

/-- `handleConnection` is between its `wg.Add(1)` and `wg.Done()`. -/
def Handler.running : Handler → Bool
  | .unaccepted | .accepted | .returned => false
  | _ => true

/-- A call of `Close` that has stopped the listeners. -/
def Task.ofClose : Task → Bool
  | .shutdownListing | .shutdownSending _ | .shutdownClosing _ _
  | .shutdownWaiting => true
  | _ => false

section Positions

variable {options : ServerOptions} {conn : Nat} {event : ServerEvent}
  {session after : Session}

/-- A handler starts to run by entering and stops by leaving. -/
theorem SessionStep.running_iff
    (stepped : SessionStep options conn event session after) :
    after.handler.running = true ↔
      event = .enter conn ∨
        (session.handler.running = true ∧ event ≠ .leave conn) := by
  cases stepped with
  | untouched notOwn =>
      have notEnter : event ≠ .enter conn := by
        rintro rfl
        exact notOwn rfl
      have notLeave : event ≠ .leave conn := by
        rintro rfl
        exact notOwn rfl
      simp [notEnter, notLeave]
  | greeted position isRead =>
      cases greet options _ <;>
        simp [position, Session.greeted, Session.abandon, Handler.running]
  | unreadable isRead position =>
      rcases isRead with rfl | rfl <;>
        simp [position, Session.abandon, Handler.running]
  | register position registers =>
      cases registers <;> simp [position, Handler.running]
  | receive isRead position goesOn =>
      rcases isRead with rfl | rfl <;> cases goesOn <;>
        simp [position, Handler.running]
  | operate operated => simp
  | closeBelow tracked => simp
  | welcome position sent => simp [position, Handler.running]
  | _ position => simp [position, Session.abandon, Handler.running]

theorem SessionStep.closed_of_accepted
    (stepped : SessionStep options conn event session after)
    (position : after.handler = .accepted)
    (before : session.handler = .accepted →
      session.device.active = false ∧ session.device.conn.closed = false) :
    after.device.conn.closed = false := by
  cases stepped with
  | untouched => exact (before position).2
  | accept => rfl
  | operate operated =>
      rw [operated.eq_of_inactive (before position).1]
      exact (before position).2
  | closeBelow tracked =>
      have accepted : session.handler = .accepted := position
      rw [accepted] at tracked
      cases tracked
  | greeted =>
      generalize greet options _ = greeting at position
      cases greeting <;> cases position
  | register _ registers => cases registers <;> cases position
  | receive _ _ goesOn => cases goesOn <;> cases position
  | _ => cases position

theorem SessionStep.returned_stays
    (stepped : SessionStep options conn event session after)
    (position : session.handler = .returned) : after.handler = .returned := by
  cases stepped
  case untouched | operate | closeBelow => exact position
  all_goals cases position.symm.trans ‹session.handler = _›

end Positions

namespace ServerSystem

variable {options : ServerOptions} {s next : ServerSystem} {conn task : Nat}
  {event : ServerEvent}

structure Waitable (s : ServerSystem) : Prop where
  sound : s.Sound
  /-- The wait group has the right count. -/
  counted : ∃ entered : Finset Nat,
    (∀ conn, conn ∈ entered ↔ (s.handler conn).running = true) ∧
      entered.card = s.running
  stopped : ∀ task, (s.tasks task).ofClose = true → s.listening = false
  /-- Nobody can close a connection before its handler has entered. -/
  untouched : ∀ conn, s.handler conn = .accepted →
    (s.device conn).conn.closed = false

theorem initial_waitable : initial.Waitable where
  sound := initial_sound
  counted := ⟨∅, by simp [initial, handler, Handler.running]⟩
  stopped := nofun
  untouched := nofun

namespace Waitable

theorem counted_step (waitable : s.Waitable)
    (stepped : step options s event = some next) :
    ∃ entered : Finset Nat,
      (∀ conn, conn ∈ entered ↔ (next.handler conn).running = true) ∧
        entered.card = next.running := by
  obtain ⟨entered, members, card⟩ := waitable.counted
  have moves : ∀ conn, (next.handler conn).running = true ↔
      event = .enter conn ∨
        ((s.handler conn).running = true ∧ event ≠ .leave conn) := fun conn =>
    (sessionStep_of_step stepped conn).running_iff
  have count := (counters_of_step stepped).1
  cases event with
  | enter conn =>
      obtain ⟨position, _⟩ := Option.ite_none_right_eq_some.mp stepped
      have outside : conn ∉ entered := by
        rw [members, position]
        nofun
      refine ⟨insert conn entered, ?_, ?_⟩
      · intro other
        rw [moves, Finset.mem_insert, members, eq_comm]
        simp
      · rw [Finset.card_insert_of_notMem outside, card, count]
  | leave conn =>
      obtain ⟨position, _⟩ := Option.ite_none_right_eq_some.mp stepped
      have inside : conn ∈ entered := by
        rw [members, position]
        rfl
      refine ⟨entered.erase conn, ?_, ?_⟩
      · intro other
        rw [moves, Finset.mem_erase, members, and_comm, ne_comm]
        simp
      · rw [Finset.card_erase_of_mem inside, card, count]
  | _ =>
      refine ⟨entered, ?_, card.trans count.symm⟩
      intro other
      rw [moves, members]
      simp

theorem stopped_step (waitable : s.Waitable)
    (stepped : step options s event = some next) (task : Nat)
    (closing : (next.tasks task).ofClose = true) : next.listening = false := by
  have own := taskStep_of_step stepped task
  have kept : s.listening = false → next.listening = false := by
    intro stopped
    rw [(counters_of_step stepped).2, stopped]
    cases event <;> rfl
  generalize next.tasks task = position at own closing
  cases own with
  | untouched => exact kept (waitable.stopped task closing)
  | shutdown => exact (counters_of_step stepped).2
  | proceed =>
      apply kept
      apply waitable.stopped task
      cases current : s.tasks task with
      | pushFound conn payload =>
          rw [current, follow] at closing
          split at closing <;> cases closing
      | kickFound deviceID conn reason =>
          rw [current, follow] at closing
          split at closing <;> cases closing
      | _ =>
          rw [current] at closing
          first | rfl | cases closing
  | _ => cases closing

theorem step (waitable : s.Waitable)
    (stepped : step options s event = some next) : next.Waitable where
  sound := waitable.sound.step stepped
  counted := waitable.counted_step stepped
  stopped := waitable.stopped_step stepped
  untouched := by
    intro conn position
    apply (sessionStep_of_step stepped conn).closed_of_accepted position
    intro accepted
    refine ⟨?_, waitable.untouched conn accepted⟩
    by_contra active
    have serves := waitable.sound.serves conn (Bool.eq_true_of_not_eq_false active)
    rw [show s.handler conn = .accepted from accepted] at serves
    cases serves

theorem not_running (waitable : s.Waitable) (nobody : s.running = 0)
    (conn : Nat) : (s.handler conn).running = false := by
  obtain ⟨entered, members, card⟩ := waitable.counted
  rw [nobody, Finset.card_eq_zero] at card
  by_contra running
  have member := (members conn).mpr (Bool.eq_true_of_not_eq_false running)
  rw [card] at member
  cases member

end Waitable

section AfterClose

/-- No handler can run any more. -/
structure Over (s : ServerSystem) : Prop where
  handlers : ∀ conn, s.handler conn = .unaccepted ∨ s.handler conn = .returned
  stopped : s.listening = false

theorem Over.step (isOver : s.Over) (stepped : step options s event = some next) :
    next.Over where
  handlers := by
    intro conn
    have own := sessionStep_of_step stepped conn
    rcases isOver.handlers conn with unaccepted | returned
    · rcases own.unaccepted_or_accept unaccepted with still | ⟨inbound, rfl, _⟩
      · exact .inl still
      · obtain ⟨⟨listening, _⟩, _⟩ := Option.ite_none_right_eq_some.mp stepped
        cases isOver.stopped.symm.trans listening
    · exact .inr (own.returned_stays returned)
  stopped := by
    rw [(counters_of_step stepped).2, isOver.stopped]
    cases event <;> rfl

theorem Over.records_eq (isOver : s.Over)
    (stepped : ServerSystem.step options s event = some next) :
    next.registrations = s.registrations ∧ next.messages = s.messages := by
  constructor
  · rcases (records_of_step stepped).2.1 with same | ⟨conn, _, _, position, _⟩
    · exact same
    · rcases isOver.handlers conn with exited | exited
      all_goals cases exited.symm.trans position
  · rcases (records_of_step stepped).2.2 with same | ⟨conn, _, _, _, position, _⟩
    · exact same
    · rcases isOver.handlers conn with exited | exited
      all_goals cases exited.symm.trans position

/-- What `Close` promises about a state behind its return. -/
structure CompleteSince (returned s : ServerSystem) : Prop where
  idle : ∀ conn, (s.handler conn).running = true →
    (s.device conn).conn.closed = true
  registrations : s.registrations = returned.registrations
  messages : s.messages = returned.messages

theorem Over.completeSince (isOver : s.Over) {later : List ServerEvent}
    {final : ServerSystem}
    (executed : EventRun.run (ServerSystem.step options) s later = some final) :
    s.CompleteSince final := by
  have kept := EventRun.invariant
    (fun final => final.Over ∧ final.registrations = s.registrations ∧
      final.messages = s.messages)
    (fun holds stepped => by
      obtain ⟨registrations, messages⟩ := holds.1.records_eq stepped
      exact ⟨holds.1.step stepped, registrations.trans holds.2.1,
        messages.trans holds.2.2⟩)
    ⟨isOver, rfl, rfl⟩ executed
  refine ⟨?_, kept.2.1, kept.2.2⟩
  intro conn running
  rcases kept.1.handlers conn with exited | exited
  all_goals
    rw [exited] at running
    cases running

theorem close_complete_iff {events : List ServerEvent} {now : Nat}
    {outcome : TransportOutcome}
    (executed : EventRun.run (ServerSystem.step options) initial events = some s)
    (waiting : s.tasks task = .shutdownWaiting)
    (returns : ServerSystem.step options s (.proceed task now outcome) =
      some next) :
    ((∀ conn, (next.handler conn).running = false) ∧
        ∀ later final,
          EventRun.run (ServerSystem.step options) next later = some final →
            next.CompleteSince final) ↔
      ∀ conn, s.handler conn ≠ .accepted := by
  have waitable : s.Waitable :=
    EventRun.invariant Waitable (fun waitable => waitable.step) initial_waitable
      executed
  simp only [ServerSystem.step, proceed, waiting] at returns
  obtain ⟨nobody, ⟨⟩⟩ := Option.ite_none_right_eq_some.mp returns
  have idle := waitable.not_running nobody
  constructor
  · intro complete conn accepted
    have entering : EventRun.run (ServerSystem.step options)
        (s.setTask task .finished) [.enter conn] = some
          ({ s.setTask task .finished with
            running := s.running + 1 }.setHandler conn .entered) := by
      have enabled : (s.setTask task .finished).handler conn = .accepted :=
        accepted
      simp only [EventRun.run, ServerSystem.step, enabled, if_true]
      rfl
    have closed := (complete.2 _ _ entering).idle conn (by
      simp [setHandler, Handler.running])
    have isOpen := waitable.untouched conn accepted
    rw [setHandler, device_setSession, if_pos rfl] at closed
    cases isOpen.symm.trans closed
  · intro entered
    refine ⟨idle, ?_⟩
    intro later final continued
    refine Over.completeSince ⟨?_, ?_⟩ continued
    · intro conn
      have notRunning := idle conn
      have notAccepted := entered conn
      change s.handler conn = .unaccepted ∨ s.handler conn = .returned
      cases position : s.handler conn
      all_goals simp_all [Handler.running]
    · exact waitable.stopped task (by rw [waiting]; rfl)

/-- `Close` comes while a handler waits for its CONNECT: it closes the
connection and waits for the handler to leave. -/
theorem close_complete_of_tracked :
    ∃ s next, EventRun.run (ServerSystem.step newServerOptions) initial
        [.accept 0 [], .enter 0, .track 0, .shutdown 0, .proceed 0 0 .whole,
          .proceed 0 0 .whole, .readFails 0, .leave 0] = some s ∧
      ServerSystem.step newServerOptions s (.proceed 0 0 .whole) = some next ∧
      ∀ later final, EventRun.run (ServerSystem.step newServerOptions) next
        later = some final → next.CompleteSince final := by
  have outcome : (EventRun.run (ServerSystem.step newServerOptions) initial
      [.accept 0 [], .enter 0, .track 0, .shutdown 0, .proceed 0 0 .whole,
        .proceed 0 0 .whole, .readFails 0, .leave 0]).map
        (fun s => (s.tasks 0, s.running)) = some (.shutdownWaiting, 0) := rfl
  have allEntered : ∀ {s}, EventRun.run (ServerSystem.step newServerOptions)
      initial [.accept 0 [], .enter 0, .track 0, .shutdown 0,
        .proceed 0 0 .whole, .proceed 0 0 .whole, .readFails 0, .leave 0] =
          some s → ∀ conn, s.handler conn ≠ .accepted := by
    rintro s ⟨⟩ (_ | conn) <;> nofun
  obtain ⟨s, executed, facts⟩ := Option.map_eq_some_iff.mp outcome
  have waiting : s.tasks 0 = .shutdownWaiting := congrArg Prod.fst facts
  have nobody : s.running = 0 := congrArg Prod.snd facts
  have returns : ServerSystem.step newServerOptions s (.proceed 0 0 .whole) =
      some (s.setTask 0 .finished) := by
    simp only [ServerSystem.step, proceed, waiting, nobody, if_true]
  exact ⟨s, _, executed, returns,
    ((close_complete_iff executed waiting returns).mpr
      (allEntered executed)).2⟩

/-- A listener has accepted a connection, whose handler comes to its `wg.Add(1)`
only when `Close` has returned: the device is registered by a closed server. -/
theorem registered_after_close :
    ∃ s next final,
      EventRun.run (ServerSystem.step newServerOptions) initial
        [.accept 0 (ControlPacket.frame (.connect
            ⟨.ofType MessageType.connect, 0x637a7175, 1, 0, 30, [100]⟩)),
          .shutdown 0, .proceed 0 0 .whole, .proceed 0 0 .whole] = some s ∧
      s.tasks 0 = .shutdownWaiting ∧
      ServerSystem.step newServerOptions s (.proceed 0 0 .whole) = some next ∧
      next.tasks 0 = .finished ∧
      EventRun.run (ServerSystem.step newServerOptions) next
        [.enter 0, .track 0, .read 0, .greet 0 1 .whole, .register 0] =
          some final ∧
      final.store.get [100] = some 0 ∧
      (final.device 0).conn.closed = false := by
  have outcome : ((EventRun.run (ServerSystem.step newServerOptions) initial
      [.accept 0 (ControlPacket.frame (.connect
          ⟨.ofType MessageType.connect, 0x637a7175, 1, 0, 30, [100]⟩)),
        .shutdown 0, .proceed 0 0 .whole, .proceed 0 0 .whole]).bind fun s =>
      (ServerSystem.step newServerOptions s (.proceed 0 0 .whole)).bind
        fun next => (EventRun.run (ServerSystem.step newServerOptions) next
          [.enter 0, .track 0, .read 0, .greet 0 1 .whole, .register 0]).map
            fun final => (s.tasks 0, next.tasks 0, final.store.get [100],
              (final.device 0).conn.closed)) =
      some (.shutdownWaiting, .finished, some 0, false) := by
    decide +kernel
  obtain ⟨s, executed, outcome⟩ := Option.bind_eq_some_iff.mp outcome
  obtain ⟨next, returns, outcome⟩ := Option.bind_eq_some_iff.mp outcome
  obtain ⟨final, continued, facts⟩ := Option.map_eq_some_iff.mp outcome
  simp only [Prod.mk.injEq] at facts
  exact ⟨s, next, final, executed, facts.1, returns, facts.2.1, continued,
    facts.2.2.1, facts.2.2.2⟩

end AfterClose

end ServerSystem

end Server

end RmttGo
