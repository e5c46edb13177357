import RmttGo.ReconnectFlag

/-!
# When `Disconnecting` reports that nothing is connected

`Disconnecting` returns `errAlreadyDisconnected` at once when the status is
disconnected, and otherwise after a wait for a channel that somebody else
closes.  What the close means depends on who made the channel: the end of a
teardown, or the end of a connection attempt that is being aborted.
-/

namespace RmttGo

namespace Client

open EventRun StatusSystem

/-- For each goroutine whose latest operation is `Disconnecting`, whether the
status has been disconnected at some moment of that operation. -/
def noteDisconnected (s : StatusSystem) (event : StatusEvent)
    (later : StatusSystem) (seen : Nat → Option Bool) (goroutine : Nat) :
    Option Bool :=
  if (s.calls goroutine).Ready then
    if event.actor = goroutine then
      match event with
      | .disconnecting _ =>
          some (decide (s.shared.status = .disconnected ∨
            later.shared.status = .disconnected))
      | _ => none
    else
      seen goroutine
  else
    (seen goroutine).map (· || decide (later.shared.status = .disconnected))

/-- Every `Disconnecting` that returned `errAlreadyDisconnected` has seen the
status disconnected. -/
def Truthful (s : StatusSystem × (Nat → Option Bool)) : Prop :=
  ∀ goroutine seen, s.2 goroutine = some seen →
    s.1.calls goroutine = .returned (.failure .alreadyDisconnected) →
      seen = true

/-- No disconnect joins another call in its wait for a connection attempt,
and none arrives while one that interrupted a reconnect waits. -/
def AwaitsTeardown (s : StatusSystem) : StatusEvent → Prop
  | .disconnecting _ =>
      s.shared.status = .disconnecting → ∀ other,
        (s.calls other).awaited ≠ some s.shared.actionCompleted ∧
          ∀ connectDone, s.calls other ≠ .awaitConnect connectDone .reconnecting
  | _ => True

/-- The channel belongs to a teardown that will end with the status
disconnected. -/
def Pending (s : StatusSystem) (channel : Nat) : Prop :=
  ∃ function, InPhase s (.tearingDown function) ∧
    s.shared.actionCompleted = some channel ∧ s.shared.willReconnect = false

theorem Pending.not_released {s : StatusSystem} {channel : Nat}
    (pending : Pending s channel) :
    ¬ s.shared.channels.Released (some channel) := by
  obtain ⟨function, inPhase, field, -⟩ := pending
  obtain ⟨open_, isField, isOpen⟩ := inPhase.channelOpen (by simp [Phase.outstanding])
  cases field.symm.trans isField
  exact isOpen.not_released

/-- A teardown nobody wants to follow by a reconnect stays as it is until its
completion function sets the status to disconnected. -/
theorem InPhase.teardown_step {s later : StatusSystem} {event : StatusEvent}
    {function : Completion} (inPhase : InPhase s (.tearingDown function))
    (cleared : s.shared.willReconnect = false) (stepTo : s.StepTo event later) :
    later.shared = s.shared ∧ later.outstanding = s.outstanding ∨
      later.shared.status = .disconnected := by
  obtain ⟨underWay, teardown⟩ := inPhase.allowed
  have isField : { s.shared with willReconnect := false } = s.shared := by
    rw [← cleared]
  cases stepTo with
  | connecting ready =>
      obtain ⟨error, refused⟩ :=
        ConnectionStatus.connecting_of_ne_disconnected
          (c := s.shared) (by simp [underWay])
      rw [refused]
      exact .inl ⟨rfl, rfl⟩
  | disconnecting ready =>
      rw [ConnectionStatus.disconnecting_of_disconnecting underWay, isField]
      exact .inl ⟨rfl, rfl⟩
  | connectionLost ready =>
      obtain ⟨error, refused⟩ :=
        ConnectionStatus.connectionLost_of_down (.inr underWay)
      rw [refused]
      exact .inl ⟨rfl, rfl⟩
  | @resume goroutine outcome resumed =>
      have notDriving := (inPhase.driving goroutine).not.mpr (by rintro ⟨⟩)
      generalize s.calls goroutine = call at resumed notDriving
      cases ConnectionStatus.resumed_of_resume resumed with
      | late released => exact .inl ⟨rfl, rfl⟩
      | _ => exact absurd trivial notDriving
  | @complete goroutine called argument outcome ready available completed =>
      obtain ⟨result, c⟩ := outcome
      rw [inPhase.outstanding] at available
      obtain rfl := List.mem_singleton.mp available
      cases ConnectionStatus.completed_of_complete completed with
      | aborted alreadyUnderWay => exact absurd rfl teardown
      | ended undecided => exact absurd rfl teardown
      | disconnected => exact .inr rfl
      | stopped stopped => exact .inr rfl
      | reconnecting wanted proceed => cases cleared.symm.trans wanted
  | panic ready available completed => exact .inl ⟨rfl, rfl⟩

theorem Pending.next {s later : StatusSystem} {event : StatusEvent}
    {channel : Nat} (pending : Pending s channel) (stepTo : s.StepTo event later) :
    Pending later channel ∨ later.shared.status = .disconnected := by
  obtain ⟨function, inPhase, field, cleared⟩ := pending
  rcases inPhase.teardown_step cleared stepTo with ⟨shared, outstanding⟩ | done
  · obtain ⟨target, moves, inTarget⟩ := inPhase.next stepTo
    have owed : target.outstanding = [function] := by
      rw [← inTarget.outstanding, outstanding, inPhase.outstanding]
      rfl
    have sameTarget : target = .tearingDown function := by
      cases moves <;> first | rfl | cases owed
    subst sameTarget
    refine .inl ⟨function, inTarget, ?_, ?_⟩
    · rw [shared, field]
    · rw [shared, cleared]
  · exact .inr done

/-- What the log says about a goroutine, given where it stands. -/
inductive Informed (s : StatusSystem) : Call → Option Bool → Prop
  | unlogged {call : Call}
      (notWaiting : ∀ channel, call ≠ .awaitDisconnect channel) :
      Informed s call none
  | seen {call : Call} : Informed s call (some true)
  | pending {channel : Nat} (pending : Pending s channel) :
      Informed s (.awaitDisconnect (some channel)) (some false)
  | forever : Informed s (.awaitDisconnect none) (some false)
  | interrupting {connectDone : Option Nat} {prevStatus : Status} :
      Informed s (.awaitConnect connectDone prevStatus) (some false)
  | relocking : Informed s .relock (some false)
  | finished {result : Return}
      (other : result ≠ .failure .alreadyDisconnected) :
      Informed s (.returned result) (some false)

namespace Informed

variable {s later : StatusSystem} {event : StatusEvent} {call : Call}
  {seen : Option Bool}

theorem or_seen (informed : Informed s call (some false)) (now : Bool) :
    Informed s call (some (false || now)) := by
  cases now with
  | false => exact informed
  | true => exact .seen

/-- The step of another goroutine. -/
theorem bystander (informed : Informed s call seen)
    (stepTo : s.StepTo event later) :
    Informed later call
      (seen.map (· || decide (later.shared.status = .disconnected))) := by
  cases informed with
  | unlogged notWaiting => exact .unlogged notWaiting
  | seen => exact .seen
  | pending pending =>
      rcases pending.next stepTo with goesOn | disconnected
      · exact or_seen (.pending goesOn) _
      · simpa [disconnected] using Informed.seen
  | forever => exact or_seen .forever _
  | interrupting => exact or_seen .interrupting _
  | relocking => exact or_seen .relocking _
  | finished other => exact or_seen (.finished other) _

theorem of_ready (informed : Informed s call seen) (ready : call.Ready) :
    Informed later call seen := by
  cases informed with
  | unlogged notWaiting => exact .unlogged notWaiting
  | seen => exact .seen
  | finished other => exact .finished other
  | pending pending => cases ready
  | forever => cases ready
  | interrupting => cases ready
  | relocking => cases ready

theorem disconnecting {phase : Phase} {goroutine : Nat}
    (inPhase : InPhase s phase) (ready : (s.calls goroutine).Ready)
    (awaits : AwaitsTeardown s (.disconnecting goroutine)) :
    Informed (s.record goroutine s.shared.disconnecting)
      s.shared.disconnecting.1
      (some (decide (s.shared.status = .disconnected ∨
        s.shared.disconnecting.2.status = .disconnected))) := by
  rcases s.shared.status.down_or_trying_or_connected with
    (disconnected | underWay) | trying | isConnected
  · simpa [disconnected] using Informed.seen
  · rw [ConnectionStatus.disconnecting_of_disconnecting underWay]
    have notYet : decide (s.shared.status = .disconnected ∨
        s.shared.status = .disconnected) = false := by simp [underWay]
    rw [notYet]
    have kept : InPhase
        (s.record goroutine
          (.awaitDisconnect s.shared.actionCompleted,
            { s.shared with willReconnect := false })) phase :=
      inPhase.bystander ready.not_driving id rfl false
    rcases Option.eq_none_or_eq_some s.shared.actionCompleted with
      missing | ⟨channel, field⟩
    · have sameCall : Call.awaitDisconnect s.shared.actionCompleted =
          .awaitDisconnect none := by rw [missing]
      rw [sameCall]
      exact .forever
    · have sameCall : Call.awaitDisconnect s.shared.actionCompleted =
          .awaitDisconnect (some channel) := by rw [field]
      rw [sameCall] at kept ⊢
      -- an open channel while disconnecting is an attempt's or a teardown's
      cases phase with
      | tearingDown function =>
          exact .pending ⟨function, kept, field, rfl⟩
      | aborting driver =>
          exact absurd (inPhase.awaiting driver rfl) (awaits underWay driver).1
      | settled => cases field.symm.trans (inPhase.channelNil rfl)
      | resuming driver => cases field.symm.trans (inPhase.channelNil rfl)
      | abandoned => cases field.symm.trans (inPhase.channelNil rfl)
      | attempting =>
          rcases inPhase.allowed with status | status <;>
            cases underWay.symm.trans status
  · rw [ConnectionStatus.disconnecting_of_trying trying]
    have busy : s.shared.status ≠ .disconnected := by
      rcases trying with status | status <;> simp [status]
    simpa [busy] using Informed.interrupting
  · rw [ConnectionStatus.disconnecting_of_connected isConnected]
    simpa [isConnected, ConnectionStatus.makeActionCompleted] using
      Informed.finished (by simp)

theorem resume {goroutine : Nat} {outcome : Call × ConnectionStatus}
    (informed : Informed s (s.calls goroutine) seen) (held : FlagHeld s)
    (resumed : s.shared.resume (s.calls goroutine) = some outcome) :
    Informed (s.record goroutine outcome) outcome.1
      (seen.map (· || decide (outcome.2.status = .disconnected))) := by
  have overtakes := @held.disconnect goroutine
  generalize s.calls goroutine = call at informed overtakes resumed
  cases informed with
  | unlogged notWaiting =>
      cases ConnectionStatus.resumed_of_resume resumed with
      | late released => exact absurd rfl (notWaiting _)
      | _ => exact .unlogged (by rintro _ ⟨⟩)
  | seen => exact .seen
  | pending pending =>
      cases ConnectionStatus.resumed_of_resume resumed with
      | late released => exact absurd released pending.not_released
  | forever =>
      cases ConnectionStatus.resumed_of_resume resumed with
      | late released => cases released
  | interrupting =>
      cases ConnectionStatus.resumed_of_resume resumed with
      | overtaken released cancelled =>
          cases cancelled.symm.trans (overtakes rfl)
      | woken released kept => exact or_seen .relocking _
  | relocking =>
      cases ConnectionStatus.resumed_of_resume resumed with
      | relocked => exact or_seen (.finished (by simp)) _
  | finished other => cases resumed

end Informed

structure AllInformed (s : StatusSystem × (Nat → Option Bool)) : Prop where
  held : FlagHeld s.1
  phase : ∃ phase, InPhase s.1 phase
  informed : ∀ goroutine, Informed s.1 (s.1.calls goroutine) (s.2 goroutine)

namespace AllInformed

variable {s later : StatusSystem} {event : StatusEvent}
  {seen : Nat → Option Bool}

/-- The goroutine that takes the step. -/
theorem actor (all : AllInformed (s, seen)) (awaits : AwaitsTeardown s event)
    (stepTo : s.StepTo event later) :
    Informed later (later.calls event.actor)
      (noteDisconnected s event later seen event.actor) := by
  cases stepTo with
  | connecting ready =>
      simp only [noteDisconnected, StatusEvent.actor, ready, if_true, record,
        Function.update_self]
      exact .unlogged (by rintro _ ⟨⟩)
  | disconnecting ready =>
      obtain ⟨phase, inPhase⟩ := all.phase
      simp only [noteDisconnected, StatusEvent.actor, ready, if_true, record,
        Function.update_self]
      exact Informed.disconnecting inPhase ready awaits
  | connectionLost ready =>
      simp only [noteDisconnected, StatusEvent.actor, ready, if_true, record,
        Function.update_self]
      refine .unlogged ?_
      intro channel
      unfold ConnectionStatus.connectionLost
      split <;> rintro ⟨⟩
  | @resume goroutine outcome resumed =>
      have busy : ¬ (s.calls goroutine).Ready := by
        intro ready
        generalize s.calls goroutine = call at resumed ready
        cases ConnectionStatus.resumed_of_resume resumed <;> exact ready
      simp only [noteDisconnected, StatusEvent.actor, busy, if_false, record,
        Function.update_self]
      exact (all.informed goroutine).resume all.held resumed
  | complete ready available completed =>
      simp only [noteDisconnected, StatusEvent.actor, use, ready, if_true,
        record, Function.update_self]
      exact .unlogged (by rintro _ ⟨⟩)
  | @panic goroutine function argument ready available completed =>
      simp only [noteDisconnected, StatusEvent.actor, ready, if_true]
      refine .unlogged ?_
      intro channel waits
      rw [waits] at ready
      exact ready

theorem next (all : AllInformed (s, seen)) (awaits : AwaitsTeardown s event)
    (stepTo : s.StepTo event later) :
    AllInformed (later, noteDisconnected s event later seen) := by
  obtain ⟨phase, inPhase⟩ := all.phase
  refine ⟨?_, ?_, ?_⟩
  · refine all.held.next inPhase ?_ stepTo
    rintro goroutine rfl underWay other
    exact (awaits underWay other).2
  · obtain ⟨target, -, inTarget⟩ := inPhase.next stepTo
    exact ⟨target, inTarget⟩
  · intro goroutine
    by_cases acts : goroutine = event.actor
    · rw [acts]
      exact all.actor awaits stepTo
    · have informed := all.informed goroutine
      simp only [noteDisconnected, Ne.symm acts, if_false,
        stepTo.calls_of_ne acts]
      split
      · rename_i ready
        exact informed.of_ready ready
      · exact informed.bystander stepTo

theorem truthful {s : StatusSystem × (Nat → Option Bool)}
    (all : AllInformed s) : Truthful s := by
  intro goroutine seen logged returned
  have current := all.informed goroutine
  rw [logged, returned] at current
  cases current with
  | seen => rfl
  | finished other => exact absurd rfl other

theorem initial : AllInformed (.initial, fun _ => none) where
  held := ⟨by rintro ⟨⟩, by rintro _ _ ⟨⟩⟩
  phase := ⟨.settled, InPhase.initial⟩
  informed := fun _ => .unlogged (by rintro _ ⟨⟩)

end AllInformed

/-- When every disconnect that finds the status disconnecting waits for a
teardown, `errAlreadyDisconnected` is only returned by calls during which the
status was disconnected. -/
theorem disconnecting_truthful {events : List StatusEvent}
    {s : StatusSystem × (Nat → Option Bool)}
    (awaits : Meets step AwaitsTeardown .initial events)
    (executed : run (recorded step noteDisconnected)
      (.initial, fun _ => none) events = some s) : Truthful s := by
  refine AllInformed.truthful
    (invariant_of_meets AllInformed ?_ AllInformed.initial
      (meets_recorded.mpr awaits) executed)
  rintro ⟨state, seen⟩ _ event all meets recordedStep
  obtain ⟨next, stepped, rfl⟩ := recorded_eq_some.mp recordedStep
  exact all.next meets (stepTo_of_step stepped)

/-- Goroutine 2 asks for a disconnect while goroutine 1 tears the connection
down, and comes back when that is done. -/
theorem disconnecting_truthful_second :
    ∃ s, run (recorded step noteDisconnected) (.initial, fun _ => none)
          [.connecting 0, .complete 0 .connected true, .disconnecting 1,
            .disconnecting 2, .complete 1 .disconnectionCompleted true,
            .resume 2] = some s ∧
      s.1.calls 2 = .returned (.failure .alreadyDisconnected) ∧ Truthful s := by
  obtain ⟨s, executed⟩ : ∃ s, run (recorded step noteDisconnected)
      (.initial, fun _ => none)
      [.connecting 0, .complete 0 .connected true, .disconnecting 1,
        .disconnecting 2, .complete 1 .disconnectionCompleted true,
        .resume 2] = some s := ⟨_, rfl⟩
  refine ⟨s, executed, ?_, disconnecting_truthful ?_ executed⟩
  · cases executed
    rfl
  · rintro _ ⟨⟩
    refine ⟨trivial, ?_⟩
    rintro _ ⟨⟩
    refine ⟨trivial, ?_⟩
    rintro _ ⟨⟩
    refine ⟨by rintro ⟨⟩, ?_⟩
    rintro _ ⟨⟩
    refine ⟨?_, by simp [Meets, AwaitsTeardown]⟩
    -- goroutine 1 has its completion function and waits for nothing
    rintro - (_ | _ | other) <;> exact ⟨by rintro ⟨⟩, by rintro _ ⟨⟩⟩

/-- Goroutine 1 interrupts a connection attempt.  Goroutine 2 joins its wait
for the end of the attempt, and is told that the client is disconnected while
the disconnect of goroutine 1 is still under way. -/
theorem joined_wait_is_untruthful :
    ∃ s, run (recorded step noteDisconnected) (.initial, fun _ => none)
          [.connecting 0, .disconnecting 1, .disconnecting 2,
            .complete 0 .connected true, .resume 2] = some s ∧
      s.1.calls 2 = .returned (.failure .alreadyDisconnected) ∧
      s.2 2 = some false ∧ s.1.shared.status = .disconnecting ∧
      ¬ Truthful s := by
  refine ⟨_, rfl, rfl, rfl, rfl, ?_⟩
  intro truthful
  cases truthful 2 false rfl rfl

end Client

end RmttGo
