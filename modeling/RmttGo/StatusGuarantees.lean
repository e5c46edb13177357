import RmttGo.ReconnectFlag

/-!
# What the connection status guarantees

Results about every run of the goroutines that share a `connectionStatus`:
the discipline of the completion functions, when the channel can be awaited,
and the two ways in which the status can be left at disconnecting with nobody
to change it.
-/

namespace RmttGo

namespace Client

open StatusSystem EventRun

section Discipline

/-- At most one completion function is outstanding, the channel is there and
open exactly while one is, and no step has closed a channel it must not. -/
theorem completion_discipline {events : List StatusEvent} {s : StatusSystem}
    (executed : run step .initial events = some s) :
    s.outstanding.length ≤ 1 ∧
      (s.shared.HasOpenChannel ↔ s.outstanding ≠ []) ∧
      (s.outstanding = [] → s.shared.actionCompleted = none) ∧
      s.panicked = false := by
  obtain ⟨phase, inPhase⟩ := exists_inPhase executed
  rw [inPhase.outstanding]
  refine ⟨?_, ⟨?_, inPhase.channelOpen⟩, inPhase.channelNil, inPhase.running⟩
  · cases phase <;> simp [Phase.outstanding]
  · rintro ⟨channel, field, -⟩ nothing
    cases field.symm.trans (inPhase.channelNil nothing)

/-- A disconnect that interrupts a connection attempt. -/
theorem completion_discipline_interrupted_attempt :
    ∃ s, run step .initial [.connecting 0, .disconnecting 1] = some s ∧
      s.outstanding.length ≤ 1 ∧
      (s.shared.HasOpenChannel ↔ s.outstanding ≠ []) ∧
      (s.outstanding = [] → s.shared.actionCompleted = none) ∧
      s.panicked = false :=
  ⟨_, rfl, @completion_discipline [.connecting 0, .disconnecting 1] _ rfl⟩

end Discipline

section Channel

/-- A `Disconnecting` call made now would find a channel to wait for. -/
def Awaitable (s : StatusSystem) : Prop :=
  s.shared.status = .connecting ∨ s.shared.status = .reconnecting ∨
      s.shared.status = .disconnecting →
    s.shared.HasOpenChannel

/-- No connection attempt reports its end to a status that is disconnecting. -/
def ReportsInTime (s : StatusSystem) : StatusEvent → Prop
  | .complete _ .connected _ => s.shared.status ≠ .disconnecting
  | _ => True

theorem InPhase.awaitable_iff {s : StatusSystem} {phase : Phase}
    (inPhase : InPhase s phase) :
    Awaitable s ↔
      phase ≠ .abandoned ∧ ∀ driver, phase ≠ .resuming driver := by
  have allowed := inPhase.allowed
  cases phase with
  | settled =>
      have notWaiting : Awaitable s := by
        intro waiting
        rcases allowed with status | status <;> simp [status] at waiting
      simp [notWaiting]
  | attempting =>
      have isOpen := inPhase.channelOpen (by simp [Phase.outstanding])
      simp [Awaitable, isOpen]
  | aborting driver =>
      have isOpen := inPhase.channelOpen (by simp [Phase.outstanding])
      simp [Awaitable, isOpen]
  | tearingDown function =>
      have isOpen := inPhase.channelOpen (by simp [Phase.outstanding])
      simp [Awaitable, isOpen]
  | resuming driver =>
      have missing := inPhase.channelNil rfl
      simp only [Phase.Allows] at allowed
      simp [Awaitable, allowed, ConnectionStatus.HasOpenChannel, missing]
  | abandoned =>
      have missing := inPhase.channelNil rfl
      simp only [Phase.Allows] at allowed
      simp [Awaitable, allowed, ConnectionStatus.HasOpenChannel, missing]

/-- In an awaitable phase a step leads to an awaitable phase exactly if no
attempt reports late. -/
theorem InPhase.awaitable_step_iff {s next : StatusSystem} {phase : Phase}
    {event : StatusEvent} (inPhase : InPhase s phase) (awaitable : Awaitable s)
    (stepTo : s.StepTo event next) :
    Awaitable next ↔ ReportsInTime s event := by
  obtain ⟨target, moves, inTarget⟩ := inPhase.next stepTo
  have allowed := inPhase.allowed
  rw [inTarget.awaitable_iff]
  rw [inPhase.awaitable_iff] at awaitable
  cases moves with
  | wake =>
      simp only [Phase.Allows] at allowed
      simp [ReportsInTime, allowed]
  | settle =>
      have undecided : s.shared.status ≠ .disconnecting := by
        rcases allowed with status | status <;> simp [status]
      simp [ReportsInTime, undecided]
  | @tornDown function =>
      cases function with
      | connected => exact absurd rfl allowed.2
      | disconnectionCompleted => simp [ReportsInTime]
      | connectionLostHandler reconnectRequested => simp [ReportsInTime]
  | takeOver => simp at awaitable
  | abandon => simp at awaitable
  | connectingRefused => simpa [ReportsInTime] using awaitable
  | disconnectingLate => simpa [ReportsInTime] using awaitable
  | connectionLostLate => simpa [ReportsInTime] using awaitable
  | wait => simpa [ReportsInTime] using awaitable
  | attempt => simp [ReportsInTime]
  | disconnect => simp [ReportsInTime]
  | abort => simp [ReportsInTime]
  | lose => simp [ReportsInTime]
  | interrupt => simp [ReportsInTime]
  | reconnect => simp [ReportsInTime]

/-- The channel is there to wait for in every state of a run exactly if no
attempt of the run reports its end to a status that is disconnecting. -/
theorem always_awaitable_iff (events : List StatusEvent) :
    Always step Awaitable .initial events ↔
      Meets step ReportsInTime .initial events := by
  refine always_iff_meets
    (fun s => Awaitable s ∧ ∃ phase, InPhase s phase) ?_ ?_ ?_ ?_
  · rintro s ⟨awaitable, -⟩
    exact awaitable
  · rintro s next event ⟨awaitable, phase, inPhase⟩ inTime stepped
    have stepTo := stepTo_of_step stepped
    obtain ⟨target, -, inTarget⟩ := inPhase.next stepTo
    exact ⟨(inPhase.awaitable_step_iff awaitable stepTo).mpr inTime,
      target, inTarget⟩
  · rintro s next event ⟨awaitable, phase, inPhase⟩ late stepped
    exact mt (inPhase.awaitable_step_iff awaitable (stepTo_of_step stepped)).mp
      late
  · exact ⟨InPhase.initial.awaitable_iff.mpr (by simp), _, InPhase.initial⟩

/-- The attempt of goroutine 0 ends after goroutine 1 asked to disconnect and
before it comes back from its wait: goroutine 2 is left waiting for nil. -/
theorem third_disconnecting_waits_for_nil :
    ∃ s, run step .initial
          [.connecting 0, .disconnecting 1, .complete 0 .connected true] =
        some s ∧
      ¬ Awaitable s ∧
      ∃ blocked, step s (.disconnecting 2) = some blocked ∧
        blocked.calls 2 = .awaitDisconnect none ∧
        ∀ c : ConnectionStatus, c.resume (blocked.calls 2) = none := by
  refine ⟨_, rfl, ?_, _, rfl, rfl, ?_⟩
  · intro awaitable
    obtain ⟨channel, missing, -⟩ := awaitable (.inr (.inr rfl))
    cases missing
  · intro c
    rfl

end Channel

section Stuck

/-- Nobody is left to take a step that was begun. -/
def Quiescent (s : StatusSystem) : Prop :=
  s.outstanding = [] ∧
    ∀ goroutine, s.shared.resume (s.calls goroutine) = none

/-- No loss without reconnect arrives during a connection attempt, and no
further disconnect arrives while one that interrupted a reconnect waits. -/
def Unobstructed (s : StatusSystem) : StatusEvent → Prop
  | .connectionLost _ false =>
      s.shared.status ≠ .connecting ∧ s.shared.status ≠ .reconnecting
  | .disconnecting _ =>
      s.shared.status = .disconnecting → ∀ goroutine connectDone,
        s.calls goroutine ≠ .awaitConnect connectDone .reconnecting
  | _ => True

theorem InPhase.resume_ne_none {s : StatusSystem} {driver : Nat}
    (inPhase : InPhase s (.resuming driver)) :
    s.shared.resume (s.calls driver) ≠ none := by
  have driving := (inPhase.driving driver).mpr rfl
  have released := fun channel => inPhase.woken driver channel rfl
  generalize s.calls driver = call at driving released
  cases call with
  | awaitConnect connectDone prevStatus =>
      simp [ConnectionStatus.resume, released connectDone rfl]
  | relock => simp [ConnectionStatus.resume]
  | awaitLost connectDone willReconnect =>
      simp [ConnectionStatus.resume, released connectDone rfl]
  | idle => cases driving
  | awaitDisconnect disConnectDone => cases driving
  | returned result => cases driving

theorem InPhase.settled_or_abandoned {s : StatusSystem} {phase : Phase}
    (inPhase : InPhase s phase) (quiescent : Quiescent s) :
    phase = .settled ∨ phase = .abandoned := by
  obtain ⟨nothing, finished⟩ := quiescent
  rw [inPhase.outstanding] at nothing
  cases phase with
  | settled => exact .inl rfl
  | abandoned => exact .inr rfl
  | attempting => cases nothing
  | aborting driver => cases nothing
  | tearingDown function => cases nothing
  | resuming driver => exact absurd (finished driver) inPhase.resume_ne_none

/-- Only a loss during an attempt makes a goroutine wait for its end with a
wish of its own. -/
theorem StatusSystem.StepTo.awaitLost {s later : StatusSystem}
    {event : StatusEvent} {goroutine : Nat} {connectDone : Option Nat}
    {willReconnect : Bool} (stepTo : s.StepTo event later)
    (waits : later.calls goroutine = .awaitLost connectDone willReconnect) :
    s.calls goroutine = .awaitLost connectDone willReconnect ∨
      event = .connectionLost goroutine willReconnect ∧
        (s.shared.status = .connecting ∨ s.shared.status = .reconnecting) := by
  by_cases acts : goroutine = event.actor
  · subst acts
    cases stepTo with
    | connecting ready => simp [StatusSystem.record, StatusEvent.actor] at waits
    | disconnecting ready =>
        simp only [StatusSystem.record, StatusEvent.actor,
          Function.update_self] at waits
        unfold ConnectionStatus.disconnecting at waits
        split at waits <;> cases waits
    | connectionLost ready =>
        rcases s.shared.status.down_or_trying_or_connected with
          down | trying | isConnected
        · obtain ⟨error, refused⟩ :=
            ConnectionStatus.connectionLost_of_down down
          rw [refused] at waits
          simp [StatusSystem.record, StatusEvent.actor] at waits
        · simp only [StatusSystem.record, StatusEvent.actor,
            Function.update_self,
            ConnectionStatus.connectionLost_of_trying trying] at waits
          cases waits
          exact .inr ⟨rfl, trying⟩
        · simp [StatusSystem.record, StatusEvent.actor,
            ConnectionStatus.connectionLost_of_connected isConnected] at waits
    | @resume goroutine outcome resumed =>
        simp only [StatusSystem.record, StatusEvent.actor,
          Function.update_self] at waits
        generalize s.calls goroutine = call at resumed
        cases ConnectionStatus.resumed_of_resume resumed <;> cases waits
    | complete ready available completed =>
        simp [StatusSystem.record, StatusEvent.actor] at waits
    | panic ready available completed => exact .inl waits
  · rw [stepTo.calls_of_ne acts] at waits
    exact .inl waits

/-- Every driver will install the next channel when it is woken. -/
structure Committed (s : StatusSystem) : Prop where
  reconnecting : s.shared.status = .reconnecting → s.shared.willReconnect = true
  lost : ∀ {goroutine connectDone willReconnect},
    s.calls goroutine = .awaitLost connectDone willReconnect →
      willReconnect = true
  disconnect : ∀ {goroutine connectDone},
    s.calls goroutine = .awaitConnect connectDone .reconnecting →
      s.shared.willReconnect = true

theorem Committed.next {s later : StatusSystem} {phase : Phase}
    {event : StatusEvent} (committed : Committed s) (inPhase : InPhase s phase)
    (unobstructed : Unobstructed s event) (stepTo : s.StepTo event later) :
    Committed later := by
  have held : FlagHeld later := by
    refine FlagHeld.next ⟨committed.reconnecting, committed.disconnect⟩ inPhase
      ?_ stepTo
    rintro goroutine rfl
    exact unobstructed
  refine ⟨held.reconnecting, ?_, held.disconnect⟩
  intro goroutine connectDone willReconnect waits
  rcases stepTo.awaitLost waits with waited | ⟨rfl, trying⟩
  · exact committed.lost waited
  · by_contra final
    rw [Bool.not_eq_true] at final
    subst final
    exact trying.elim unobstructed.1 unobstructed.2

theorem InPhase.ne_abandoned_of_committed {s later : StatusSystem}
    {phase target : Phase} {event : StatusEvent} (inPhase : InPhase s phase)
    (notAbandoned : phase ≠ .abandoned) (committed : Committed s)
    (stepTo : s.StepTo event later) (moves : phase.Next event target)
    (inTarget : InPhase later target) : target ≠ .abandoned := by
  rintro rfl
  cases moves with
  | @abandon driver =>
      cases stepTo with
      | resume resumed =>
          have driving := inTarget.driving driver
          have outstanding := inTarget.outstanding
          have isDriver := (inPhase.driving driver).mpr rfl
          generalize current : s.calls driver = call at resumed isDriver
          cases ConnectionStatus.resumed_of_resume resumed with
          | late => cases isDriver
          | overtaken released cancelled =>
              cases cancelled.symm.trans (committed.disconnect current)
          | woken =>
              simp [StatusSystem.record, Call.Driving, Phase.driver] at driving
          | relocked => cases outstanding
          | lostForGood => cases committed.lost current
          | lost => cases outstanding
  | connectingRefused => exact notAbandoned rfl
  | disconnectingLate => exact notAbandoned rfl
  | connectionLostLate => exact notAbandoned rfl
  | wait => exact notAbandoned rfl

/-- Nobody is stuck: when nothing that was begun can go on, the status is
disconnected or connected. -/
theorem settled_of_quiescent {events : List StatusEvent} {s : StatusSystem}
    (unobstructed : Meets step Unobstructed .initial events)
    (executed : run step .initial events = some s) (quiescent : Quiescent s) :
    s.shared.status = .disconnected ∨ s.shared.status = .connected := by
  obtain ⟨-, phase, inPhase, notAbandoned⟩ :
      Committed s ∧ ∃ phase, InPhase s phase ∧ phase ≠ .abandoned := by
    refine invariant_of_meets
      (fun s => Committed s ∧ ∃ phase, InPhase s phase ∧ phase ≠ .abandoned)
      ?_ ?_ unobstructed executed
    · rintro state next event ⟨committed, phase, inPhase, notAbandoned⟩ meets
        stepped
      have stepTo := stepTo_of_step stepped
      obtain ⟨target, moves, inTarget⟩ := inPhase.next stepTo
      exact ⟨committed.next inPhase meets stepTo, target, inTarget,
        inPhase.ne_abandoned_of_committed notAbandoned committed stepTo moves
          inTarget⟩
    · exact ⟨⟨by rintro ⟨⟩, by rintro _ _ _ ⟨⟩, by rintro _ _ ⟨⟩⟩, _,
        InPhase.initial, by simp⟩
  rcases inPhase.settled_or_abandoned quiescent with rfl | rfl
  · exact inPhase.allowed
  · exact absurd rfl notAbandoned

/-- A connect that succeeds, with a loss and a reconnect after it. -/
theorem settled_of_quiescent_reconnected :
    ∃ s, run step .initial
          [.connecting 0, .complete 0 .connected true, .connectionLost 1 true,
            .complete 1 (.connectionLostHandler true) true,
            .complete 1 .connected true] = some s ∧
      Quiescent s ∧
      (s.shared.status = .disconnected ∨ s.shared.status = .connected) := by
  obtain ⟨s, executed⟩ : ∃ s, run step .initial
      [.connecting 0, .complete 0 .connected true, .connectionLost 1 true,
        .complete 1 (.connectionLostHandler true) true,
        .complete 1 .connected true] = some s := ⟨_, rfl⟩
  have quiescent : Quiescent s := by
    cases executed
    refine ⟨rfl, ?_⟩
    rintro (_ | _ | goroutine) <;> rfl
  refine ⟨s, executed, quiescent, settled_of_quiescent ?_ executed quiescent⟩
  simp [Meets, Unobstructed]

theorem InPhase.abandoned_forever {s later : StatusSystem}
    {events : List StatusEvent} (inPhase : InPhase s .abandoned)
    (executed : run step s events = some later) :
    later.shared.status = .disconnecting := by
  have stays : InPhase later .abandoned := by
    refine invariant (fun s => InPhase s .abandoned) ?_ inPhase executed
    intro state next event inPhase stepped
    obtain ⟨target, moves, inTarget⟩ := inPhase.next (stepTo_of_step stepped)
    cases moves <;> exact inTarget
  exact stays.allowed

/-- A loss reported during the first connection attempt is never followed by a
reconnect.  When the attempt ends, nobody finishes the disconnect. -/
theorem stuck_after_loss_while_connecting :
    ∃ s, run step .initial
          [.connecting 0, .connectionLost 1 false,
            .complete 0 .connected true, .resume 1] = some s ∧
      Quiescent s ∧
      ∀ events later, run step s events = some later →
        later.shared.status = .disconnecting := by
  obtain ⟨s, executed⟩ : ∃ s, run step .initial
      [.connecting 0, .connectionLost 1 false, .complete 0 .connected true,
        .resume 1] = some s := ⟨_, rfl⟩
  obtain ⟨phase, inPhase⟩ := exists_inPhase executed
  have quiescent : Quiescent s := by
    cases executed
    refine ⟨rfl, ?_⟩
    rintro (_ | _ | goroutine) <;> rfl
  refine ⟨s, executed, quiescent, ?_⟩
  rcases inPhase.settled_or_abandoned quiescent with rfl | rfl
  · cases executed
    rcases inPhase.allowed with status | status <;> cases status
  · intro events later
    exact inPhase.abandoned_forever

end Stuck

end Client

end RmttGo
