import RmttGo.StatusSystem

/-!
# Who finishes what was begun

Behind the five statuses the goroutines pass one responsibility around: the
completion function that will close the channel, or the suspended call that
will install the next one.  `Phase` says who has it, `Phase.Next` how it moves,
and `InPhase.next` shows that every step of the system is such a move.
-/

namespace RmttGo

namespace Client

/-- The call set the status to disconnecting during a connection attempt and
has not yet come back from its wait. -/
def Call.Driving : Call → Prop
  | .awaitConnect _ _ | .relock | .awaitLost _ _ => True
  | _ => False

def Call.awaited : Call → Option (Option Nat)
  | .awaitConnect connectDone _ | .awaitLost connectDone _ => some connectDone
  | _ => none

theorem Call.Ready.not_driving {call : Call} (ready : call.Ready) :
    ¬ call.Driving := by
  cases call <;> simp_all [Ready, Driving]

namespace ConnectionStatus

def HasOpenChannel (c : ConnectionStatus) : Prop :=
  ∃ channel, c.actionCompleted = some channel ∧ c.channels.IsOpen channel

variable {c : ConnectionStatus}

theorem makeActionCompleted_hasOpenChannel (wellFormed : c.channels.WellFormed) :
    c.makeActionCompleted.HasOpenChannel :=
  ⟨_, rfl, wellFormed.make_isOpen⟩

theorem makeActionCompleted_wellFormed (wellFormed : c.channels.WellFormed) :
    c.makeActionCompleted.channels.WellFormed :=
  wellFormed.make

/-- Closing the channel that is open succeeds, clears the field, and lets
every wait on that channel go. -/
theorem HasOpenChannel.closeActionCompleted (isOpen : c.HasOpenChannel)
    (wellFormed : c.channels.WellFormed) :
    ∃ channels : ChannelHeap,
      c.closeActionCompleted =
          some { c with actionCompleted := none, channels := channels } ∧
        channels.WellFormed ∧ channels.Released c.actionCompleted := by
  obtain ⟨channel, field, isOpen⟩ := isOpen
  refine ⟨{ c.channels with closed := channel :: c.channels.closed }, ?_,
    wellFormed.close isOpen, ?_⟩
  · simp [ConnectionStatus.closeActionCompleted, field, isOpen.close_eq]
  · simp [field, ChannelHeap.Released]

end ConnectionStatus

inductive Phase
  /-- Nobody has anything to finish. -/
  | settled
  /-- A connection attempt holds its completion function. -/
  | attempting
  /-- As before, but the driver waits for the attempt in order to disconnect. -/
  | aborting (driver : Nat)
  /-- The attempt is over and the driver is on its way. -/
  | resuming (driver : Nat)
  /-- A disconnect or a connection loss holds its completion function. -/
  | tearingDown (function : Completion)
  /-- The status is disconnecting and nobody will change it. -/
  | abandoned
  deriving DecidableEq, Repr

namespace Phase

def outstanding : Phase → List Completion
  | .attempting | .aborting _ => [.connected]
  | .tearingDown function => [function]
  | .settled | .resuming _ | .abandoned => []

def driver : Phase → Option Nat
  | .aborting driver | .resuming driver => some driver
  | _ => none

def Allows : Phase → Status → Prop
  | .settled, status => status = .disconnected ∨ status = .connected
  | .attempting, status => status = .connecting ∨ status = .reconnecting
  | .tearingDown function, status =>
      status = .disconnecting ∧ function ≠ .connected
  | .aborting _, status | .resuming _, status | .abandoned, status =>
      status = .disconnecting

theorem eq_settled_of_allows {phase : Phase} {status : Status}
    (allowed : phase.Allows status)
    (final : status = .disconnected ∨ status = .connected) :
    phase = .settled := by
  rcases final with rfl | rfl <;> cases phase <;> simp_all [Allows]

theorem eq_attempting_of_allows {phase : Phase} {status : Status}
    (allowed : phase.Allows status)
    (trying : status = .connecting ∨ status = .reconnecting) :
    phase = .attempting := by
  rcases trying with rfl | rfl <;> cases phase <;> simp_all [Allows]

/-- The moves of the responsibility.  Every operation may also come too late
or be refused, and then the phase stays. -/
inductive Next : Phase → StatusEvent → Phase → Prop
  | connectingRefused {phase goroutine} :
      Next phase (.connecting goroutine) phase
  | attempt {goroutine} :
      Next .settled (.connecting goroutine) .attempting
  | disconnectingLate {phase goroutine} :
      Next phase (.disconnecting goroutine) phase
  | disconnect {goroutine} :
      Next .settled (.disconnecting goroutine)
        (.tearingDown .disconnectionCompleted)
  | abort {goroutine} :
      Next .attempting (.disconnecting goroutine) (.aborting goroutine)
  | connectionLostLate {phase goroutine willReconnect} :
      Next phase (.connectionLost goroutine willReconnect) phase
  | lose {goroutine willReconnect} :
      Next .settled (.connectionLost goroutine willReconnect)
        (.tearingDown (.connectionLostHandler willReconnect))
  | interrupt {goroutine willReconnect} :
      Next .attempting (.connectionLost goroutine willReconnect)
        (.aborting goroutine)
  | wait {phase goroutine} :
      Next phase (.resume goroutine) phase
  | takeOver {driver function} :
      Next (.resuming driver) (.resume driver) (.tearingDown function)
  | abandon {driver} :
      Next (.resuming driver) (.resume driver) .abandoned
  | settle {goroutine success} :
      Next .attempting (.complete goroutine .connected success) .settled
  | wake {driver goroutine success} :
      Next (.aborting driver) (.complete goroutine .connected success)
        (.resuming driver)
  | tornDown {function goroutine argument} :
      Next (.tearingDown function) (.complete goroutine function argument)
        .settled
  | reconnect {reconnectRequested goroutine} :
      Next (.tearingDown (.connectionLostHandler reconnectRequested))
        (.complete goroutine (.connectionLostHandler reconnectRequested) true)
        .attempting

theorem length_outstanding_le (phase : Phase) :
    phase.outstanding.length ≤ 1 := by
  cases phase <;> simp [outstanding]

end Phase

/-- The system is in the phase: the outstanding completion functions, the
channel, the status and the driver are those of the phase. -/
structure InPhase (s : StatusSystem) (phase : Phase) : Prop where
  running : s.panicked = false
  wellFormed : s.shared.channels.WellFormed
  allowed : phase.Allows s.shared.status
  outstanding : s.outstanding = phase.outstanding
  channelOpen : phase.outstanding ≠ [] → s.shared.HasOpenChannel
  channelNil : phase.outstanding = [] → s.shared.actionCompleted = none
  driving : ∀ goroutine,
    (s.calls goroutine).Driving ↔ phase.driver = some goroutine
  awaiting : ∀ driver, phase = .aborting driver →
    (s.calls driver).awaited = some s.shared.actionCompleted
  woken : ∀ driver channel, phase = .resuming driver →
    (s.calls driver).awaited = some channel →
      s.shared.channels.Released channel

namespace InPhase

open StatusSystem

variable {s : StatusSystem} {phase : Phase} {goroutine : Nat} {call : Call}

theorem initial : InPhase StatusSystem.initial .settled where
  running := rfl
  wellFormed := ChannelHeap.empty_wellFormed
  allowed := .inl rfl
  outstanding := rfl
  channelOpen := by simp [Phase.outstanding]
  channelNil := by simp [StatusSystem.initial, ConnectionStatus.zero]
  driving := by simp [StatusSystem.initial, Call.Driving, Phase.driver]
  awaiting := by simp
  woken := by simp

/-- A bystander: the goroutine is no driver, gets no completion function and
changes nothing but the reconnect flag. -/
theorem bystander (inPhase : InPhase s phase)
    (notDriving : ¬ (s.calls goroutine).Driving) (stillNot : ¬ call.Driving)
    (nothing : call.handedOut = []) (willReconnect : Bool) :
    InPhase (s.record goroutine (call, { s.shared with willReconnect })) phase where
  running := inPhase.running
  wellFormed := inPhase.wellFormed
  allowed := inPhase.allowed
  outstanding := by simp [record, nothing, inPhase.outstanding]
  channelOpen := inPhase.channelOpen
  channelNil := inPhase.channelNil
  driving := by
    intro other
    by_cases same : other = goroutine
    · subst same
      simp [record, stillNot, ← inPhase.driving, notDriving]
    · simp [record, same, inPhase.driving]
  awaiting := by
    rintro driver rfl
    have isDriver := (inPhase.driving driver).mpr rfl
    have other : driver ≠ goroutine := by
      rintro rfl
      exact notDriving isDriver
    simpa [record, other] using inPhase.awaiting driver rfl
  woken := by
    rintro driver channel rfl awaited
    have isDriver := (inPhase.driving driver).mpr rfl
    have other : driver ≠ goroutine := by
      rintro rfl
      exact notDriving isDriver
    exact inPhase.woken driver channel rfl (by simpa [record, other] using awaited)

def SoleDriver (s : StatusSystem) (goroutine : Nat) : Prop :=
  ∀ other, other ≠ goroutine → ¬ (s.calls other).Driving

theorem soleDriver_of_none (inPhase : InPhase s phase)
    (noDriver : phase.driver = none) : SoleDriver s goroutine := by
  intro other _
  simp [inPhase.driving, noDriver]

theorem soleDriver_of_some (inPhase : InPhase s phase)
    (isDriver : phase.driver = some goroutine) : SoleDriver s goroutine := by
  intro other different
  simpa [inPhase.driving, isDriver] using different.symm

/-- The goroutine's outcome puts the system into a phase without a driver. -/
theorem undriven {target : Phase} {c : ConnectionStatus}
    (noDriver : target.driver = none) (running : s.panicked = false)
    (sole : SoleDriver s goroutine) (notDriving : ¬ call.Driving)
    (wellFormed : c.channels.WellFormed) (allowed : target.Allows c.status)
    (outstanding : call.handedOut ++ s.outstanding = target.outstanding)
    (channelOpen : target.outstanding ≠ [] → c.HasOpenChannel)
    (channelNil : target.outstanding = [] → c.actionCompleted = none) :
    InPhase (s.record goroutine (call, c)) target where
  running := running
  wellFormed := wellFormed
  allowed := allowed
  outstanding := outstanding
  channelOpen := channelOpen
  channelNil := channelNil
  driving := by
    intro other
    by_cases same : other = goroutine
    · subst same
      simp [record, notDriving, noDriver]
    · simp [record, same, noDriver, sole other same]
  awaiting := by
    rintro driver rfl
    cases noDriver
  woken := by
    rintro driver channel rfl
    cases noDriver

theorem release (inPhase : InPhase s .settled) {function : Completion}
    (teardown : function ≠ .connected) (willReconnect : Bool) :
    InPhase
      (s.record goroutine
        (.returned (.completion function),
          ConnectionStatus.makeActionCompleted
            { s.shared with willReconnect, status := .disconnecting }))
      (.tearingDown function) :=
  undriven rfl inPhase.running (inPhase.soleDriver_of_none rfl) id
    (ConnectionStatus.makeActionCompleted_wellFormed inPhase.wellFormed)
    ⟨rfl, teardown⟩
    (by simp [Call.handedOut, inPhase.outstanding, Phase.outstanding])
    (fun _ => ConnectionStatus.makeActionCompleted_hasOpenChannel
      inPhase.wellFormed)
    (by simp [Phase.outstanding])

theorem drive (inPhase : InPhase s .attempting) (driving : call.Driving)
    (awaited : call.awaited = some s.shared.actionCompleted)
    (nothing : call.handedOut = []) (willReconnect : Bool) :
    InPhase
      (s.record goroutine
        (call, { s.shared with willReconnect, status := .disconnecting }))
      (.aborting goroutine) where
  running := inPhase.running
  wellFormed := inPhase.wellFormed
  allowed := rfl
  outstanding := by simp [record, nothing, inPhase.outstanding, Phase.outstanding]
  channelOpen := inPhase.channelOpen
  channelNil := inPhase.channelNil
  driving := by
    intro other
    by_cases same : other = goroutine
    · subst same
      simp [record, driving, Phase.driver]
    · simp [record, same, Ne.symm same, Phase.driver, inPhase.driving]
  awaiting := by
    rintro driver ⟨⟩
    simpa [record] using awaited
  woken := by simp

theorem connecting (inPhase : InPhase s phase)
    (ready : (s.calls goroutine).Ready) :
    ∃ target, phase.Next (.connecting goroutine) target ∧
      InPhase (s.record goroutine (s.shared.connecting.map .returned id))
        target := by
  by_cases disconnected : s.shared.status = .disconnected
  · obtain rfl := Phase.eq_settled_of_allows inPhase.allowed (.inl disconnected)
    refine ⟨.attempting, .attempt, ?_⟩
    rw [ConnectionStatus.connecting_of_disconnected disconnected]
    exact undriven rfl inPhase.running (inPhase.soleDriver_of_none rfl) id
      (ConnectionStatus.makeActionCompleted_wellFormed inPhase.wellFormed)
      (.inl rfl) (by simp [Call.handedOut, inPhase.outstanding, Phase.outstanding])
      (fun _ => ConnectionStatus.makeActionCompleted_hasOpenChannel
        inPhase.wellFormed)
      (by simp [Phase.outstanding])
  · refine ⟨phase, .connectingRefused, ?_⟩
    obtain ⟨error, refused⟩ :=
      ConnectionStatus.connecting_of_ne_disconnected disconnected
    rw [refused]
    exact inPhase.bystander ready.not_driving id rfl s.shared.willReconnect

theorem disconnecting (inPhase : InPhase s phase)
    (ready : (s.calls goroutine).Ready) :
    ∃ target, phase.Next (.disconnecting goroutine) target ∧
      InPhase (s.record goroutine s.shared.disconnecting) target := by
  rcases s.shared.status.down_or_trying_or_connected with
    (disconnected | underWay) | trying | isConnected
  · refine ⟨phase, .disconnectingLate, ?_⟩
    rw [ConnectionStatus.disconnecting_of_disconnected disconnected]
    exact inPhase.bystander ready.not_driving id rfl s.shared.willReconnect
  · refine ⟨phase, .disconnectingLate, ?_⟩
    rw [ConnectionStatus.disconnecting_of_disconnecting underWay]
    exact inPhase.bystander ready.not_driving id rfl false
  · obtain rfl := Phase.eq_attempting_of_allows inPhase.allowed trying
    refine ⟨.aborting goroutine, .abort, ?_⟩
    rw [ConnectionStatus.disconnecting_of_trying trying]
    exact inPhase.drive (by trivial) (by rfl) (by rfl) s.shared.willReconnect
  · obtain rfl := Phase.eq_settled_of_allows inPhase.allowed (.inr isConnected)
    refine ⟨.tearingDown .disconnectionCompleted, .disconnect, ?_⟩
    rw [ConnectionStatus.disconnecting_of_connected isConnected]
    exact inPhase.release (by simp) s.shared.willReconnect

theorem connectionLost (inPhase : InPhase s phase)
    (ready : (s.calls goroutine).Ready) (willReconnect : Bool) :
    ∃ target, phase.Next (.connectionLost goroutine willReconnect) target ∧
      InPhase (s.record goroutine (s.shared.connectionLost willReconnect))
        target := by
  rcases s.shared.status.down_or_trying_or_connected with
    down | trying | isConnected
  · refine ⟨phase, .connectionLostLate, ?_⟩
    obtain ⟨error, refused⟩ := ConnectionStatus.connectionLost_of_down down
    rw [refused]
    exact inPhase.bystander ready.not_driving id rfl s.shared.willReconnect
  · obtain rfl := Phase.eq_attempting_of_allows inPhase.allowed trying
    refine ⟨.aborting goroutine, .interrupt, ?_⟩
    rw [ConnectionStatus.connectionLost_of_trying trying]
    exact inPhase.drive (by trivial) (by rfl) (by rfl) willReconnect
  · obtain rfl := Phase.eq_settled_of_allows inPhase.allowed (.inr isConnected)
    refine ⟨.tearingDown (.connectionLostHandler willReconnect), .lose, ?_⟩
    rw [ConnectionStatus.connectionLost_of_connected isConnected]
    exact inPhase.release (by simp) willReconnect

/-- A driver that gets to move was woken by the end of the attempt. -/
theorem eq_resuming (inPhase : InPhase s phase)
    (current : s.calls goroutine = call) (driving : call.Driving)
    (released : ∀ channel, call.awaited = some channel →
      s.shared.channels.Released channel) :
    phase = .resuming goroutine := by
  subst current
  have isDriver := (inPhase.driving goroutine).mp driving
  cases phase with
  | resuming driver =>
      cases isDriver
      rfl
  | aborting driver =>
      cases isDriver
      obtain ⟨channel, field, isOpen⟩ := inPhase.channelOpen (by simp [Phase.outstanding])
      have := released _ (inPhase.awaiting goroutine rfl)
      rw [field] at this
      exact absurd this isOpen.not_released
  | settled => cases isDriver
  | attempting => cases isDriver
  | tearingDown function => cases isDriver
  | abandoned => cases isDriver

theorem giveUp (inPhase : InPhase s (.resuming goroutine))
    (notDriving : ¬ call.Driving) (nothing : call.handedOut = []) :
    InPhase (s.record goroutine (call, s.shared)) .abandoned :=
  undriven rfl inPhase.running (inPhase.soleDriver_of_some rfl) notDriving
    inPhase.wellFormed inPhase.allowed
    (by simp [nothing, inPhase.outstanding, Phase.outstanding])
    (by simp [Phase.outstanding]) (fun _ => inPhase.channelNil rfl)

theorem takeOver (inPhase : InPhase s (.resuming goroutine))
    {function : Completion} (teardown : function ≠ .connected) :
    InPhase
      (s.record goroutine
        (.returned (.completion function), s.shared.makeActionCompleted))
      (.tearingDown function) :=
  undriven rfl inPhase.running (inPhase.soleDriver_of_some rfl) id
    (ConnectionStatus.makeActionCompleted_wellFormed inPhase.wellFormed)
    ⟨inPhase.allowed, teardown⟩
    (by simp [Call.handedOut, inPhase.outstanding, Phase.outstanding])
    (fun _ => ConnectionStatus.makeActionCompleted_hasOpenChannel
      inPhase.wellFormed)
    (by simp [Phase.outstanding])

theorem relock (inPhase : InPhase s (.resuming goroutine)) :
    InPhase (s.record goroutine (.relock, s.shared)) (.resuming goroutine) where
  running := inPhase.running
  wellFormed := inPhase.wellFormed
  allowed := inPhase.allowed
  outstanding := inPhase.outstanding
  channelOpen := inPhase.channelOpen
  channelNil := inPhase.channelNil
  driving := by
    intro other
    by_cases same : other = goroutine
    · subst same
      simp [record, Call.Driving, Phase.driver]
    · simp [record, same, inPhase.driving]
  awaiting := by simp
  woken := by
    rintro driver channel ⟨⟩
    simp [record, Call.awaited]

theorem resume (inPhase : InPhase s phase) {outcome : Call × ConnectionStatus}
    (resumed : s.shared.resume (s.calls goroutine) = some outcome) :
    ∃ target, phase.Next (.resume goroutine) target ∧
      InPhase (s.record goroutine outcome) target := by
  generalize current : s.calls goroutine = call at resumed
  cases ConnectionStatus.resumed_of_resume resumed with
  | late released =>
      refine ⟨phase, .wait, ?_⟩
      exact inPhase.bystander (by simp [current, Call.Driving]) id rfl
        s.shared.willReconnect
  | overtaken released cancelled =>
      obtain rfl := inPhase.eq_resuming current trivial (by rintro _ ⟨⟩; exact released)
      exact ⟨.abandoned, .abandon, inPhase.giveUp id rfl⟩
  | woken released kept =>
      obtain rfl := inPhase.eq_resuming current trivial (by rintro _ ⟨⟩; exact released)
      exact ⟨.resuming goroutine, .wait, inPhase.relock⟩
  | relocked =>
      obtain rfl := inPhase.eq_resuming current trivial (by rintro _ ⟨⟩)
      exact ⟨_, .takeOver, inPhase.takeOver (by simp)⟩
  | lostForGood released =>
      obtain rfl := inPhase.eq_resuming current trivial (by rintro _ ⟨⟩; exact released)
      exact ⟨.abandoned, .abandon, inPhase.giveUp id rfl⟩
  | lost released =>
      obtain rfl := inPhase.eq_resuming current trivial (by rintro _ ⟨⟩; exact released)
      exact ⟨_, .takeOver, inPhase.takeOver (by simp)⟩

theorem finish (inPhase : InPhase s phase) (noDriver : phase.driver = none)
    {function : Completion} (owner : phase.outstanding = [function])
    {status : Status}
    (settled : status = .disconnected ∨ status = .connected) :
    ∃ c : ConnectionStatus,
      ConnectionStatus.closeActionCompleted { s.shared with status } = some c ∧
        ∀ result : Return, Call.handedOut (.returned result) = [] →
          InPhase ((s.use function).record goroutine (.returned result, c))
            .settled := by
  have isOpen : ConnectionStatus.HasOpenChannel { s.shared with status } :=
    inPhase.channelOpen (by simp [owner])
  obtain ⟨channels, closed, wellFormed, -⟩ :=
    isOpen.closeActionCompleted inPhase.wellFormed
  have used : (s.use function).outstanding = [] := by
    simp [use, inPhase.outstanding, owner]
  refine ⟨_, closed, ?_⟩
  intro result nothing
  exact undriven rfl inPhase.running (inPhase.soleDriver_of_none noDriver) id
    wellFormed settled (by simp [nothing, used, Phase.outstanding])
    (by simp [Phase.outstanding]) (fun _ => rfl)

theorem wake {driver : Nat} (inPhase : InPhase s (.aborting driver))
    (ready : (s.calls goroutine).Ready) :
    ∃ c, s.shared.closeActionCompleted = some c ∧
      InPhase
        ((s.use .connected).record goroutine
          (.returned (.failure .abortConnection), c))
        (.resuming driver) := by
  have isOpen := inPhase.channelOpen (by simp [Phase.outstanding])
  obtain ⟨channels, closed, wellFormed, released⟩ :=
    isOpen.closeActionCompleted inPhase.wellFormed
  have other : driver ≠ goroutine := by
    rintro rfl
    exact ready.not_driving ((inPhase.driving driver).mpr rfl)
  refine ⟨_, closed, ?_⟩
  exact {
    running := inPhase.running
    wellFormed := wellFormed
    allowed := inPhase.allowed
    outstanding := by
      simp [record, use, Call.handedOut, inPhase.outstanding, Phase.outstanding]
    channelOpen := by simp [Phase.outstanding]
    channelNil := fun _ => rfl
    driving := by
      intro someone
      by_cases same : someone = goroutine
      · subst same
        simp [record, Call.Driving, Phase.driver, other]
      · simp [record, use, same, inPhase.driving, Phase.driver]
    awaiting := by simp
    woken := by
      rintro _ channel ⟨⟩ awaited
      have waitsFor := inPhase.awaiting driver rfl
      simp only [record, use, Function.update_of_ne other, waitsFor,
        Option.some.injEq] at awaited
      rwa [← awaited] }

theorem complete (inPhase : InPhase s phase)
    (ready : (s.calls goroutine).Ready) {function : Completion}
    (available : function ∈ s.outstanding) (argument : Bool) :
    ∃ outcome target,
      s.shared.complete argument function = some outcome ∧
        phase.Next (.complete goroutine function argument) target ∧
        InPhase ((s.use function).record goroutine (outcome.map .returned id))
          target := by
  rw [inPhase.outstanding] at available
  cases phase with
  | settled => cases available
  | resuming driver => cases available
  | abandoned => cases available
  | attempting =>
      obtain rfl := List.mem_singleton.mp available
      have undecided : s.shared.status ≠ .disconnecting := by
        rcases inPhase.allowed with status | status <;> simp [status]
      cases argument with
      | true =>
          obtain ⟨c, closed, settled⟩ := inPhase.finish rfl rfl (.inr rfl)
          refine ⟨(.done, c), .settled, ?_, .settle, settled _ rfl⟩
          simp [ConnectionStatus.complete, ConnectionStatus.connected,
            undecided, closed]
      | false =>
          obtain ⟨c, closed, settled⟩ := inPhase.finish rfl rfl (.inl rfl)
          refine ⟨(.done, c), .settled, ?_, .settle, settled _ rfl⟩
          simp [ConnectionStatus.complete, ConnectionStatus.connected,
            undecided, closed]
  | aborting driver =>
      obtain rfl := List.mem_singleton.mp available
      obtain ⟨c, closed, resuming⟩ := inPhase.wake ready
      refine ⟨(.failure .abortConnection, c), _, ?_, .wake, resuming⟩
      have underWay : s.shared.status = .disconnecting := inPhase.allowed
      simp [ConnectionStatus.complete, ConnectionStatus.connected, underWay,
        closed]
  | tearingDown function =>
      obtain rfl := List.mem_singleton.mp available
      obtain ⟨underWay, teardown⟩ := inPhase.allowed
      obtain ⟨c, closed, settled⟩ := inPhase.finish rfl rfl (.inl rfl)
      cases function with
      | connected => exact absurd rfl teardown
      | disconnectionCompleted =>
          refine ⟨(.done, c), .settled, ?_, .tornDown, settled _ rfl⟩
          simp [ConnectionStatus.complete,
            ConnectionStatus.disconnectionCompleted, closed]
      | connectionLostHandler reconnectRequested =>
          by_cases stopped : (!s.shared.willReconnect || !argument) = true
          · by_cases quiet : (!reconnectRequested || !argument) = true
            · refine ⟨(.done, c), .settled, ?_, .tornDown, settled _ rfl⟩
              simp only [ConnectionStatus.complete,
                ConnectionStatus.connectionLostHandler, stopped, closed, quiet,
                if_true, Option.map_some]
            · refine ⟨(.failure .disconnectionRequested, c), .settled, ?_,
                .tornDown, settled _ rfl⟩
              simp only [ConnectionStatus.complete,
                ConnectionStatus.connectionLostHandler, stopped, closed, quiet,
                if_true, Option.map_some]
              rfl
          · obtain rfl : argument = true := by
              cases argument <;> simp_all
            refine ⟨_, .attempting, if_neg stopped, .reconnect, ?_⟩
            exact undriven rfl inPhase.running
              (inPhase.soleDriver_of_none rfl) id inPhase.wellFormed
              (.inr rfl)
              (by simp [Call.handedOut, use, inPhase.outstanding,
                Phase.outstanding])
              (fun _ => inPhase.channelOpen (by simp [Phase.outstanding]))
              (by simp [Phase.outstanding])

/-- Every step of the system is a move of the phase. -/
theorem next {event : StatusEvent} {later : StatusSystem}
    (inPhase : InPhase s phase) (stepTo : s.StepTo event later) :
    ∃ target, phase.Next event target ∧ InPhase later target := by
  cases stepTo with
  | connecting ready => exact inPhase.connecting ready
  | disconnecting ready => exact inPhase.disconnecting ready
  | connectionLost ready => exact inPhase.connectionLost ready _
  | resume resumed => exact inPhase.resume resumed
  | @complete goroutine function argument _ ready available completed =>
      obtain ⟨outcome, target, completes, moves, inTarget⟩ :=
        inPhase.complete ready available argument
      cases completed.symm.trans completes
      exact ⟨target, moves, inTarget⟩
  | @panic goroutine function argument ready available panics =>
      obtain ⟨outcome, target, completes, -⟩ :=
        inPhase.complete ready available argument
      cases panics.symm.trans completes

/-- An operation hands out a completion function only when none was. -/
theorem outstanding_eq_nil_of_handedOut {event : StatusEvent}
    {later : StatusSystem} (inPhase : InPhase s phase) (stepTo : s.StepTo event later)
    (operation : event.OperationOf goroutine)
    (handedOut : (later.calls goroutine).handedOut ≠ []) :
    s.outstanding = [] := by
  obtain ⟨target, -, inTarget⟩ := inPhase.next stepTo
  have atMostOne := target.length_outstanding_le
  rw [← inTarget.outstanding, stepTo.operation_outstanding operation,
    List.length_append] at atMostOne
  have atLeastOne := List.length_pos_of_ne_nil handedOut
  exact List.eq_nil_of_length_eq_zero (by omega)

end InPhase

theorem exists_inPhase {events : List StatusEvent} {s : StatusSystem}
    (executed : EventRun.run StatusSystem.step .initial events = some s) :
    ∃ phase, InPhase s phase := by
  refine EventRun.invariant (fun s => ∃ phase, InPhase s phase) ?_ ?_ executed
  · rintro state next event ⟨phase, inPhase⟩ stepped
    obtain ⟨target, -, inTarget⟩ :=
      inPhase.next (StatusSystem.stepTo_of_step stepped)
    exact ⟨target, inTarget⟩
  · exact ⟨.settled, InPhase.initial⟩

end Client

end RmttGo
