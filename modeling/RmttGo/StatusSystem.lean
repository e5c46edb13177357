import Mathlib.Logic.Function.Basic
import RmttGo.EventRuns
import RmttGo.ConnectionStatus

/-!
# Goroutines sharing one connection status

Any number of goroutines run the operations of one `connectionStatus`.  A step
is one critical section, or the return from a wait.  A completion function is
outstanding from the moment an operation returns it until it is called, and
calling it uses it up.
-/

namespace RmttGo

namespace Client

/-- The goroutine is not inside an operation. -/
def Call.Ready : Call → Prop
  | .idle | .returned _ => True
  | _ => False

instance : DecidablePred Call.Ready
  | .idle | .returned _ => .isTrue trivial
  | .awaitDisconnect _ | .awaitConnect _ _ | .relock | .awaitLost _ _ =>
      .isFalse id

def Call.handedOut : Call → List Completion
  | .returned (.completion function) => [function]
  | _ => []

structure StatusSystem where
  shared : ConnectionStatus
  calls : Nat → Call
  outstanding : List Completion
  panicked : Bool

inductive StatusEvent
  | connecting (goroutine : Nat)
  | disconnecting (goroutine : Nat)
  | connectionLost (goroutine : Nat) (willReconnect : Bool)
  | resume (goroutine : Nat)
  | complete (goroutine : Nat) (function : Completion) (argument : Bool)
  deriving DecidableEq, Repr

/-- The event is an operation of the goroutine, or its return from a wait. -/
def StatusEvent.OperationOf (goroutine : Nat) : StatusEvent → Prop
  | .connecting other | .disconnecting other | .connectionLost other _
  | .resume other => other = goroutine
  | .complete _ _ _ => False

def StatusEvent.actor : StatusEvent → Nat
  | .connecting goroutine | .disconnecting goroutine
  | .connectionLost goroutine _ | .resume goroutine
  | .complete goroutine _ _ => goroutine

theorem StatusEvent.OperationOf.actor_eq {event : StatusEvent}
    {goroutine : Nat} (operation : event.OperationOf goroutine) :
    event.actor = goroutine := by
  cases event <;> first | exact operation | cases operation

namespace StatusSystem

def initial : StatusSystem :=
  ⟨.zero, fun _ => .idle, [], false⟩

/-- The goroutine has run a critical section with the given outcome. -/
def record (s : StatusSystem) (goroutine : Nat)
    (outcome : Call × ConnectionStatus) : StatusSystem :=
  { s with
    shared := outcome.2
    calls := Function.update s.calls goroutine outcome.1
    outstanding := outcome.1.handedOut ++ s.outstanding }

def use (s : StatusSystem) (function : Completion) : StatusSystem :=
  { s with outstanding := s.outstanding.erase function }

def step (s : StatusSystem) (event : StatusEvent) : Option StatusSystem :=
  if s.panicked then
    none
  else
    match event with
    | .connecting goroutine =>
        if (s.calls goroutine).Ready then
          some (s.record goroutine (s.shared.connecting.map .returned id))
        else
          none
    | .disconnecting goroutine =>
        if (s.calls goroutine).Ready then
          some (s.record goroutine s.shared.disconnecting)
        else
          none
    | .connectionLost goroutine willReconnect =>
        if (s.calls goroutine).Ready then
          some (s.record goroutine (s.shared.connectionLost willReconnect))
        else
          none
    | .resume goroutine =>
        (s.shared.resume (s.calls goroutine)).map (s.record goroutine)
    | .complete goroutine function argument =>
        if (s.calls goroutine).Ready ∧ function ∈ s.outstanding then
          match s.shared.complete argument function with
          | none => some { s with panicked := true }
          | some outcome =>
              some ((s.use function).record goroutine
                (outcome.map .returned id))
        else
          none

inductive StepTo (s : StatusSystem) : StatusEvent → StatusSystem → Prop
  | connecting {goroutine : Nat} (ready : (s.calls goroutine).Ready) :
      StepTo s (.connecting goroutine)
        (s.record goroutine (s.shared.connecting.map .returned id))
  | disconnecting {goroutine : Nat} (ready : (s.calls goroutine).Ready) :
      StepTo s (.disconnecting goroutine)
        (s.record goroutine s.shared.disconnecting)
  | connectionLost {goroutine : Nat} {willReconnect : Bool}
      (ready : (s.calls goroutine).Ready) :
      StepTo s (.connectionLost goroutine willReconnect)
        (s.record goroutine (s.shared.connectionLost willReconnect))
  | resume {goroutine : Nat} {outcome : Call × ConnectionStatus}
      (resumed : s.shared.resume (s.calls goroutine) = some outcome) :
      StepTo s (.resume goroutine) (s.record goroutine outcome)
  | complete {goroutine : Nat} {function : Completion} {argument : Bool}
      {outcome : Return × ConnectionStatus}
      (ready : (s.calls goroutine).Ready)
      (outstanding : function ∈ s.outstanding)
      (completed : s.shared.complete argument function = some outcome) :
      StepTo s (.complete goroutine function argument)
        ((s.use function).record goroutine (outcome.map .returned id))
  | panic {goroutine : Nat} {function : Completion} {argument : Bool}
      (ready : (s.calls goroutine).Ready)
      (outstanding : function ∈ s.outstanding)
      (completed : s.shared.complete argument function = none) :
      StepTo s (.complete goroutine function argument)
        { s with panicked := true }

theorem stepTo_of_step {s next : StatusSystem} {event : StatusEvent}
    (stepped : s.step event = some next) : s.StepTo event next := by
  unfold step at stepped
  split at stepped
  · cases stepped
  · cases event with
    | connecting goroutine =>
        obtain ⟨ready, ⟨⟩⟩ := Option.ite_none_right_eq_some.mp stepped
        exact .connecting ready
    | disconnecting goroutine =>
        obtain ⟨ready, ⟨⟩⟩ := Option.ite_none_right_eq_some.mp stepped
        exact .disconnecting ready
    | connectionLost goroutine willReconnect =>
        obtain ⟨ready, ⟨⟩⟩ := Option.ite_none_right_eq_some.mp stepped
        exact .connectionLost ready
    | resume goroutine =>
        obtain ⟨outcome, resumed, rfl⟩ := Option.map_eq_some_iff.mp stepped
        exact .resume resumed
    | complete goroutine function argument =>
        obtain ⟨⟨ready, outstanding⟩, stepped⟩ :=
          Option.ite_none_right_eq_some.mp stepped
        cases completed : s.shared.complete argument function with
        | none =>
            rw [completed] at stepped
            cases stepped
            exact .panic ready outstanding completed
        | some outcome =>
            rw [completed] at stepped
            cases stepped
            exact .complete ready outstanding completed

section StatusSteps

variable {s later : StatusSystem} {event : StatusEvent} {goroutine : Nat}

theorem StepTo.calls_of_ne {other : Nat}
    (stepTo : s.StepTo event later) (different : other ≠ event.actor) :
    later.calls other = s.calls other := by
  cases stepTo with
  | panic ready available completed => rfl
  | _ => exact Function.update_of_ne different ..

theorem StepTo.operation_outstanding
    (stepTo : s.StepTo event later) (operation : event.OperationOf goroutine) :
    later.outstanding = (later.calls goroutine).handedOut ++ s.outstanding := by
  cases stepTo with
  | connecting ready => cases operation; simp [record]
  | disconnecting ready => cases operation; simp [record]
  | connectionLost ready => cases operation; simp [record]
  | resume resumed => cases operation; simp [record]
  | complete ready available completed => cases operation
  | panic ready available completed => cases operation

/-- Only completion functions bring the status to disconnected or connected. -/
theorem StepTo.operation_status
    (stepTo : s.StepTo event later) (operation : event.OperationOf goroutine)
    (final : later.shared.status = .disconnected ∨
      later.shared.status = .connected) :
    later.shared.status = s.shared.status := by
  cases stepTo with
  | connecting ready =>
      by_cases disconnected : s.shared.status = .disconnected
      · rw [ConnectionStatus.connecting_of_disconnected disconnected] at final
        rcases final with final | final <;> cases final
      · obtain ⟨error, refused⟩ :=
          ConnectionStatus.connecting_of_ne_disconnected disconnected
        rw [refused]
        rfl
  | disconnecting ready =>
      rcases s.shared.status.down_or_trying_or_connected with
        (disconnected | underWay) | trying | isConnected
      · rw [ConnectionStatus.disconnecting_of_disconnected disconnected]
        rfl
      · rw [ConnectionStatus.disconnecting_of_disconnecting underWay]
        rfl
      · rw [ConnectionStatus.disconnecting_of_trying trying] at final
        rcases final with final | final <;> cases final
      · rw [ConnectionStatus.disconnecting_of_connected isConnected] at final
        rcases final with final | final <;> cases final
  | connectionLost ready =>
      rcases s.shared.status.down_or_trying_or_connected with
        down | trying | isConnected
      · obtain ⟨error, refused⟩ := ConnectionStatus.connectionLost_of_down down
        rw [refused]
        rfl
      · rw [ConnectionStatus.connectionLost_of_trying trying] at final
        rcases final with final | final <;> cases final
      · rw [ConnectionStatus.connectionLost_of_connected isConnected] at final
        rcases final with final | final <;> cases final
  | @resume other outcome resumed =>
      generalize s.calls other = call at resumed
      cases ConnectionStatus.resumed_of_resume resumed <;> rfl
  | complete ready available completed => cases operation
  | panic ready available completed => cases operation

theorem StepTo.complete_outstanding {function : Completion}
    {argument : Bool}
    (stepTo : s.StepTo (.complete goroutine function argument) later)
    (running : later.panicked = false) :
    later.outstanding =
      (later.calls goroutine).handedOut ++ s.outstanding.erase function := by
  cases stepTo with
  | complete ready available completed =>
      simp [record, use]
  | panic ready available completed => cases running

/-- What calling the completion function did to the status. -/
theorem StepTo.completed {function : Completion}
    {argument : Bool}
    (stepTo : s.StepTo (.complete goroutine function argument) later)
    (running : later.panicked = false) :
    ∃ result, later.calls goroutine = .returned result ∧
      s.shared.Completed argument function result later.shared := by
  cases stepTo with
  | complete ready available completed =>
      exact ⟨_, Function.update_self ..,
        ConnectionStatus.completed_of_complete completed⟩
  | panic ready available completed => cases running

end StatusSteps

end StatusSystem

end Client

end RmttGo
