import RmttGo.StatusPhases
import RmttGo.ClientSystem

/-!
# Coherence of status, connection and goroutines

`c.conn` and the status are guarded by different locks.  What links them is
that a goroutine touches `c.conn` only while it holds the one completion
function that is outstanding, and calls that function only when `c.conn` is
what the next status promises.  For the status connected it is so only if
`attemptConnection` returns no nil connection without an error; `supplied` says
that it does not.
-/

namespace RmttGo

namespace Client

def Call.OfDisconnecting : Call → Prop
  | .awaitDisconnect _ | .awaitConnect _ _ | .relock | .returned (.failure _)
  | .returned (.completion .disconnectionCompleted) => True
  | _ => False

def Call.OfConnectionLost : Call → Prop
  | .awaitLost _ _ | .returned (.failure _)
  | .returned (.completion (.connectionLostHandler _)) => True
  | _ => False

namespace ConnectionStatus

variable {c : ConnectionStatus} {call : Call} {outcome : Call × ConnectionStatus}

theorem disconnecting_ofDisconnecting (c : ConnectionStatus) :
    c.disconnecting.1.OfDisconnecting := by
  unfold disconnecting
  split <;> trivial

theorem connectionLost_ofConnectionLost (c : ConnectionStatus)
    (willReconnect : Bool) :
    (c.connectionLost willReconnect).1.OfConnectionLost := by
  unfold connectionLost
  split <;> trivial

theorem Resumed.ofDisconnecting (resumed : c.Resumed call outcome)
    (before : call.OfDisconnecting) : outcome.1.OfDisconnecting := by
  cases resumed <;> trivial

theorem Resumed.ofConnectionLost (resumed : c.Resumed call outcome)
    (before : call.OfConnectionLost) : outcome.1.OfConnectionLost := by
  cases resumed <;> trivial

end ConnectionStatus

namespace Activity

/-- The completion function the goroutine has to call. -/
def holds : Activity → Option Completion
  | .attempting _ | .givingUp | .starting _ | .alreadyRunning | .reporting _ =>
      some .connected
  | .stopping | .awaitingWorkers | .finishing => some .disconnectionCompleted
  | .lossStopping _ reconnectRequested | .lossNotRunning _ reconnectRequested
  | .lossAwaiting reconnectRequested | .lossFinishing reconnectRequested =>
      some (.connectionLostHandler reconnectRequested)
  | _ => none

def Locks : Activity → Prop
  | .alreadyRunning | .reporting _ | .startingComms _ => True
  | _ => False

/-- What the goroutine relies on about `c.conn`. -/
def Agrees (supplied : Prop) (conn : Option Nat) : Activity → Prop
  | .attempting _ | .givingUp | .awaitingWorkers | .finishing
  | .lossNotRunning _ _ | .lossAwaiting _ | .lossFinishing _ => conn = none
  | .starting own => conn = none ∧ (supplied → own ≠ none)
  | .reporting own => conn = own ∧ (supplied → own ≠ none)
  | .alreadyRunning => False
  | _ => True

def Runs (call : Call) : Activity → Prop
  | .disconnecting => call.OfDisconnecting ∧ ¬ call.Ready
  | .losing _ => call.OfConnectionLost ∧ ¬ call.Ready
  | _ => call.Ready

/-- The activity is what the outcome of the goroutine's call asks for. -/
structure Follows (supplied : Prop) (activity : Activity) (call : Call)
    (conn : Option Nat) : Prop where
  holds : activity.holds = call.handedOut.head?
  agrees : activity.Agrees supplied conn
  unlocked : ¬ activity.Locks
  runs : activity.Runs call

variable {supplied : Prop}

theorem afterDisconnecting_follows {call : Call} {conn : Option Nat}
    (ofCall : call.OfDisconnecting) :
    (afterDisconnecting call).Follows supplied call conn := by
  cases call with
  | idle => cases ofCall
  | awaitLost connectDone willReconnect => cases ofCall
  | returned result =>
      cases result with
      | done => cases ofCall
      | failure error => exact ⟨rfl, trivial, id, trivial⟩
      | completion function =>
          cases function with
          | disconnectionCompleted => exact ⟨rfl, trivial, id, trivial⟩
          | _ => cases ofCall
  | _ => exact ⟨rfl, trivial, id, trivial, id⟩

theorem afterConnectionLost_follows {call : Call} {conn own : Option Nat}
    (ofCall : call.OfConnectionLost) :
    (afterConnectionLost own call).Follows supplied call conn := by
  cases call with
  | awaitLost connectDone willReconnect => exact ⟨rfl, trivial, id, trivial, id⟩
  | returned result =>
      cases result with
      | done => cases ofCall
      | failure error => exact ⟨rfl, trivial, id, trivial⟩
      | completion function =>
          cases function with
          | connectionLostHandler reconnectRequested =>
              exact ⟨rfl, trivial, id, trivial⟩
          | _ => cases ofCall
  | _ => cases ofCall

/-- Behind `Connecting`: with the completion function the goroutine relies on
there being no connection. -/
theorem afterConnecting_follows {options : Options} {result : Return}
    {conn : Option Nat}
    (outcome : result = .completion .connected ∧ conn = none ∨
      ∃ error, result = .failure error) :
    (afterConnecting options (.returned result)).Follows supplied
      (.returned result) conn := by
  rcases outcome with ⟨rfl, noConn⟩ | ⟨error, rfl⟩
  · cases servers : options.hasServers with
    | true =>
        simp only [afterConnecting, servers, if_true]
        exact ⟨rfl, noConn, id, trivial⟩
    | false =>
        simp only [afterConnecting, servers]
        exact ⟨rfl, noConn, id, trivial⟩
  · exact ⟨rfl, trivial, id, trivial⟩

theorem agrees_of_holds_none {activity : Activity} {conn : Option Nat}
    (nothing : activity.holds = none) : activity.Agrees supplied conn := by
  cases activity <;> trivial

end Activity

/-- The invariant of the client. -/
structure Coherent (supplied : Prop) (s : ClientSystem) : Prop where
  inPhase : ∃ phase, InPhase s.status phase
  held : ∀ goroutine function,
    (s.activity goroutine).holds = some function →
      function ∈ s.status.outstanding
  oneHolder : ∃ holder, ∀ goroutine,
    (s.activity goroutine).holds ≠ none → goroutine = holder
  agrees : ∀ goroutine, (s.activity goroutine).Agrees supplied s.conn
  locked : ∀ goroutine, (s.activity goroutine).Locks →
    s.connMu = some goroutine
  runs : ∀ goroutine, (s.activity goroutine).Runs (s.status.calls goroutine)
  connected : supplied → s.status.shared.status = .connected → s.conn ≠ none
  disconnected : s.status.shared.status = .disconnected → s.conn = none

theorem activity_become (s : ClientSystem) (goroutine : Nat)
    (activity : Activity) (other : Nat) :
    other = goroutine ∧ (s.become goroutine activity).activity other = activity ∨
      other ≠ goroutine ∧
        (s.become goroutine activity).activity other = s.activity other := by
  by_cases same : other = goroutine
  · subst same
    exact .inl ⟨rfl, Function.update_self ..⟩
  · exact .inr ⟨same, Function.update_of_ne same ..⟩

namespace Coherent

variable {supplied : Prop} {s : ClientSystem} {goroutine : Nat}
  {activity : Activity}

theorem initial : Coherent supplied ClientSystem.initial where
  inPhase := ⟨_, InPhase.initial⟩
  held := by rintro _ _ ⟨⟩
  oneHolder := by
    refine ⟨0, ?_⟩
    intro goroutine holds
    exact absurd rfl holds
  agrees := by
    intro goroutine
    trivial
  locked := by rintro _ ⟨⟩
  runs := by
    intro goroutine
    trivial
  connected := by rintro _ ⟨⟩
  disconnected := by
    intro _
    rfl

theorem setWorkers (coherent : Coherent supplied s) (workers : Nat) :
    Coherent supplied { s with workers } :=
  ⟨coherent.inPhase, coherent.held, coherent.oneHolder, coherent.agrees,
    coherent.locked, coherent.runs, coherent.connected, coherent.disconnected⟩

theorem holds_eq_none_of_ne (coherent : Coherent supplied s) {other : Nat}
    (owner : (s.activity goroutine).holds ≠ none) (different : other ≠ goroutine) :
    (s.activity other).holds = none := by
  obtain ⟨holder, only⟩ := coherent.oneHolder
  by_contra holdsToo
  exact different ((only other holdsToo).trans (only goroutine owner).symm)

/-- The shape of every step: one goroutine gets a new activity, possibly with
a new status, connection or lock.  What the other goroutines rely on has to
survive. -/
theorem moved {status : StatusSystem} {conn connMu : Option Nat}
    (coherent : Coherent supplied s) (inPhase : ∃ phase, InPhase status phase)
    (heldNow : ∀ function, activity.holds = some function →
      function ∈ status.outstanding)
    (heldStill : ∀ other function, other ≠ goroutine →
      (s.activity other).holds = some function → function ∈ status.outstanding)
    (alone : activity.holds ≠ none → ∀ other, other ≠ goroutine →
      (s.activity other).holds = none)
    (agrees : activity.Agrees supplied conn)
    (othersAgree : ∀ other, other ≠ goroutine →
      (s.activity other).Agrees supplied conn)
    (locks : activity.Locks → connMu = some goroutine)
    (othersLock : ∀ other, other ≠ goroutine → (s.activity other).Locks →
      connMu = some other)
    (runs : activity.Runs (status.calls goroutine))
    (otherCalls : ∀ other, other ≠ goroutine →
      status.calls other = s.status.calls other)
    (connected : supplied → status.shared.status = .connected → conn ≠ none)
    (disconnected : status.shared.status = .disconnected → conn = none) :
    Coherent supplied ({ s with status, conn, connMu }.become goroutine activity) := by
  have becomes := activity_become { s with status, conn, connMu } goroutine activity
  refine ⟨inPhase, ?_, ?_, ?_, ?_, ?_, connected, disconnected⟩
  · intro other function isHeld
    rcases becomes other with ⟨rfl, new⟩ | ⟨different, old⟩
    · exact heldNow function (new ▸ isHeld)
    · exact heldStill other function different (old ▸ isHeld)
  · by_cases holds : activity.holds = none
    · obtain ⟨holder, only⟩ := coherent.oneHolder
      refine ⟨holder, ?_⟩
      intro other otherHolds
      rcases becomes other with ⟨rfl, new⟩ | ⟨different, old⟩
      · rw [new] at otherHolds
        exact absurd holds otherHolds
      · exact only other (old ▸ otherHolds)
    · refine ⟨goroutine, ?_⟩
      intro other otherHolds
      rcases becomes other with ⟨rfl, new⟩ | ⟨different, old⟩
      · rfl
      · rw [old] at otherHolds
        exact absurd (alone holds other different) otherHolds
  · intro other
    rcases becomes other with ⟨rfl, new⟩ | ⟨different, old⟩
    · rw [new]
      exact agrees
    · rw [old]
      exact othersAgree other different
  · intro other
    rcases becomes other with ⟨rfl, new⟩ | ⟨different, old⟩
    · rw [new]
      exact locks
    · rw [old]
      exact othersLock other different
  · intro other
    rcases becomes other with ⟨rfl, new⟩ | ⟨different, old⟩
    · rw [new]
      exact runs
    · rw [old]
      show (s.activity other).Runs (status.calls other)
      rw [otherCalls other different]
      exact coherent.runs other

/-- While somebody has a completion function to call, the status is neither
disconnected nor connected. -/
theorem not_final (coherent : Coherent supplied s)
    (owner : (s.activity goroutine).holds ≠ none) :
    s.status.shared.status ≠ .disconnected ∧
      s.status.shared.status ≠ .connected := by
  obtain ⟨function, isHeld⟩ := Option.ne_none_iff_exists'.mp owner
  obtain ⟨phase, inPhase⟩ := coherent.inPhase
  have available := coherent.held goroutine function isHeld
  have notSettled : phase ≠ .settled := by
    rintro rfl
    rw [inPhase.outstanding] at available
    cases available
  constructor
  · intro status
    exact notSettled (Phase.eq_settled_of_allows inPhase.allowed (.inl status))
  · intro status
    exact notSettled (Phase.eq_settled_of_allows inPhase.allowed (.inr status))

/-- A step that leaves the status alone.  Only a goroutine that holds a
completion function changes `c.conn`. -/
theorem rearranged {conn connMu : Option Nat} {before : Activity}
    (coherent : Coherent supplied s) (current : s.activity goroutine = before)
    (holds : activity.holds = before.holds)
    (agrees : activity.Agrees supplied conn)
    (connKept : conn = s.conn ∨ before.holds ≠ none)
    (locks : activity.Locks → connMu = some goroutine)
    (othersLock : ∀ other, other ≠ goroutine → (s.activity other).Locks →
      connMu = some other)
    (runs : ∀ {call}, before.Runs call → activity.Runs call) :
    Coherent supplied ({ s with conn, connMu }.become goroutine activity) := by
  subst current
  apply coherent.moved coherent.inPhase
  · intro function isHeld
    exact coherent.held goroutine function (holds ▸ isHeld)
  · intro other function _
    exact coherent.held other function
  · intro owner other different
    exact coherent.holds_eq_none_of_ne (holds ▸ owner) different
  · exact agrees
  · intro other different
    rcases connKept with rfl | owner
    · exact coherent.agrees other
    · exact Activity.agrees_of_holds_none
        (coherent.holds_eq_none_of_ne owner different)
  · exact locks
  · exact othersLock
  · exact runs (coherent.runs goroutine)
  · intro other _
    rfl
  · intro isSupplied status
    rcases connKept with rfl | owner
    · exact coherent.connected isSupplied status
    · exact absurd status (coherent.not_final owner).2
  · intro status
    rcases connKept with rfl | owner
    · exact coherent.disconnected status
    · exact absurd status (coherent.not_final owner).1

theorem become {before : Activity} (coherent : Coherent supplied s)
    (current : s.activity goroutine = before)
    (holds : activity.holds = before.holds)
    (agrees : activity.Agrees supplied s.conn)
    (locks : activity.Locks → before.Locks)
    (runs : ∀ {call}, before.Runs call → activity.Runs call) :
    Coherent supplied (s.become goroutine activity) := by
  refine coherent.rearranged current holds agrees (.inl rfl) ?_ ?_ runs
  · intro nowLocks
    exact coherent.locked goroutine (current ▸ locks nowLocks)
  · intro other _
    exact coherent.locked other

theorem spawn (coherent : Coherent supplied s) {worker : Nat} {conn : Option Nat}
    {later : ClientSystem} (spawned : s.spawn worker conn = some later) :
    Coherent supplied later := by
  obtain ⟨isIdle, ⟨⟩⟩ := Option.ite_none_right_eq_some.mp spawned
  exact (coherent.setWorkers (s.workers + 1)).become isIdle rfl trivial id id

theorem operation (coherent : Coherent supplied s) {event : StatusEvent}
    {later : StatusSystem} (stepTo : s.status.StepTo event later)
    (isOperation : event.OperationOf goroutine)
    (follows : activity.Follows supplied (later.calls goroutine) s.conn) :
    Coherent supplied ({ s with status := later }.become goroutine activity) := by
  obtain ⟨phase, inPhase⟩ := coherent.inPhase
  obtain ⟨target, -, inTarget⟩ := inPhase.next stepTo
  have outstanding := stepTo.operation_outstanding isOperation
  apply coherent.moved ⟨target, inTarget⟩
  · intro function isHeld
    rw [outstanding]
    exact List.mem_append_left _ (List.mem_of_mem_head? (follows.holds ▸ isHeld))
  · intro other function _ isHeld
    rw [outstanding]
    exact List.mem_append_right _ (coherent.held other function isHeld)
  · intro received other _
    have nothing := inPhase.outstanding_eq_nil_of_handedOut stepTo isOperation
      (by intro empty; simp [follows.holds, empty] at received)
    by_contra holdsToo
    obtain ⟨function, isHeld⟩ := Option.ne_none_iff_exists'.mp holdsToo
    simpa [nothing] using coherent.held other function isHeld
  · exact follows.agrees
  · intro other _
    exact coherent.agrees other
  · intro locks
    exact absurd locks follows.unlocked
  · intro other _
    exact coherent.locked other
  · exact follows.runs
  · intro other different
    exact stepTo.calls_of_ne (isOperation.actor_eq ▸ different)
  · intro isSupplied status
    have before := stepTo.operation_status isOperation (.inr status)
    exact coherent.connected isSupplied (before.symm.trans status)
  · intro status
    have before := stepTo.operation_status isOperation (.inl status)
    exact coherent.disconnected (before.symm.trans status)

theorem withStatus_eq_some {event : StatusEvent} {goOn : Call → Activity}
    {later : ClientSystem}
    (stepped : s.withStatus goroutine event goOn = some later) :
    ∃ status, s.status.StepTo event status ∧
      later = { s with status }.become goroutine
        (goOn (status.calls goroutine)) := by
  obtain ⟨status, statusStep, rfl⟩ := Option.map_eq_some_iff.mp stepped
  exact ⟨status, StatusSystem.stepTo_of_step statusStep, rfl⟩

/-- The holder calls its completion function: with success only when there is
a connection, and otherwise only when there is none. -/
theorem complete {before : Activity} {function : Completion} {argument : Bool}
    {goOn : Call → Activity} {later : ClientSystem} (coherent : Coherent supplied s)
    (current : s.activity goroutine = before)
    (isHeld : before.holds = some function)
    (stepped : s.withStatus goroutine (.complete goroutine function argument)
      goOn = some later)
    (up : supplied → function = .connected → argument = true → s.conn ≠ none)
    (down : function ≠ .connected ∨ argument = false → s.conn = none)
    (goesOn : ∀ {result status},
      s.status.shared.Completed argument function result status →
        (goOn (.returned result)).holds =
            (Call.returned result).handedOut.head? ∧
          (goOn (.returned result)).Agrees supplied s.conn ∧
          ((goOn (.returned result)).Locks → before.Locks) ∧
          (goOn (.returned result)).Runs (.returned result)) :
    Coherent supplied later := by
  subst current
  obtain ⟨status, stepTo, rfl⟩ := withStatus_eq_some stepped
  obtain ⟨phase, inPhase⟩ := coherent.inPhase
  obtain ⟨target, -, inTarget⟩ := inPhase.next stepTo
  have owner : (s.activity goroutine).holds ≠ none := by simp [isHeld]
  obtain ⟨notDisconnected, notConnected⟩ := coherent.not_final owner
  obtain ⟨result, returns, completed⟩ := stepTo.completed inTarget.running
  obtain ⟨holds, agrees, locks, runs⟩ := goesOn completed
  rw [returns]
  apply coherent.moved ⟨target, inTarget⟩
  · intro received isReceived
    rw [stepTo.complete_outstanding inTarget.running, returns]
    exact List.mem_append_left _ (List.mem_of_mem_head? (holds ▸ isReceived))
  · intro other received different otherHolds
    rw [coherent.holds_eq_none_of_ne owner different] at otherHolds
    cases otherHolds
  · intro _ other different
    exact coherent.holds_eq_none_of_ne owner different
  · exact agrees
  · intro other _
    exact coherent.agrees other
  · intro nowLocks
    exact coherent.locked goroutine (locks nowLocks)
  · intro other _
    exact coherent.locked other
  · rw [returns]
    exact runs
  · intro other different
    exact stepTo.calls_of_ne different
  · intro isSupplied status
    obtain ⟨isConnected, succeeded⟩ := completed.of_connected notConnected status
    exact up isSupplied isConnected succeeded
  · intro status
    exact down (completed.of_disconnected notDisconnected status)

end Coherent

end Client

end RmttGo
