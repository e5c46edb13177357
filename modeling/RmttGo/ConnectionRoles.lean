import RmttGo.ClientAgreement

/-!
# What the goroutines of a client do for its connections

The activities of the goroutines, as far as a connection is concerned, and what
a step of the client does to them, to `c.conn` and to the wait group.
-/

namespace RmttGo

namespace Client

/-- What a goroutine does for a connection. -/
inductive Role
  | other
  /-- Has it from `attemptConnection`. -/
  | dialed (conn : Option Nat)
  /-- In `startWorkers`, with the lock. -/
  | installing (conn : Option Nat)
  | works (conn : Option Nat)
  /-- Waits for the workers of a closed connection, which broke or not. -/
  | awaits (broken : Bool)
  /-- Comes to `OnConnectionLost` next. -/
  | reports
  deriving DecidableEq, Repr

def Activity.role : Activity → Role
  | .starting conn => .dialed conn
  | .reporting conn | .startingComms conn => .installing conn
  | .working conn | .lossSeen conn _ | .losing conn | .lossStopping conn _
  | .lossNotRunning conn _ => .works conn
  | .awaitingWorkers => .awaits false
  | .lossAwaiting _ => .awaits true
  | .lossFinishing _ => .reports
  | .idle | .attempting _ | .givingUp | .alreadyRunning | .disconnecting
  | .stopping | .finishing | .finished => .other

theorem Activity.role_afterConnecting (options : Options) (call : Call) :
    (Activity.afterConnecting options call).role = .other := by
  unfold Activity.afterConnecting
  split
  · split <;> rfl
  · rfl

theorem Activity.role_afterDisconnecting (call : Call) :
    (Activity.afterDisconnecting call).role = .other := by
  unfold Activity.afterDisconnecting
  split <;> rfl

theorem Activity.role_afterConnectionLost (conn : Option Nat) (call : Call) :
    (Activity.afterConnectionLost conn call).role = .works conn := by
  unfold Activity.afterConnectionLost
  split <;> rfl

theorem Activity.role_afterHandler (call : Call) :
    (Activity.afterHandler call).role = .other := by
  unfold Activity.afterHandler
  split <;> rfl

/-- Whoever has a connection, waits for workers or reports a loss has a
completion function to call. -/
theorem Activity.holds_of_role {activity : Activity}
    (role : (∃ conn, activity.role = .dialed conn) ∨
      (∃ broken, activity.role = .awaits broken) ∨ activity.role = .reports) :
    activity.holds ≠ none := by
  cases activity <;> simp [Activity.role, Activity.holds] at role ⊢

theorem Activity.locks_of_role {activity : Activity} {conn : Option Nat}
    (role : activity.role = .installing conn) : activity.Locks := by
  cases activity <;> simp [Activity.role, Activity.Locks] at role ⊢

namespace ClientSystem

variable {options : Options} {s next : ClientSystem} {event : ClientEvent}

def roles (s : ClientSystem) (goroutine : Nat) : Role :=
  (s.activity goroutine).role

theorem roles_of_activity {goroutine : Nat} {activity : Activity}
    (current : s.activity goroutine = activity) :
    s.roles goroutine = activity.role := by
  rw [roles, current]

theorem roles_become (goroutine : Nat) (activity : Activity) :
    (s.become goroutine activity).roles =
      Function.update s.roles goroutine activity.role := by
  funext other
  by_cases same : other = goroutine
  · subst same
    simp [roles, become]
  · simp [roles, become, same]

/-- The parts of the client that its connections depend on. -/
structure Leads (next : ClientSystem) (roles : Nat → Role) (conn : Option Nat)
    (workers : Nat) : Prop where
  roles : next.roles = roles
  conn : next.conn = conn
  workers : next.workers = workers

inductive RoleStep (s next : ClientSystem) : ClientEvent → Prop
  | quiet {event : ClientEvent}
      (notDialed : ∀ goroutine conn, event ≠ .attemptSucceeded goroutine conn)
      (notStopped : ∀ goroutine waiter, event = .stopCommsWorkers goroutine waiter →
        s.conn = none)
      (notReported : ∀ goroutine, event = .disDone goroutine →
        s.roles goroutine ≠ .reports)
      (leads : next.Leads s.roles s.conn s.workers) : RoleStep s next event
  | dial {goroutine : Nat} {conn : Option Nat} {isReconnect : Bool}
      (attempting : s.activity goroutine = .attempting isReconnect)
      (leads : next.Leads (Function.update s.roles goroutine (.dialed conn)) s.conn
        s.workers) : RoleStep s next (.attemptSucceeded goroutine conn)
  | install {goroutine keepalive : Nat} {conn : Option Nat}
      (dialed : s.roles goroutine = .dialed conn) (vacant : s.conn = none)
      (leads : next.Leads (Function.update s.roles goroutine (.installing conn))
        conn s.workers) : RoleStep s next (.startWorkers goroutine keepalive)
  | installAlive {goroutine keepalive : Nat} {conn : Option Nat}
      (dialed : s.roles goroutine = .dialed conn) (vacant : s.conn = none)
      (idle : s.roles keepalive = .other)
      (leads : next.Leads (Function.update
        (Function.update s.roles goroutine (.installing conn)) keepalive
          (.works conn)) conn (s.workers + 1)) :
      RoleStep s next (.startWorkers goroutine keepalive)
  | start {goroutine comms incoming : Nat} {conn : Option Nat}
      (installing : s.roles goroutine = .installing conn)
      (idle : s.roles comms = .other) (idleToo : s.roles incoming = .other)
      (different : incoming ≠ comms)
      (leads : next.Leads (Function.update (Function.update
        (Function.update s.roles goroutine .other) comms (.works conn)) incoming
          (.works conn)) s.conn (s.workers + 2)) :
      RoleStep s next (.startComms goroutine comms incoming)
  | stop {goroutine waiter conn : Nat} (unlocked : s.connMu = none)
      (stopping : s.activity goroutine = .stopping) (current : s.conn = some conn)
      (leads : next.Leads (Function.update s.roles goroutine (.awaits false)) none
        s.workers) : RoleStep s next (.stopCommsWorkers goroutine waiter)
  | stopLost {goroutine waiter conn : Nat} {own : Option Nat}
      {reconnectRequested : Bool}
      (unlocked : s.connMu = none)
      (stopping : s.activity goroutine = .lossStopping own reconnectRequested)
      (current : s.conn = some conn) (idle : s.roles waiter = .other)
      (leads : next.Leads (Function.update s.roles waiter (.awaits true)) none
        s.workers) : RoleStep s next (.stopCommsWorkers goroutine waiter)
  | join {goroutine : Nat} (empty : s.workers = 0)
      (awaiting : s.roles goroutine = .awaits false)
      (leads : next.Leads (Function.update s.roles goroutine .other) s.conn
        s.workers) : RoleStep s next (.workersStopped goroutine)
  | joinLost {goroutine : Nat} (empty : s.workers = 0)
      (awaiting : s.roles goroutine = .awaits true)
      (leads : next.Leads (Function.update s.roles goroutine .reports) s.conn
        s.workers) : RoleStep s next (.workersStopped goroutine)
  | report {goroutine : Nat} {reconnectRequested : Bool}
      (finishing : s.activity goroutine = .lossFinishing reconnectRequested)
      (leads : next.Leads (Function.update s.roles goroutine .other) s.conn
        s.workers) : RoleStep s next (.disDone goroutine)
  | leave {goroutine : Nat} {conn : Option Nat} (working : s.roles goroutine = .works conn)
      (leads : next.Leads (Function.update s.roles goroutine .other) s.conn
        (s.workers - 1)) : RoleStep s next (.workerDone goroutine)

section Moves

theorem leads_become {before : ClientSystem} (same : before.activity = s.activity)
    (goroutine : Nat) (activity : Activity) :
    (before.become goroutine activity).Leads
      (Function.update s.roles goroutine activity.role) before.conn
        before.workers := by
  refine ⟨?_, rfl, rfl⟩
  rw [roles_become]
  congr 1
  funext other
  rw [roles, roles, same]

theorem leads_same {before : ClientSystem} (same : before.activity = s.activity)
    {goroutine : Nat} {activity : Activity}
    (role : activity.role = s.roles goroutine) :
    (before.become goroutine activity).Leads s.roles before.conn
      before.workers := by
  have leads := leads_become same goroutine activity
  rwa [role, Function.update_eq_self] at leads

theorem leads_withStatus {goroutine : Nat} {statusEvent : StatusEvent}
    {goOn : Call → Activity} {before : ClientSystem} {role : Role}
    (stepped : before.withStatus goroutine statusEvent goOn = some next)
    (same : before.activity = s.activity)
    (goesOn : ∀ call, (goOn call).role = role) :
    next.Leads (Function.update s.roles goroutine role) before.conn
      before.workers := by
  obtain ⟨status, -, rfl⟩ := Option.map_eq_some_iff.mp stepped
  rw [← goesOn (status.calls goroutine)]
  have sameStill : { before with status }.activity = s.activity := same
  exact leads_become sameStill goroutine _

theorem leads_withStatus_same {goroutine : Nat} {statusEvent : StatusEvent}
    {goOn : Call → Activity} {before : ClientSystem}
    (stepped : before.withStatus goroutine statusEvent goOn = some next)
    (same : before.activity = s.activity)
    (goesOn : ∀ call, (goOn call).role = s.roles goroutine) :
    next.Leads s.roles before.conn before.workers := by
  have leads := leads_withStatus stepped same goesOn
  rwa [Function.update_eq_self] at leads

theorem leads_spawn {worker : Nat} {conn : Option Nat} {before : ClientSystem}
    {roles : Nat → Role} (beforeRoles : before.roles = roles)
    (spawned : before.spawn worker conn = some next) :
    roles worker = .other ∧ next.Leads (Function.update roles worker (.works conn))
      before.conn (before.workers + 1) := by
  obtain ⟨idle, ⟨⟩⟩ := Option.ite_none_right_eq_some.mp spawned
  refine ⟨?_, ?_, rfl, rfl⟩
  · rw [← beforeRoles]
    exact roles_of_activity idle
  · rw [roles_become, ← beforeRoles]
    rfl

end Moves

section Steps

variable {goroutine : Nat}

/-- A step that is neither an attempt nor part of a teardown. -/
theorem RoleStep.aside {event : ClientEvent}
    (notDialed : ∀ goroutine conn, event ≠ .attemptSucceeded goroutine conn)
    (notStopped : ∀ goroutine waiter, event ≠ .stopCommsWorkers goroutine waiter)
    (notDone : ∀ goroutine, event ≠ .disDone goroutine)
    (leads : next.Leads s.roles s.conn s.workers) : RoleStep s next event :=
  .quiet notDialed (fun goroutine waiter isEvent =>
    absurd isEvent (notStopped goroutine waiter))
    (fun goroutine isEvent => absurd isEvent (notDone goroutine)) leads

theorem roleStep_of_startWorkers {supplied : Prop} (coherent : Coherent supplied s)
    {keepalive : Nat}
    (stepped : s.step options (.startWorkers goroutine keepalive) = some next) :
    RoleStep s next (.startWorkers goroutine keepalive) := by
  simp only [step] at stepped
  split at stepped
  case h_1 conn starting =>
    have dialed : s.roles goroutine = .dialed conn := roles_of_activity starting
    have vacant : s.conn = none := by
      have agrees := coherent.agrees goroutine
      rw [starting] at agrees
      exact agrees.1
    have installed : (s.install goroutine conn).roles =
        Function.update s.roles goroutine (.installing conn) :=
      roles_become goroutine (.reporting conn)
    obtain ⟨-, stepped⟩ := Option.ite_none_left_eq_some.mp stepped
    rw [if_neg (not_not_intro vacant)] at stepped
    split at stepped
    · obtain ⟨idle, leads⟩ := leads_spawn installed stepped
      have different : keepalive ≠ goroutine := by
        rintro rfl
        rw [Function.update_self] at idle
        cases idle
      rw [Function.update_of_ne different] at idle
      exact .installAlive dialed vacant idle leads
    · cases stepped
      exact .install dialed vacant ⟨installed, rfl, rfl⟩
  case h_2 => cases stepped

theorem roleStep_of_startComms {comms incoming : Nat}
    (stepped : s.step options (.startComms goroutine comms incoming) = some next) :
    RoleStep s next (.startComms goroutine comms incoming) := by
  simp only [step] at stepped
  split at stepped
  case h_1 conn starting =>
    obtain ⟨between, spawned, spawnedToo⟩ := Option.bind_eq_some_iff.mp stepped
    have released : ({ s with connMu := none }.become goroutine .finished).roles =
        Function.update s.roles goroutine .other :=
      roles_become goroutine .finished
    have installing : s.roles goroutine = .installing conn :=
      roles_of_activity starting
    have isIdle := (Option.ite_none_right_eq_some.mp spawned).1
    have isIdleToo := (Option.ite_none_right_eq_some.mp spawnedToo).1
    obtain ⟨idle, leads⟩ := leads_spawn released spawned
    obtain ⟨idleToo, leadsToo⟩ := leads_spawn leads.roles spawnedToo
    rw [leads.conn, leads.workers] at leadsToo
    have differs : comms ≠ goroutine := by
      rintro rfl
      cases isIdle.symm.trans (Function.update_self ..)
    have different : incoming ≠ comms := by
      rintro rfl
      rw [Function.update_self] at idleToo
      cases idleToo
    have differsToo : incoming ≠ goroutine := by
      rintro rfl
      have finished : between.activity incoming = .finished := by
        obtain ⟨-, ⟨⟩⟩ := Option.ite_none_right_eq_some.mp spawned
        simp [become, different]
      cases isIdleToo.symm.trans finished
    rw [Function.update_of_ne differs] at idle
    rw [Function.update_of_ne different, Function.update_of_ne differsToo] at idleToo
    exact .start installing idle idleToo different leadsToo
  case h_2 => cases stepped

theorem roleStep_of_stopCommsWorkers {waiter : Nat}
    (stepped : s.step options (.stopCommsWorkers goroutine waiter) = some next) :
    RoleStep s next (.stopCommsWorkers goroutine waiter) := by
  obtain ⟨locked, stepped⟩ := Option.ite_none_left_eq_some.mp stepped
  have unlocked : s.connMu = none := not_not.mp locked
  split at stepped
  case h_1 stopping none =>
    cases stepped
    exact .quiet (by simp) (fun _ _ _ => none) (by simp)
      (leads_same rfl (roles_of_activity stopping).symm)
  case h_2 conn stopping current =>
    cases stepped
    have same : { s with conn := none }.activity = s.activity := rfl
    exact .stop unlocked stopping current
      (leads_become same goroutine .awaitingWorkers)
  case h_3 own reconnectRequested stopping none =>
    cases stepped
    exact .quiet (by simp) (fun _ _ _ => none) (by simp)
      (leads_same rfl (roles_of_activity stopping).symm)
  case h_4 own reconnectRequested conn stopping current =>
    obtain ⟨idle, ⟨⟩⟩ := Option.ite_none_right_eq_some.mp stepped
    have same : { s with conn := none }.activity = s.activity := rfl
    have role : Activity.role (.working own) = s.roles goroutine :=
      (roles_of_activity stopping).symm
    have goesOn := (leads_same same role).roles
    refine .stopLost unlocked stopping current (roles_of_activity idle) ⟨?_, rfl, rfl⟩
    rw [roles_become, goesOn]
    rfl
  case h_5 => cases stepped

theorem roleStep_of_workersStopped
    (stepped : s.step options (.workersStopped goroutine) = some next) :
    RoleStep s next (.workersStopped goroutine) := by
  obtain ⟨notEmpty, stepped⟩ := Option.ite_none_left_eq_some.mp stepped
  have empty : s.workers = 0 := not_not.mp notEmpty
  split at stepped
  case h_1 awaiting =>
    cases stepped
    exact .join empty (roles_of_activity awaiting) (leads_become rfl goroutine .finishing)
  case h_2 reconnectRequested awaiting =>
    cases stepped
    exact .joinLost empty (roles_of_activity awaiting)
      (leads_become rfl goroutine (.lossFinishing reconnectRequested))
  case h_3 => cases stepped

theorem roleStep_of_disDone
    (stepped : s.step options (.disDone goroutine) = some next) :
    RoleStep s next (.disDone goroutine) := by
  simp only [step] at stepped
  split at stepped
  case h_1 finishing =>
    have role := roles_of_activity finishing
    refine .quiet (by simp) (by simp) ?_
      (leads_withStatus_same stepped rfl fun _ => role.symm)
    rintro _ ⟨⟩
    rw [role]
    simp [Activity.role]
  case h_2 conn reconnectRequested notRunning =>
    have role := roles_of_activity notRunning
    refine .quiet (by simp) (by simp) ?_
      (leads_withStatus_same stepped rfl fun _ => role.symm)
    rintro _ ⟨⟩
    rw [role]
    simp [Activity.role]
  case h_3 reconnectRequested finishing =>
    exact .report finishing (leads_withStatus stepped rfl Activity.role_afterHandler)
  case h_4 => cases stepped

theorem roleStep_of_connectionUp
    (stepped : s.step options (.connectionUp goroutine) = some next) :
    RoleStep s next (.connectionUp goroutine) := by
  refine .aside (by simp) (by simp) (by simp) ?_
  simp only [step] at stepped
  split at stepped
  case h_1 current | h_3 conn current =>
    exact leads_withStatus_same stepped rfl fun _ => (roles_of_activity current).symm
  case h_2 current =>
    have leads := leads_withStatus_same (s := s) stepped rfl
      fun _ => (roles_of_activity current).symm
    exact leads
  case h_4 => cases stepped

/-- What a step of the client does for its connections. -/
theorem roleStep_of_step {supplied : Prop} (coherent : Coherent supplied s)
    (stepped : s.step options event = some next) : RoleStep s next event := by
  cases event with
  | startWorkers goroutine keepalive => exact roleStep_of_startWorkers coherent stepped
  | startComms goroutine comms incoming => exact roleStep_of_startComms stepped
  | stopCommsWorkers goroutine waiter => exact roleStep_of_stopCommsWorkers stepped
  | workersStopped goroutine => exact roleStep_of_workersStopped stepped
  | disDone goroutine => exact roleStep_of_disDone stepped
  | connectionUp goroutine => exact roleStep_of_connectionUp stepped
  | connect goroutine =>
      obtain ⟨idle, stepped⟩ := Option.ite_none_right_eq_some.mp stepped
      have goesOn (call : Call) :
          (Activity.afterConnecting options call).role = s.roles goroutine :=
        (Activity.role_afterConnecting options call).trans (roles_of_activity idle).symm
      exact .aside (by simp) (by simp) (by simp)
        (leads_withStatus_same stepped rfl goesOn)
  | attemptFailed goroutine retryable conn =>
      refine .aside (by simp) (by simp) (by simp) ?_
      simp only [step] at stepped
      split at stepped
      case h_1 attempting =>
        split at stepped <;> cases stepped
        · exact ⟨rfl, rfl, rfl⟩
        · exact leads_same rfl (roles_of_activity attempting).symm
      case h_2 attempting =>
        split at stepped <;> cases stepped
        · exact leads_same rfl (roles_of_activity attempting).symm
        · exact ⟨rfl, rfl, rfl⟩
      case h_3 => cases stepped
  | attemptSucceeded goroutine conn =>
      simp only [step] at stepped
      split at stepped
      case h_1 isReconnect attempting =>
        cases stepped
        exact .dial attempting (leads_become rfl goroutine (.starting conn))
      case h_2 => cases stepped
  | disconnect goroutine =>
      obtain ⟨idle, stepped⟩ := Option.ite_none_right_eq_some.mp stepped
      have goesOn (call : Call) :
          (Activity.afterDisconnecting call).role = s.roles goroutine :=
        (Activity.role_afterDisconnecting call).trans (roles_of_activity idle).symm
      exact .aside (by simp) (by simp) (by simp)
        (leads_withStatus_same stepped rfl goesOn)
  | resume goroutine =>
      refine .aside (by simp) (by simp) (by simp) ?_
      simp only [step] at stepped
      split at stepped
      case h_1 current =>
        exact leads_withStatus_same stepped rfl fun call =>
          (Activity.role_afterDisconnecting call).trans
            (roles_of_activity current).symm
      case h_2 conn current =>
        exact leads_withStatus_same stepped rfl fun call =>
          (Activity.role_afterConnectionLost conn call).trans
            (roles_of_activity current).symm
      case h_3 => cases stepped
  | reportLoss goroutine =>
      refine .aside (by simp) (by simp) (by simp) ?_
      simp only [step] at stepped
      split at stepped
      case h_1 conn working =>
        cases stepped
        exact leads_same rfl (roles_of_activity working).symm
      case h_2 => cases stepped
  | connectionLost goroutine =>
      refine .aside (by simp) (by simp) (by simp) ?_
      simp only [step] at stepped
      split at stepped
      case h_1 conn willReconnect seen =>
        exact leads_withStatus_same stepped rfl fun call =>
          (Activity.role_afterConnectionLost conn call).trans
            (roles_of_activity seen).symm
      case h_2 => cases stepped
  | workerDone goroutine =>
      simp only [step] at stepped
      split at stepped
      case h_1 conn working =>
        cases stepped
        have same : { s with workers := s.workers - 1 }.activity = s.activity := rfl
        exact .leave (roles_of_activity working) (leads_become same goroutine .finished)
      case h_2 => cases stepped

end Steps

end ClientSystem

end Client

end RmttGo
