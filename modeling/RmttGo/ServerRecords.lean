import RmttGo.SessionSteps

/-!
# What a server step does to the tasks and records

The goroutines beside the handlers, and what a step adds to the lifecycle
events, to the registrations and to the messages of the server.
-/

namespace RmttGo

namespace Server

open Codec

/-- The steps that can add to the registrations, events or messages. -/
def ServerEvent.records : ServerEvent → Bool
  | .register _ | .establish _ | .notify _ | .read _ | .proceed _ _ _ => true
  | _ => false

namespace ServerSystem

variable {options : ServerOptions} {s next : ServerSystem} {conn task : Nat}
  {event : ServerEvent}

section Tasks

/-- Where a task stands after its next step. -/
def follow (s : ServerSystem) : Task → Task
  | .pushFound conn payload =>
      if (s.device conn).active then .pushWriting conn payload else .finished
  | .kickFound deviceID conn reason =>
      if (s.device conn).active then .kickSending deviceID conn reason
      else .finished
  | .kickSending deviceID conn reason => .kickClosing deviceID conn reason
  | .kickClosing deviceID conn reason => .kickRemoving deviceID conn reason
  | .kickRemoving deviceID conn reason => .kickNotifying deviceID conn reason
  | .takeoverSending prev => .takeoverClosing prev
  | .reapSending conn => .reapClosing conn
  | .shutdownListing => .shutdownSending s.store.all
  | .shutdownSending (conn :: remaining) => .shutdownClosing conn remaining
  | .shutdownSending [] => .shutdownWaiting
  | .shutdownClosing _ remaining => .shutdownSending remaining
  | .idle => .idle
  | .pushWriting _ _ | .kickNotifying _ _ _ | .takeoverClosing _ | .reapClosing _
  | .shutdownWaiting | .finished => .finished

theorem tasks_of_proceed {now : Nat} {outcome : TransportOutcome}
    (proceeded : s.proceed task now outcome = some next) :
    next.tasks = Function.update s.tasks task (s.follow (s.tasks task)) := by
  unfold proceed at proceeded
  split at proceeded
  all_goals
    rename_i current
    simp only [current, follow]
  all_goals try split at proceeded
  all_goals cases proceeded
  all_goals first | rfl | simp_all [setTask]

inductive TaskStep (s : ServerSystem) (task : Nat) : ServerEvent → Task → Prop
  | untouched {event : ServerEvent} : TaskStep s task event (s.tasks task)
  | push {deviceID payload : Bytes} {conn : Nat} :
      TaskStep s task (.push task deviceID payload) (.pushFound conn payload)
  | kick {deviceID : Bytes} {reason : UInt8} {conn : Nat} :
      TaskStep s task (.kick task deviceID reason)
        (.kickFound deviceID conn reason)
  | notFound {event : ServerEvent} : TaskStep s task event .finished
  | takeOver {conn prev : Nat} :
      TaskStep s task (.takeOver conn task) (.takeoverSending prev)
  | reap {conn : Nat} : TaskStep s task (.reap task conn) (.reapSending conn)
  | shutdown : TaskStep s task (.shutdown task) .shutdownListing
  | proceed {now : Nat} {outcome : TransportOutcome} :
      TaskStep s task (.proceed task now outcome) (s.follow (s.tasks task))

theorem taskStep_update {position : Task}
    (own : s.TaskStep task event position) (other : Nat) :
    s.TaskStep other event (Function.update s.tasks task position other) := by
  by_cases same : other = task
  · subst same
    rw [Function.update_self]
    exact own
  · rw [Function.update_of_ne same]
    exact .untouched

theorem taskStep_of_spawn {position : Task} {before : ServerSystem}
    (sameTasks : before.tasks = s.tasks)
    (spawned : before.spawn task position = some next)
    (own : s.TaskStep task event position) (other : Nat) :
    s.TaskStep other event (next.tasks other) := by
  obtain ⟨_, ⟨⟩⟩ := Option.ite_none_right_eq_some.mp spawned
  have updated := taskStep_update own other
  rw [← sameTasks] at updated
  exact updated

/-- The task a step starts or takes further. -/
def concerns : ServerEvent → Option Nat
  | .takeOver _ task | .push task _ _ | .kick task _ _ | .reap task _
  | .shutdown task | .proceed task _ _ => some task
  | _ => none

theorem tasks_eq_of_step (stepped : step options s event = some next)
    (nobody : concerns event = none) : next.tasks = s.tasks := by
  cases event with
  | takeOver | push | kick | reap | shutdown | proceed => cases nobody
  | read conn =>
      simp only [step] at stepped
      split at stepped
      · cases stepped
      · split at stepped
        case h_1 =>
          cases stepped
          rw [greeted_setSession]
          rfl
        case h_3 =>
          cases stepped
          unfold received
          repeat' split
          all_goals rfl
        all_goals cases stepped <;> rfl
  | _ =>
      simp only [step] at stepped
      repeat' split at stepped
      all_goals cases stepped <;> rfl

theorem taskStep_of_step (stepped : step options s event = some next)
    (other : Nat) : s.TaskStep other event (next.tasks other) := by
  cases event with
  | takeOver conn task =>
      simp only [step] at stepped
      split at stepped
      case h_1 =>
        refine taskStep_of_spawn ?_ stepped .takeOver other
        rfl
      case h_2 => cases stepped
  | push task deviceID payload =>
      simp only [step] at stepped
      split at stepped
      · exact taskStep_of_spawn rfl stepped .push other
      · exact taskStep_of_spawn rfl stepped .notFound other
  | kick task deviceID reason =>
      simp only [step] at stepped
      split at stepped
      · exact taskStep_of_spawn rfl stepped .kick other
      · exact taskStep_of_spawn rfl stepped .notFound other
  | reap task conn =>
      simp only [step] at stepped
      split at stepped
      case h_5 => cases stepped
      all_goals
        obtain ⟨_, spawned⟩ := Option.ite_none_right_eq_some.mp stepped
        exact taskStep_of_spawn rfl spawned .reap other
  | shutdown task =>
      refine taskStep_of_spawn ?_ stepped .shutdown other
      rfl
  | proceed task now outcome =>
      rw [tasks_of_proceed stepped]
      exact taskStep_update .proceed other
  | _ =>
      rw [tasks_eq_of_step stepped rfl]
      exact .untouched

theorem task_stays_of_spawn {position : Task} {before : ServerSystem} {other : Nat}
    (sameTasks : before.tasks = s.tasks)
    (spawned : before.spawn task position = some next)
    (busy : s.tasks other ≠ .idle) : next.tasks other = s.tasks other := by
  obtain ⟨isIdle, ⟨⟩⟩ := Option.ite_none_right_eq_some.mp spawned
  rw [sameTasks] at isIdle
  have different : other ≠ task := by
    rintro rfl
    exact busy isIdle
  rw [tasks_setTask, if_neg different, sameTasks]

/-- A task that has started moves by its own steps only. -/
theorem task_stays {other : Nat} (stepped : step options s event = some next)
    (busy : s.tasks other ≠ .idle)
    (notOwn : ∀ now outcome, event ≠ .proceed other now outcome) :
    next.tasks other = s.tasks other := by
  cases event with
  | takeOver conn task =>
      simp only [step] at stepped
      split at stepped
      case h_1 =>
        refine task_stays_of_spawn ?_ stepped busy
        rfl
      case h_2 => cases stepped
  | push task deviceID payload =>
      simp only [step] at stepped
      split at stepped
      · exact task_stays_of_spawn rfl stepped busy
      · exact task_stays_of_spawn rfl stepped busy
  | kick task deviceID reason =>
      simp only [step] at stepped
      split at stepped
      · exact task_stays_of_spawn rfl stepped busy
      · exact task_stays_of_spawn rfl stepped busy
  | reap task conn =>
      simp only [step] at stepped
      split at stepped
      case h_5 => cases stepped
      all_goals
        obtain ⟨_, spawned⟩ := Option.ite_none_right_eq_some.mp stepped
        exact task_stays_of_spawn rfl spawned busy
  | shutdown task =>
      refine task_stays_of_spawn ?_ stepped busy
      rfl
  | proceed task now outcome =>
      have different : other ≠ task := by
        rintro rfl
        exact notOwn now outcome rfl
      rw [tasks_of_proceed stepped, Function.update_of_ne different]
  | _ => rw [tasks_eq_of_step stepped rfl]

end Tasks

section Records

/-- The calls of the `ConnectionListener` that a step makes. -/
def reports (s : ServerSystem) : ServerEvent → List LifecycleEvent
  | .establish conn => [.established (s.device conn).deviceID conn]
  | .notify conn => [.closed (s.device conn).deviceID conn .connectionClosed]
  | .proceed task _ _ =>
      match s.tasks task with
      | .kickNotifying deviceID conn reason =>
          [.closed deviceID conn (.kicked reason)]
      | _ => []
  | _ => []

theorem records_eq_of_step (stepped : step options s event = some next)
    (quiet : event.records = false) :
    next.registrations = s.registrations ∧ next.events = s.events ∧
      next.messages = s.messages := by
  cases event
  case register | establish | notify | read | proceed => cases quiet
  all_goals
    simp only [step] at stepped
    repeat' split at stepped
  all_goals
    first
      | cases stepped <;> exact ⟨rfl, rfl, rfl⟩
      | obtain ⟨_, ⟨⟩⟩ := Option.ite_none_right_eq_some.mp stepped
        exact ⟨rfl, rfl, rfl⟩

theorem events_of_proceed {now : Nat} {outcome : TransportOutcome}
    (proceeded : s.proceed task now outcome = some next) :
    next.events = s.events ++ s.reports (.proceed task now outcome) ∧
      next.registrations = s.registrations ∧ next.messages = s.messages := by
  cases current : s.tasks task with
  | kickNotifying deviceID conn reason =>
      simp only [proceed, current] at proceeded
      cases proceeded
      simp [reports, current, report, setTask]
  | shutdownSending remaining =>
      have silent : s.reports (.proceed task now outcome) = [] := by
        simp [reports, current]
      rw [silent, List.append_nil]
      cases remaining with
      | nil =>
          simp only [proceed, current] at proceeded
          cases proceeded
          exact ⟨rfl, rfl, rfl⟩
      | cons conn remaining =>
          simp only [proceed, current] at proceeded
          cases proceeded
          exact ⟨rfl, rfl, rfl⟩
  | _ =>
      have silent : s.reports (.proceed task now outcome) = [] := by
        simp [reports, current]
      rw [silent, List.append_nil]
      simp only [proceed, current] at proceeded
      repeat' split at proceeded
      all_goals cases proceeded <;> exact ⟨rfl, rfl, rfl⟩

theorem events_of_received (serverKp : Int) (packet : ControlPacket) :
    (received options s conn serverKp packet).events = s.events ∧
      (received options s conn serverKp packet).registrations =
        s.registrations ∧
      ((received options s conn serverKp packet).messages = s.messages ∨
        ∃ payload, (received options s conn serverKp packet).messages =
          s.messages ++ [(conn, (s.device conn).deviceID, payload)]) := by
  unfold received
  split
  · split
    · exact ⟨rfl, rfl, .inr ⟨_, rfl⟩⟩
    · exact ⟨rfl, rfl, .inl rfl⟩
  all_goals exact ⟨rfl, rfl, .inl rfl⟩

theorem records_of_read (stepped : step options s (.read conn) = some next) :
    next.events = s.events ∧ next.registrations = s.registrations ∧
      (next.messages = s.messages ∨
        ∃ payload serverKp, s.handler conn = .looping serverKp ∧
          next.messages =
            s.messages ++ [(conn, (s.device conn).deviceID, payload)]) := by
  simp only [step] at stepped
  split at stepped
  · cases stepped
  · split at stepped
    case h_1 packet inbound position _ =>
      cases stepped
      rw [greeted_setSession]
      exact ⟨rfl, rfl, .inl rfl⟩
    case h_3 serverKp packet inbound position _ =>
      cases stepped
      obtain ⟨events, registrations, messages⟩ := @events_of_received options
        (s.setSession conn { s.sessions conn with inbound }) conn serverKp packet
      refine ⟨events, registrations, ?_⟩
      rw [device_setSession, if_pos rfl] at messages
      rcases messages with same | ⟨payload, added⟩
      · exact .inl same
      · exact .inr ⟨payload, serverKp, position, added⟩
    all_goals cases stepped <;> exact ⟨rfl, rfl, .inl rfl⟩

/-- Every record grows by what the step reports, registers or receives. -/
theorem records_of_step (stepped : step options s event = some next) :
    next.events = s.events ++ s.reports event ∧
      (next.registrations = s.registrations ∨
        ∃ conn serverKp, event = .register conn ∧
          s.handler conn = .registering serverKp ∧
          next.registrations =
            ((s.device conn).deviceID, conn) :: s.registrations) ∧
      (next.messages = s.messages ∨
        ∃ conn payload serverKp, event = .read conn ∧
          s.handler conn = .looping serverKp ∧
          next.messages =
            s.messages ++ [(conn, (s.device conn).deviceID, payload)]) := by
  cases event with
  | register conn =>
      simp only [step] at stepped
      split at stepped
      case h_1 serverKp position =>
        cases stepped
        exact ⟨(List.append_nil _).symm,
          .inr ⟨conn, serverKp, rfl, position, rfl⟩, .inl rfl⟩
      case h_2 => cases stepped
  | establish conn =>
      simp only [step] at stepped
      split at stepped <;> cases stepped
      exact ⟨rfl, .inl rfl, .inl rfl⟩
  | notify conn =>
      obtain ⟨_, ⟨⟩⟩ := Option.ite_none_right_eq_some.mp stepped
      exact ⟨rfl, .inl rfl, .inl rfl⟩
  | read conn =>
      obtain ⟨events, registrations, messages⟩ := records_of_read stepped
      refine ⟨events.trans (List.append_nil _).symm, .inl registrations, ?_⟩
      rcases messages with same | ⟨payload, serverKp, added⟩
      · exact .inl same
      · exact .inr ⟨conn, payload, serverKp, rfl, added⟩
  | proceed task now outcome =>
      obtain ⟨events, registrations, messages⟩ := events_of_proceed stepped
      exact ⟨events, .inl registrations, .inl messages⟩
  | _ =>
      obtain ⟨registrations, events, messages⟩ := records_eq_of_step stepped rfl
      exact ⟨events.trans (List.append_nil _).symm, .inl registrations,
        .inl messages⟩

theorem events_of_step (stepped : step options s event = some next) :
    next.events = s.events ++ s.reports event :=
  (records_of_step stepped).1

theorem counters_of_proceed {now : Nat} {outcome : TransportOutcome}
    (proceeded : s.proceed task now outcome = some next) :
    next.running = s.running ∧ next.listening = s.listening := by
  unfold proceed at proceeded
  split at proceeded
  all_goals try split at proceeded
  all_goals cases proceeded <;> exact ⟨rfl, rfl⟩

theorem counters_of_read (stepped : step options s (.read conn) = some next) :
    next.running = s.running ∧ next.listening = s.listening := by
  simp only [step] at stepped
  split at stepped
  · cases stepped
  · split at stepped
    case h_1 =>
      cases stepped
      rw [greeted_setSession]
      exact ⟨rfl, rfl⟩
    case h_3 =>
      cases stepped
      unfold received
      repeat' split
      all_goals exact ⟨rfl, rfl⟩
    all_goals cases stepped <;> exact ⟨rfl, rfl⟩

/-- The wait group counts the handlers that have entered and not yet left, and
only a shutdown stops the listeners. -/
theorem counters_of_step (stepped : step options s event = some next) :
    (next.running =
      match event with
      | .enter _ => s.running + 1
      | .leave _ => s.running - 1
      | _ => s.running) ∧
    (next.listening =
      match event with
      | .shutdown _ => false
      | _ => s.listening) := by
  cases event with
  | read conn => exact counters_of_read stepped
  | proceed task now outcome => exact counters_of_proceed stepped
  | _ =>
      simp only [step] at stepped
      repeat' split at stepped
      all_goals
        first
          | cases stepped <;> exact ⟨rfl, rfl⟩
          | obtain ⟨_, ⟨⟩⟩ := Option.ite_none_right_eq_some.mp stepped
            exact ⟨rfl, rfl⟩

end Records

end ServerSystem

end Server

end RmttGo
