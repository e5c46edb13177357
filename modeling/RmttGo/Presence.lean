import RmttGo.LifecycleEvents

/-!
# Presence and the lifecycle events

A listener that follows only the device IDs of the lifecycle events takes the
last event of a device for its presence.  The store and the events are changed
in separate steps, so this can be right only between such pairs of steps; and a
superseded connection reports its end at any time after its successor has
reported its start.
-/

namespace RmttGo

namespace Server

open Codec

def LifecycleEvent.deviceID : LifecycleEvent → Bytes
  | .established deviceID _ => deviceID
  | .closed deviceID _ _ => deviceID

/-- The last event reported for the device. -/
def lastEvent (events : List LifecycleEvent) (deviceID : Bytes) :
    Option LifecycleEvent :=
  (events.filter (·.deviceID = deviceID)).getLast?

def Online (events : List LifecycleEvent) (deviceID : Bytes) : Prop :=
  ∃ conn, lastEvent events deviceID = some (.established deviceID conn)

theorem lastEvent_append_singleton (events : List LifecycleEvent)
    (event : LifecycleEvent) (deviceID : Bytes) :
    lastEvent (events ++ [event]) deviceID =
      if event.deviceID = deviceID then some event
      else lastEvent events deviceID := by
  by_cases same : event.deviceID = deviceID
  · simp [lastEvent, same]
  · simp [lastEvent, same]

theorem online_append_established (events : List LifecycleEvent)
    (deviceID other : Bytes) (conn : Nat) :
    Online (events ++ [.established deviceID conn]) other ↔
      deviceID = other ∨ Online events other := by
  unfold Online
  rw [lastEvent_append_singleton]
  by_cases same : deviceID = other
  · subst same
    simp [LifecycleEvent.deviceID]
  · simp [LifecycleEvent.deviceID, same]

theorem online_append_closed (events : List LifecycleEvent)
    (deviceID other : Bytes) (conn : Nat) (reason : CloseReason) :
    Online (events ++ [.closed deviceID conn reason]) other ↔
      deviceID ≠ other ∧ Online events other := by
  unfold Online
  rw [lastEvent_append_singleton]
  by_cases same : deviceID = other
  · subst same
    simp [LifecycleEvent.deviceID]
  · simp [LifecycleEvent.deviceID, same]

/-- The handler is between its store update and its event call. -/
def Handler.pending : Handler → Bool
  | .takingOver _ _ | .establishing _ | .notifying => true
  | _ => false

theorem Handler.live_of_settled {handler : Handler}
    (registered : handler.stage = .registered)
    (settled : handler.pending = false) : handler.progress = .live := by
  cases handler <;> simp_all [Handler.stage, Handler.pending, Handler.progress]

/-- A `Kick` in any position. -/
def Task.ofKick : Task → Bool
  | .kickFound _ _ _ | .kickSending _ _ _ | .kickClosing _ _ _
  | .kickRemoving _ _ _ | .kickNotifying _ _ _ => true
  | _ => false

theorem Task.kicking_of_ofKick {task : Task} (notKick : task.ofKick = false) :
    task.kicking = false := by
  cases task <;> first | rfl | cases notKick

namespace ServerSystem

/-- For every device none of whose handlers is between its two updates, the
last event says whether the store has a connection. -/
def PresenceFollows (s : ServerSystem) : Prop :=
  ∀ deviceID,
    (∀ conn, (s.device conn).deviceID = deviceID →
      (s.handler conn).pending = false) →
    (Online s.events deviceID ↔ (s.store.get deviceID).isSome)

/-- Nobody is kicked; a connection reports its end only while no connection
that has reported its start is stored for the device, and reports its start
only while one is stored. -/
def ReportsInOrder (s : ServerSystem) : ServerEvent → Prop
  | .kick _ _ _ => False
  | .notify conn =>
      match s.store.get (s.device conn).deviceID with
      | some other => (s.handler other).progress = .registered
      | none => True
  | .establish conn => (s.store.get (s.device conn).deviceID).isSome
  | _ => True

instance (s : ServerSystem) (event : ServerEvent) :
    Decidable (s.ReportsInOrder event) := by
  unfold ReportsInOrder
  split
  · infer_instance
  · split <;> infer_instance
  · infer_instance
  · infer_instance

structure Present (s : ServerSystem) : Prop where
  sound : s.Sound
  unkicked : ∀ task, (s.tasks task).ofKick = false
  online : ∀ {deviceID conn}, s.store.get deviceID = some conn →
    (s.handler conn).progress = .live → Online s.events deviceID
  offline : ∀ {deviceID}, s.store.get deviceID = none →
    Online s.events deviceID →
      ∃ conn, (s.device conn).deviceID = deviceID ∧ s.handler conn = .notifying

variable {options : ServerOptions} {s next : ServerSystem} {conn task : Nat}
  {event : ServerEvent}

theorem initial_present : initial.Present where
  sound := initial_sound
  unkicked := fun _ => rfl
  online := nofun
  offline := by
    rintro deviceID _ ⟨conn, ⟨⟩⟩

theorem ofKick_of_step (stepped : step options s event = some next)
    (meets : s.ReportsInOrder event)
    (unkicked : ∀ task, (s.tasks task).ofKick = false) (task : Nat) :
    (next.tasks task).ofKick = false := by
  have own := taskStep_of_step stepped task
  generalize next.tasks task = position at own
  cases own with
  | untouched => exact unkicked task
  | kick => exact absurd meets id
  | proceed =>
      have before := unkicked task
      cases current : s.tasks task with
      | pushFound conn payload =>
          simp only [follow]
          split <;> rfl
      | shutdownSending remaining => cases remaining <;> rfl
      | _ =>
          rw [current] at before
          first | rfl | cases before
  | _ => rfl

namespace Present

/-- A handler that has its end to report keeps its device. -/
theorem notifying_step (stepped : step options s event = some next)
    (notOwn : event ≠ .notify conn) (position : s.handler conn = .notifying) :
    next.handler conn = .notifying ∧
      (next.device conn).deviceID = (s.device conn).deviceID := by
  have own := sessionStep_of_step stepped conn
  change (next.sessions conn).handler = .notifying ∧
    (next.sessions conn).device.deviceID = (s.sessions conn).device.deviceID
  change (s.sessions conn).handler = .notifying at position
  generalize next.sessions conn = after at own ⊢
  generalize s.sessions conn = session at own position ⊢
  cases own
  case untouched => exact ⟨position, rfl⟩
  case operate operated => exact ⟨position, operated.adds.1⟩
  case closeBelow => exact ⟨position, rfl⟩
  case notify => exact absurd rfl notOwn
  all_goals cases position.symm.trans ‹session.handler = _›

theorem online_step_iff (present : s.Present)
    (stepped : step options s event = some next) (deviceID : Bytes) :
    Online next.events deviceID ↔
      (∃ conn, event = .establish conn ∧ (s.device conn).deviceID = deviceID) ∨
        (Online s.events deviceID ∧ ∀ conn, event = .notify conn →
          (s.device conn).deviceID ≠ deviceID) := by
  rw [events_of_step stepped]
  cases event with
  | establish conn =>
      rw [reports, online_append_established]
      simp
  | notify conn =>
      rw [reports, online_append_closed, and_comm]
      simp
  | proceed task now outcome =>
      have silent := Task.kicking_of_ofKick (present.unkicked task)
      simp [reports_proceed silent]
  | _ => simp [reports]

theorem not_kickRemoving (present : s.Present) {deviceID : Bytes}
    {reason : UInt8} (current : s.tasks task = .kickRemoving deviceID conn reason) :
    False := by
  have before := present.unkicked task
  rw [current] at before
  cases before

theorem stored_before (present : s.Present)
    (stepped : step options s event = some next) {deviceID : Bytes}
    (isStored : next.store.get deviceID = some conn) :
    s.store.get deviceID = some conn ∨ event = .register conn := by
  generalize newStore : next.store = store at isStored
  cases newStore ▸ storeStep_of_step stepped with
  | quiet => exact .inl isStored
  | register other =>
      rw [ConnectionStore.get_register] at isStored
      split_ifs at isStored
      · cases isStored
        exact .inr rfl
      · exact .inl isStored
  | remove other =>
      rw [ConnectionStore.get_remove] at isStored
      split_ifs at isStored
      exact .inl isStored
  | kick current => exact (present.not_kickRemoving current).elim

theorem notStored_before (present : s.Present)
    (stepped : step options s event = some next) {deviceID : Bytes}
    (notStored : next.store.get deviceID = none) :
    s.store.get deviceID = none ∨
      ∃ conn, event = .remove conn ∧ (s.device conn).deviceID = deviceID := by
  generalize newStore : next.store = store at notStored
  cases newStore ▸ storeStep_of_step stepped with
  | quiet => exact .inl notStored
  | register other =>
      rw [ConnectionStore.get_register] at notStored
      split_ifs at notStored
      exact .inl notStored
  | remove other =>
      rw [ConnectionStore.get_remove] at notStored
      split_ifs at notStored with removed
      · exact .inr ⟨other, rfl, removed.1.symm⟩
      · exact .inl notStored
  | kick current => exact (present.not_kickRemoving current).elim

theorem online_step (present : s.Present) (meets : s.ReportsInOrder event)
    (stepped : step options s event = some next) {deviceID : Bytes}
    (isStored : next.store.get deviceID = some conn)
    (live : (next.handler conn).progress = .live) :
    Online next.events deviceID := by
  rw [present.online_step_iff stepped]
  have before := present.stored_before stepped isStored
  have own := (sessionStep_of_step stepped conn).progress
  change Progress.Step conn event (s.handler conn).progress
    (next.handler conn).progress at own
  rw [live] at own
  generalize wasAt : (s.handler conn).progress = progress at own
  cases own with
  | establish =>
      rcases before with isStored | registers
      · exact .inl ⟨conn, rfl, present.sound.single.stored_key isStored⟩
      · cases registers
  | still quiet =>
      rcases before with isStored | registers
      · refine .inr ⟨present.online isStored wasAt, ?_⟩
        rintro other rfl same
        simp only [ReportsInOrder, same, isStored] at meets
        cases meets.symm.trans wasAt
      · exact absurd registers quiet.1

theorem offline_step (present : s.Present) (meets : s.ReportsInOrder event)
    (stepped : step options s event = some next) {deviceID : Bytes}
    (notStored : next.store.get deviceID = none)
    (online : Online next.events deviceID) :
    ∃ conn, (next.device conn).deviceID = deviceID ∧
      next.handler conn = .notifying := by
  rcases present.notStored_before stepped notStored with
    before | ⟨conn, rfl, same⟩
  · rcases (present.online_step_iff stepped deviceID).mp online with
      ⟨conn, rfl, same⟩ | ⟨wasOnline, notClosed⟩
    · rw [ReportsInOrder, same, before] at meets
      cases meets
    · obtain ⟨conn, same, position⟩ := present.offline before wasOnline
      have notOwn : event ≠ .notify conn := by
        intro own
        exact notClosed conn own same
      obtain ⟨still, sameDevice⟩ := notifying_step stepped notOwn position
      exact ⟨conn, sameDevice.trans same, still⟩
  · obtain ⟨_, ⟨⟩⟩ := Option.ite_none_right_eq_some.mp stepped
    refine ⟨conn, ?_, ?_⟩
    · simpa [setHandler, device, setSession] using same
    · simp [setHandler]

theorem step (present : s.Present) (meets : s.ReportsInOrder event)
    (stepped : step options s event = some next) : next.Present where
  sound := present.sound.step stepped
  unkicked := ofKick_of_step stepped meets present.unkicked
  online := present.online_step meets stepped
  offline := present.offline_step meets stepped

theorem presenceFollows (present : s.Present) : s.PresenceFollows := by
  intro deviceID settled
  constructor
  · intro online
    by_contra notStored
    rw [Option.not_isSome_iff_eq_none] at notStored
    obtain ⟨conn, same, position⟩ := present.offline notStored online
    have isSettled := settled conn same
    rw [position] at isSettled
    cases isSettled
  · intro isStored
    obtain ⟨conn, isStored⟩ := Option.isSome_iff_exists.mp isStored
    apply present.online isStored
    have isSettled := settled conn (present.sound.single.stored_key isStored)
    have registered : (s.handler conn).stage = .registered :=
      present.sound.single.stored_registered isStored
    exact Handler.live_of_settled registered isSettled

end Present

theorem presence_follows {events : List ServerEvent}
    (meets : EventRun.Meets (step options) ReportsInOrder initial events)
    (executed : EventRun.run (step options) initial events = some s) :
    s.PresenceFollows := by
  apply Present.presenceFollows
  apply EventRun.invariant_of_meets Present _ initial_present meets executed
  intro s next event present meets stepped
  exact present.step meets stepped

/-- A reconnect whose first connection has reported its end before the second
one reports its start. -/
theorem presence_follows_reconnect :
    ∃ s, EventRun.run (step newServerOptions) initial
        (handshake [100] 0 ++ [.establish 0] ++ handshake [100] 1 ++
          [.readFails 0, .close 0, .remove 0, .notify 0, .takeOver 1 0,
            .establish 1]) = some s ∧
      s.store.get [100] = some 1 ∧ s.PresenceFollows := by
  have outcome : (EventRun.run (step newServerOptions) initial
      (handshake [100] 0 ++ [.establish 0] ++ handshake [100] 1 ++
        [.readFails 0, .close 0, .remove 0, .notify 0, .takeOver 1 0,
          .establish 1])).map (fun s => s.store.get [100]) =
      some (some 1) := by
    decide +kernel
  obtain ⟨s, executed, isStored⟩ := Option.map_eq_some_iff.mp outcome
  exact ⟨s, executed, isStored, presence_follows (by decide +kernel) executed⟩

theorem sessions_eq_of_actors (actors : List Nat) {events : List ServerEvent}
    (acting : EventRun.Meets (step options)
      (fun _ event => ∃ actor ∈ actors, event.actor = some actor) initial events)
    (executed : EventRun.run (step options) initial events = some s)
    (notActing : conn ∉ actors) : s.sessions conn = initial.sessions conn := by
  apply EventRun.invariant_of_meets
    (fun s => s.sessions conn = initial.sessions conn) _ rfl acting executed
  rintro s next event same ⟨actor, member, acts⟩ stepped
  rw [← same]
  apply (sessionStep_of_step stepped conn).eq_of_actor acts
  rintro rfl
  exact notActing member

/-- A superseded connection reports its end behind the start of its successor:
the device is connected, and its last event says that it is not. -/
theorem superseded_close_hides_presence :
    ∃ s, EventRun.run (step newServerOptions) initial
        (handshake [100] 0 ++ [.establish 0] ++ handshake [100] 1 ++
          [.takeOver 1 0, .establish 1, .readFails 0, .close 0, .remove 0,
            .notify 0]) = some s ∧
      (∀ conn, (s.handler conn).pending = false) ∧
      s.store.get [100] = some 1 ∧ ¬ Online s.events [100] := by
  have outcome : (EventRun.run (step newServerOptions) initial
      (handshake [100] 0 ++ [.establish 0] ++ handshake [100] 1 ++
        [.takeOver 1 0, .establish 1, .readFails 0, .close 0, .remove 0,
          .notify 0])).map
        (fun s => (s.store.get [100], s.handler 0, s.handler 1,
          lastEvent s.events [100])) =
      some (some 1, .leaving, .looping 30,
        some (.closed [100] 0 .connectionClosed)) := by
    decide +kernel
  obtain ⟨s, executed, facts⟩ := Option.map_eq_some_iff.mp outcome
  obtain ⟨isStored, first, second, last⟩ := by
    simpa only [Prod.mk.injEq] using facts
  refine ⟨s, executed, ?_, isStored, ?_⟩
  · rintro (_ | _ | conn)
    · rw [first]
      rfl
    · rw [second]
      rfl
    · have untouched : s.sessions (conn + 2) = initial.sessions (conn + 2) := by
        refine sessions_eq_of_actors [0, 1] ?_ executed (by simp)
        decide +kernel
      rw [handler, untouched]
      rfl
  · rintro ⟨conn, online⟩
    cases last.symm.trans online

end ServerSystem

end Server

end RmttGo
