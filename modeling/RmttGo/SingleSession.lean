import RmttGo.EventRuns
import RmttGo.SessionRegistry

/-!
# One session per device

Whatever the order in which handlers, kicks, takeovers, reapers and the
shutdown run, every step of the server keeps the registry of sessions sound.
-/

namespace RmttGo

namespace Server

open Codec

namespace ServerSystem

variable {s next : ServerSystem} {conn task : Nat}

section Steps

variable {options : ServerOptions}

theorem Sound.greeted (sound : s.Sound)
    (position : s.handler conn = .awaitingConnect) (greeting : Greeting) :
    (s.greeted conn greeting).Sound := by
  cases greeting with
  | drop => exact sound.abandon position _ rfl rfl rfl
  | refuse returnCode => exact sound.advance position (.of_conn _ _) rfl nofun rfl
  | welcome deviceID serverKp =>
      exact sound.advance position (.of_conn _ _) rfl nofun rfl

theorem Sound.received (sound : s.Sound) {serverKp : Int}
    (position : s.handler conn = .looping serverKp) (packet : ControlPacket) :
    (received options s conn serverKp packet).Sound := by
  unfold ServerSystem.received
  split
  · split
    · exact sound.untouched rfl rfl rfl rfl
    · exact sound
  · exact sound.advance position (.of_conn _ _) rfl (fun _ _ => rfl) rfl
  · exact sound.advance position (.of_conn _ _) rfl (fun _ _ => rfl) rfl
  · exact sound.advance position (.of_conn _ _) rfl (fun _ _ => rfl) rfl

theorem Sound.report (sound : s.Sound) (event : LifecycleEvent) :
    (s.report event).Sound :=
  sound.untouched rfl rfl rfl rfl

theorem Sound.closeAll (sound : s.Sound) : s.closeAll.Sound := by
  refine sound.congr rfl rfl rfl ?_ ?_ ?_
  all_goals
    intro conn
    simp only [handler, device, ServerSystem.closeAll]
    split <;> rfl

theorem Sound.goOn (sound : s.Sound) {before position : Task}
    (current : s.tasks task = before)
    (tearsDown : ∀ prev, before.tearsDown = some prev →
      position.tearsDown = some prev)
    (kicks : ∀ id, position.kicks = some id → before.kicks = some id)
    (removable : ∀ deviceID id reason,
      position = .kickRemoving deviceID id reason →
        (s.device id).active = false) :
    (s.setTask task position).Sound := by
  subst current
  apply sound.setTask
  · exact fun prev isPrev _ => tearsDown prev isPrev
  · exact fun id isKicked => sound.kicked task id (kicks id isKicked)
  · exact removable

theorem device_setDevice_close :
    ((s.setDevice conn (s.device conn).close).device conn).active = false := by
  rw [ServerSystem.setDevice, device_setSession, if_pos rfl]
  exact DeviceConnection.close_active _

theorem Sound.proceed (sound : s.Sound) {now : Nat} {outcome : TransportOutcome}
    (proceeded : s.proceed task now outcome = some next) : next.Sound := by
  unfold ServerSystem.proceed at proceeded
  split at proceeded
  case h_1 => cases proceeded
  case h_2 => cases proceeded
  case h_3 target payload current =>
      split at proceeded <;> cases proceeded
      · exact sound.goOn current nofun nofun nofun
      · exact sound.goOn current nofun nofun nofun
  case h_4 target payload current =>
      cases proceeded
      have written := sound.setDevice
        (DeviceConnection.write_later (s.device target) now outcome payload)
      exact written.goOn current nofun nofun nofun
  case h_5 deviceID target reason current =>
      split at proceeded <;> cases proceeded
      · exact sound.goOn current nofun (fun _ => id) nofun
      · exact sound.goOn current nofun nofun nofun
  case h_6 deviceID target reason current =>
      cases proceeded
      have sent := sound.setDevice
        (DeviceConnection.sendDisconnect_later (s.device target) now outcome reason)
      exact sent.goOn current nofun (fun _ => id) nofun
  case h_7 deviceID target reason current =>
      cases proceeded
      have closed := sound.setDevice (s.device target).close_later
      refine closed.goOn current nofun (fun _ => id) ?_
      rintro _ _ _ ⟨⟩
      exact device_setDevice_close
  case h_8 deviceID target reason current =>
      cases proceeded
      have removed := sound.remove deviceID
        (sound.removable task deviceID target reason current)
      exact removed.goOn current nofun nofun nofun
  case h_9 deviceID target reason current =>
      cases proceeded
      exact (sound.report _).goOn current nofun nofun nofun
  case h_10 prev current =>
      cases proceeded
      have sent := sound.setDevice (DeviceConnection.sendDisconnect_later
        (s.device prev) now outcome Reason.sessionTakenOver)
      exact sent.goOn current (fun _ => id) nofun nofun
  case h_11 prev current =>
      cases proceeded
      have closed := sound.setDevice (s.device prev).close_later
      apply closed.setTask
      · intro other isOther isActive
        change (s.tasks task).tearsDown = some other at isOther
        rw [current] at isOther
        cases isOther
        cases device_setDevice_close.symm.trans isActive
      · nofun
      · nofun
  case h_12 target current =>
      cases proceeded
      have sent := sound.setDevice (DeviceConnection.sendDisconnect_later
        (s.device target) now outcome Reason.keepaliveTimeout)
      exact sent.goOn current nofun nofun nofun
  case h_13 target current =>
      cases proceeded
      exact (sound.setDevice (s.device target).close_later).goOn current
        nofun nofun nofun
  case h_14 current =>
      cases proceeded
      exact sound.goOn current nofun nofun nofun
  case h_15 target remaining current =>
      cases proceeded
      have sent := sound.setDevice (DeviceConnection.sendDisconnect_later
        (s.device target) now outcome Reason.serverShutdown)
      exact sent.goOn current nofun nofun nofun
  case h_16 target remaining current =>
      cases proceeded
      exact (sound.setDevice (s.device target).close_later).goOn current
        nofun nofun nofun
  case h_17 current =>
      cases proceeded
      exact sound.closeAll.goOn current nofun nofun nofun
  case h_18 current =>
      obtain ⟨-, ⟨⟩⟩ := Option.ite_none_right_eq_some.mp proceeded
      exact sound.goOn current nofun nofun nofun

theorem Sound.spawn (sound : s.Sound) {position : Task}
    (spawned : s.spawn task position = some next)
    (kicks : ∀ id, position.kicks = some id →
      (s.handler id).stage ≠ .unregistered)
    (removable : ∀ deviceID id reason,
      position ≠ .kickRemoving deviceID id reason) : next.Sound := by
  obtain ⟨isIdle, ⟨⟩⟩ := Option.ite_none_right_eq_some.mp spawned
  apply sound.setTask
  · simp [isIdle, Task.tearsDown]
  · exact kicks
  · exact fun deviceID id reason isRemoving =>
      absurd isRemoving (removable deviceID id reason)

theorem Sound.read (sound : s.Sound)
    (stepped : step options s (.read conn) = some next) : next.Sound := by
  simp only [ServerSystem.step] at stepped
  split at stepped
  · cases stepped
  have consumed : ∀ inbound,
      (s.setSession conn { s.sessions conn with inbound }).Sound := by
    intro inbound
    exact sound.keepHandler (.of_conn _ _) rfl
  split at stepped
  case h_1 packet inbound position _ =>
      cases stepped
      apply (consumed inbound).greeted
      rw [handler_setSession, if_pos rfl]
      exact position
  case h_2 position _ =>
      cases stepped
      exact sound.abandon position _ rfl rfl rfl
  case h_3 serverKp packet inbound position _ =>
      cases stepped
      apply (consumed inbound).received
      rw [handler_setSession, if_pos rfl]
      exact position
  case h_4 serverKp _ position _ =>
      cases stepped
      exact sound.advance position (.of_conn _ _) rfl (fun _ _ => rfl) rfl
  case h_5 serverKp _ _ position _ =>
      cases stepped
      exact sound.advance position (.of_conn _ _) rfl (fun _ _ => rfl) rfl
  case h_6 => cases stepped

theorem Sound.greet (sound : s.Sound) {now : Nat} {outcome : TransportOutcome}
    (stepped : step options s (.greet conn now outcome) = some next) :
    next.Sound := by
  simp only [ServerSystem.step] at stepped
  split at stepped
  case h_1 returnCode position =>
      cases stepped
      exact sound.abandon position _ rfl rfl rfl
  case h_2 deviceID serverKp position =>
      split at stepped <;> cases stepped
      · exact sound.create position rfl rfl rfl fun _ => rfl
      · exact sound.abandon position _ rfl rfl rfl
  case h_3 => cases stepped

/-- The teardown is started before the handler forgets whom it supersedes. -/
theorem Sound.takeOver (sound : s.Sound) {prev : Nat} {serverKp : Int}
    (position : s.handler conn = .takingOver prev serverKp)
    (isIdle : s.tasks task = .idle) :
    ((s.setHandler conn (.establishing serverKp)).setTask task
      (.takeoverSending prev)).Sound := by
  -- The two updates commute; with the task first, somebody always has `prev`.
  have started : (s.setTask task (.takeoverSending prev)).Sound :=
    sound.goOn isIdle nofun nofun nofun
  have handler : (s.setTask task (.takeoverSending prev)).handler conn =
      .takingOver prev serverKp := position
  refine started.setSession (.of_conn _ _) (.inl ?_) (fun _ => rfl) ?_
  · rw [handler]
    rfl
  · intro other supersedes
    rw [handler] at supersedes
    cases supersedes
    refine .inr ⟨task, ?_⟩
    change ((s.setTask task (.takeoverSending prev)).tasks task).tearsDown = _
    rw [tasks_setTask, if_pos rfl]
    rfl

/-- The deferred `Remove` finds the handler's own connection or nothing. -/
theorem Sound.removeOwn (sound : s.Sound) (position : s.handler conn = .removing) :
    ({ s with
      store := (s.store.remove (s.device conn).deviceID conn).2 }.setHandler conn
        .notifying).Sound := by
  have inactive := sound.inactive_of_serves (congrArg Handler.serves position)
  have removed := sound.remove (s.device conn).deviceID inactive
  refine removed.setSession (.of_conn _ _) (.inr ⟨rfl, inactive, ?_⟩) ?_ ?_
  · intro key isStored
    rw [ConnectionStore.get_remove] at isStored
    split_ifs at isStored with own
    -- What is left under any key is not this connection: its key is its own.
    exact own ⟨(sound.single.stored_key isStored).symm, isStored⟩
  · intro isActive
    cases inactive.symm.trans isActive
  · intro prev supersedes
    change (s.handler conn).supersedes = some prev at supersedes
    rw [position] at supersedes
    cases supersedes

theorem Sound.step (sound : s.Sound) {event : ServerEvent}
    (stepped : step options s event = some next) : next.Sound := by
  cases event with
  | accept conn inbound =>
      obtain ⟨⟨-, position⟩, ⟨⟩⟩ := Option.ite_none_right_eq_some.mp stepped
      exact sound.create position rfl rfl rfl nofun
  | enter conn =>
      obtain ⟨position, ⟨⟩⟩ := Option.ite_none_right_eq_some.mp stepped
      have counted : { s with running := s.running + 1 }.Sound :=
        sound.untouched rfl rfl rfl rfl
      exact counted.advance position (.of_conn _ _) rfl nofun rfl
  | track conn =>
      obtain ⟨position, ⟨⟩⟩ := Option.ite_none_right_eq_some.mp stepped
      exact sound.advance position (.of_conn _ _) rfl nofun rfl
  | read conn => exact sound.read stepped
  | readFails conn =>
      simp only [ServerSystem.step] at stepped
      split at stepped <;> cases stepped
      case h_1 position => exact sound.abandon position _ rfl rfl rfl
      case h_2 serverKp position =>
          exact sound.advance position (.of_conn _ _) rfl (fun _ _ => rfl) rfl
  | greet conn now outcome => exact sound.greet stepped
  | register conn =>
      simp only [ServerSystem.step] at stepped
      split at stepped <;> cases stepped
      rename_i serverKp position
      refine sound.register position (.of_conn _ _) ?_ ?_ ?_
      · split <;> rfl
      · split <;> rfl
      · split <;> exact Eq.symm (by assumption)
  | takeOver conn task =>
      simp only [ServerSystem.step] at stepped
      split at stepped
      case h_1 prev serverKp position =>
          obtain ⟨isIdle, ⟨⟩⟩ := Option.ite_none_right_eq_some.mp stepped
          exact sound.takeOver position isIdle
      case h_2 => cases stepped
  | establish conn =>
      simp only [ServerSystem.step] at stepped
      split at stepped <;> cases stepped
      rename_i serverKp position
      exact (sound.report _).advance position (.of_conn _ _) rfl
        (fun _ _ => rfl) rfl
  | answer conn now outcome =>
      simp only [ServerSystem.step] at stepped
      split at stepped <;> cases stepped
      case h_1 serverKp position =>
          exact sound.advance position (.of_conn _ _) rfl (fun _ _ => rfl) rfl
      case h_2 serverKp position =>
          exact sound.advance position (.of_conn _ _) rfl (fun _ _ => rfl) rfl
  | close conn =>
      simp only [ServerSystem.step] at stepped
      split at stepped <;> cases stepped
      rename_i serverKp position
      refine sound.advance position (s.device conn).close_later rfl ?_ rfl
      intro _ isActive
      cases (s.device conn).close_active.symm.trans isActive
  | remove conn =>
      obtain ⟨position, ⟨⟩⟩ := Option.ite_none_right_eq_some.mp stepped
      exact sound.removeOwn position
  | notify conn =>
      obtain ⟨position, ⟨⟩⟩ := Option.ite_none_right_eq_some.mp stepped
      exact (sound.report _).advance position (.of_conn _ _) rfl nofun rfl
  | leave conn =>
      obtain ⟨position, ⟨⟩⟩ := Option.ite_none_right_eq_some.mp stepped
      have counted : { s with running := s.running - 1 }.Sound :=
        sound.untouched rfl rfl rfl rfl
      exact counted.advance position (.of_conn _ _) rfl nofun rfl
  | push task deviceID payload =>
      simp only [ServerSystem.step] at stepped
      split at stepped
      · exact sound.spawn stepped nofun nofun
      · exact sound.spawn stepped nofun nofun
  | kick task deviceID reason =>
      simp only [ServerSystem.step] at stepped
      split at stepped
      · rename_i conn isStored
        refine sound.spawn stepped ?_ nofun
        rintro _ ⟨⟩ unregistered
        cases unregistered.symm.trans (sound.single.stored_registered isStored)
      · exact sound.spawn stepped nofun nofun
  | reap task conn =>
      simp only [ServerSystem.step] at stepped
      split at stepped
      case h_5 => cases stepped
      all_goals
        obtain ⟨-, spawned⟩ := Option.ite_none_right_eq_some.mp stepped
        exact sound.spawn spawned nofun nofun
  | shutdown task =>
      have stopped : { s with listening := false }.Sound :=
        sound.untouched rfl rfl rfl rfl
      exact stopped.spawn stepped nofun nofun
  | proceed task now outcome => exact sound.proceed stepped

end Steps

section Guarantee

variable {options : ServerOptions} {event : ServerEvent}

theorem spawn_store {position : Task}
    (spawned : s.spawn task position = some next) : next.store = s.store := by
  obtain ⟨-, ⟨⟩⟩ := Option.ite_none_right_eq_some.mp spawned
  rfl

theorem greeted_store (greeting : Greeting) :
    (s.greeted conn greeting).store = s.store := by
  cases greeting <;> rfl

theorem received_store (serverKp : Int) (packet : ControlPacket) :
    (received options s conn serverKp packet).store = s.store := by
  unfold received
  split
  · split <;> rfl
  all_goals rfl

inductive StoreStep (s : ServerSystem) : ServerEvent → ConnectionStore → Prop
  | quiet {event : ServerEvent} : StoreStep s event s.store
  | register (conn : Nat) :
      StoreStep s (.register conn)
        (s.store.register (s.device conn).deviceID conn).2
  | remove (conn : Nat) :
      StoreStep s (.remove conn)
        (s.store.remove (s.device conn).deviceID conn).2
  | kick {task now : Nat} {outcome : TransportOutcome} {deviceID : Bytes}
      {conn : Nat} {reason : UInt8}
      (current : s.tasks task = .kickRemoving deviceID conn reason) :
      StoreStep s (.proceed task now outcome) (s.store.remove deviceID conn).2

theorem storeStep_of_proceed {now : Nat} {outcome : TransportOutcome}
    (proceeded : s.proceed task now outcome = some next) :
    s.StoreStep (.proceed task now outcome) next.store := by
  unfold proceed at proceeded
  split at proceeded
  case h_8 current =>
      cases proceeded
      exact .kick current
  all_goals
    first
      | cases proceeded <;> exact .quiet
      | split at proceeded <;> cases proceeded <;> exact .quiet

theorem storeStep_of_step (stepped : step options s event = some next) :
    s.StoreStep event next.store := by
  cases event with
  | register conn =>
      simp only [step] at stepped
      split at stepped <;> cases stepped
      exact .register conn
  | remove conn =>
      obtain ⟨-, ⟨⟩⟩ := Option.ite_none_right_eq_some.mp stepped
      exact .remove conn
  | proceed task now outcome => exact storeStep_of_proceed stepped
  | _ =>
      have sameStore : next.store = s.store := by
        simp only [step] at stepped
        repeat' split at stepped
        all_goals
          first
            | cases stepped <;> rfl
            | exact (spawn_store stepped).trans rfl
            | cases stepped
              exact greeted_store _
            | cases stepped
              exact received_store _ _
      rw [sameStore]
      exact .quiet

/-- An entry leaves the store when its own handler or a `Kick` of it removes
it, or when a newer connection of the device registers. -/
theorem stored_or_left (stepped : step options s event = some next)
    {deviceID : Bytes} (isStored : s.store.get deviceID = some conn) :
    next.store.get deviceID = some conn ∨ event = .remove conn ∨
      (∃ successor, event = .register successor ∧
        (s.device successor).deviceID = deviceID) ∨
      ∃ task now outcome reason, event = .proceed task now outcome ∧
        s.tasks task = .kickRemoving deviceID conn reason := by
  generalize newStore : next.store = store
  cases newStore ▸ storeStep_of_step stepped with
  | quiet => exact .inl isStored
  | register successor =>
      rw [ConnectionStore.get_register]
      split_ifs with same
      · exact .inr (.inr (.inl ⟨successor, rfl, same.symm⟩))
      · exact .inl isStored
  | remove other =>
      rw [ConnectionStore.get_remove]
      split_ifs with removed
      · cases isStored.symm.trans removed.2
        exact .inr (.inl rfl)
      · exact .inl isStored
  | kick current =>
      rw [ConnectionStore.get_remove]
      split_ifs with removed
      · cases isStored.symm.trans removed.2
        rw [← removed.1] at current
        exact .inr (.inr (.inr ⟨_, _, _, _, rfl, current⟩))
      · exact .inl isStored

structure OneSessionPerDevice (options : ServerOptions) (s : ServerSystem) :
    Prop where
  /-- The deferred `Remove` is still to come for whoever is stored. -/
  stored : ∀ deviceID conn, s.store.get deviceID = some conn →
    (s.device conn).deviceID = deviceID ∧
      s.lastRegistered deviceID = some conn ∧
      (s.handler conn).stage = .registered
  active : ∀ conn, (s.device conn).active = true →
    s.store.get (s.device conn).deviceID = some conn ∨
      s.TakeoverPending conn ∨ ∃ serverKp, s.handler conn = .registering serverKp
  /-- Nobody else's exit evicts a stored connection. -/
  kept : ∀ event next, step options s event = some next →
    ∀ deviceID conn, s.store.get deviceID = some conn →
      next.store.get deviceID = some conn ∨ event = .remove conn ∨
        (∃ successor, event = .register successor ∧
          (s.device successor).deviceID = deviceID) ∨
        ∃ task now outcome reason, event = .proceed task now outcome ∧
          s.tasks task = .kickRemoving deviceID conn reason
  drained : (∀ conn, s.handler conn = .unaccepted ∨ s.handler conn = .returned) →
    s.store = ∅

theorem Sound.store_eq_empty (sound : s.Sound)
    (exited : ∀ conn, s.handler conn = .unaccepted ∨
      s.handler conn = .returned) : s.store = ∅ := by
  apply AList.ext
  apply List.eq_nil_iff_forall_not_mem.mpr
  rintro ⟨deviceID, conn⟩ member
  have isStored : s.store.get deviceID = some conn :=
    AList.mem_lookup_iff.mpr member
  have registered := sound.single.stored_registered isStored
  change (s.handler conn).stage = .registered at registered
  rcases exited conn with position | position
  all_goals
    rw [position] at registered
    cases registered

theorem one_session_per_device {events : List ServerEvent}
    (executed : EventRun.run (step options) initial events = some s) :
    OneSessionPerDevice options s := by
  have sound : s.Sound :=
    EventRun.invariant Sound (fun sound => sound.step) initial_sound executed
  constructor
  · intro deviceID conn isStored
    exact ⟨sound.single.stored_key isStored, sound.single.stored_latest isStored,
      sound.single.stored_registered isStored⟩
  · intro conn isActive
    rcases sound.single.active_accounted isActive with
      unregistered | isStored | isPending
    · refine .inr (.inr ?_)
      exact Handler.registering_of_serves (sound.serves conn isActive)
        unregistered
    · exact .inl isStored
    · exact .inr (.inl isPending)
  · intro event next stepped deviceID conn isStored
    exact stored_or_left stepped isStored
  · exact sound.store_eq_empty

def handshake (deviceID : Bytes) (conn : Nat) : List ServerEvent :=
  [.accept conn (ControlPacket.frame (.connect
      ⟨.ofType MessageType.connect, 0x637a7175, 1, 0, 30, deviceID⟩)),
    .enter conn, .track conn, .read conn, .greet conn 0 .whole, .register conn]

/-- The first of two connections is superseded, not torn down yet, and exits. -/
theorem one_session_per_device_superseded :
    ∃ s, EventRun.run (step newServerOptions) initial
        (handshake [100] 0 ++ [.establish 0] ++ handshake [100] 1 ++
          [.readFails 0, .close 0, .remove 0]) = some s ∧
      s.store.get [100] = some 1 ∧ s.handler 1 = .takingOver 0 30 ∧
      OneSessionPerDevice newServerOptions s := by
  have outcome : (EventRun.run (step newServerOptions) initial
      (handshake [100] 0 ++ [.establish 0] ++ handshake [100] 1 ++
        [.readFails 0, .close 0, .remove 0])).map
        (fun s => (s.store.get [100], s.handler 1)) =
      some (some 1, .takingOver 0 30) := by
    decide +kernel
  obtain ⟨s, executed, facts⟩ := Option.map_eq_some_iff.mp outcome
  exact ⟨s, executed, congrArg Prod.fst facts, congrArg Prod.snd facts,
    one_session_per_device executed⟩

end Guarantee

end ServerSystem

end Server

end RmttGo
