import RmttGo.LastWord
import RmttGo.ReceivedPushes
import RmttGo.SingleSession

/-!
# Whose pushes are on a connection

Every PUSH frame on a device connection belongs to one call of `Push` that was
made for the device of this connection.
-/

namespace RmttGo

namespace Server

open Codec

section Frames

namespace DeviceConnection

/-- The payloads of the PUSH frames that are on the connection in full. -/
def pushed (dc : DeviceConnection) : List Bytes :=
  (completeMessages dc.conn.writes).filterMap pushPayload

variable {dc after : DeviceConnection} {conn : Conn} {now : Nat}
  {outcome : TransportOutcome} {packet : ControlPacket}

theorem pushed_congr (same : after.conn.writes = dc.conn.writes) :
    after.pushed = dc.pushed := by
  unfold pushed
  rw [same]

theorem pushed_of_write (writes : conn.writes = dc.conn.writes)
    (written : after.conn.writes = (conn.write now outcome packet).2.writes) :
    after.pushed = dc.pushed ++
      if (conn.write now outcome packet).1 then (pushPayload packet).toList
      else [] := by
  unfold pushed
  rw [written, NetConn.completeMessages_write, List.filterMap_append, writes]
  congr 1
  split
  · cases isPush : pushPayload packet <;> simp [isPush]
  · rfl

theorem pushed_of_other (writes : conn.writes = dc.conn.writes)
    (written : after.conn.writes = (conn.write now outcome packet).2.writes)
    (other : pushPayload packet = none) : after.pushed = dc.pushed := by
  rw [pushed_of_write writes written, other, Option.toList_none, ite_self,
    List.append_nil]

/-- `Write` has put its PUSH on the connection when it returns no error. -/
theorem pushed_push (dc : DeviceConnection) (payload : Bytes) (now : Nat)
    (outcome : TransportOutcome) :
    (dc.write payload now outcome).2.pushed = dc.pushed ++
      match (dc.write payload now outcome).1 with
      | .ok () => [payload]
      | .error _ => [] := by
  unfold write
  cases active : dc.active with
  | false => exact (List.append_nil _).symm
  | true =>
      have written : (dc.writeBounded now outcome (pushPacket payload)).2.pushed =
          dc.pushed ++ if (dc.writeBounded now outcome (pushPacket payload)).1
            then [payload] else [] :=
        pushed_of_write rfl rfl
      simp only [Bool.not_true, Bool.false_eq_true, if_false, written]
      cases (dc.writeBounded now outcome (pushPacket payload)).1 <;> rfl

theorem pushed_sendDisconnect (reason : UInt8) (now : Nat)
    (outcome : TransportOutcome) :
    (dc.sendDisconnect reason now outcome).pushed = dc.pushed := by
  cases active : dc.active with
  | false => rw [sendDisconnect_of_inactive now outcome active]
  | true =>
      rw [sendDisconnect_of_active now outcome active]
      have writes : (dc.conn.setWriteDeadline (now + writeTimeout)).writes =
          dc.conn.writes := rfl
      have other : pushPayload (disconnectPacket reason) = none := rfl
      exact pushed_of_other writes rfl other

end DeviceConnection

open DeviceConnection

variable {options : ServerOptions} {conn : Nat} {event : ServerEvent}
  {session after : Session}

/-- No handler writes a PUSH. -/
theorem SessionStep.pushed_eq (attended : session.Attended)
    (stepped : SessionStep options conn event session after)
    (notProceed : ∀ task now outcome, event ≠ .proceed task now outcome) :
    after.device.pushed = session.device.pushed := by
  cases stepped with
  | accept position =>
      apply pushed_congr
      rw [(attended.of_unmade (by rw [position]; rfl)).2]
      rfl
  | greeted => cases greet options _ <;> rfl
  | refuse | welcome | welcomeFails | answerPing | violate =>
      exact pushed_of_other rfl rfl rfl
  | close => exact pushed_congr (close_writes _)
  | operate | closeBelow => exact absurd rfl (notProceed _ _ _)
  | _ => rfl

/-- A registered connection keeps its device. -/
theorem SessionStep.registered_stays
    (stepped : SessionStep options conn event session after)
    (registered : session.handler.stage ≠ .unregistered) :
    after.handler.stage ≠ .unregistered ∧
      after.device.deviceID = session.device.deviceID := by
  cases stepped with
  | untouched => exact ⟨registered, rfl⟩
  | operate operated => exact ⟨registered, operated.adds.1⟩
  | closeBelow => exact ⟨registered, rfl⟩
  | receive _ position goesOn => cases goesOn <;> exact ⟨nofun, rfl⟩
  | close position => exact ⟨nofun, (Operated.adds .close).1⟩
  | takeOver | establish | answerPing | violate | remove | notify | leave =>
      exact ⟨nofun, rfl⟩
  | accept position | enter position | track position | greeted position
  | unreadable _ position | refuse position | welcome position
  | welcomeFails position | register position =>
      rw [position] at registered
      exact absurd rfl registered

end Frames

section Calls

/-- The connection and the payload of a `Push` that has yet to write. -/
def Task.pushes : Task → Option (Nat × Bytes)
  | .pushFound conn payload | .pushWriting conn payload => some (conn, payload)
  | _ => none

namespace ServerSystem

open DeviceConnection

variable {options : ServerOptions} {s next : ServerSystem} {conn task : Nat}
  {event : ServerEvent} {payload : Bytes}

/-- The call of `Push` that returns without an error by this step, with its
connection and payload. -/
def succeeds (s : ServerSystem) : ServerEvent → Option (Nat × Nat × Bytes)
  | .proceed task now outcome =>
      match s.tasks task with
      | .pushWriting conn payload =>
          match ((s.device conn).write payload now outcome).1 with
          | .ok () => some (task, conn, payload)
          | .error _ => none
      | _ => none
  | _ => none

/-- Keeps all calls of `Push` that have returned without an error. -/
def noteSuccess (s : ServerSystem) (event : ServerEvent) (_ : ServerSystem)
    (successes : List (Nat × Nat × Bytes)) : List (Nat × Nat × Bytes) :=
  successes ++ (s.succeeds event).toList

/-- The calls that have pushed to the connection, with their payloads. -/
def pushedTo (conn : Nat) (successes : List (Nat × Nat × Bytes)) :
    List (Nat × Bytes) :=
  successes.filterMap fun (task, target, payload) =>
    if target = conn then some (task, payload) else none

theorem pushedTo_append (conn : Nat) (successes later : List (Nat × Nat × Bytes)) :
    pushedTo conn (successes ++ later) =
      pushedTo conn successes ++ pushedTo conn later :=
  List.filterMap_append

theorem mem_pushedTo {successes : List (Nat × Nat × Bytes)} :
    (task, payload) ∈ pushedTo conn successes ↔
      (task, conn, payload) ∈ successes := by
  simp [pushedTo]

theorem pairwise_pushedTo (related : Nat → Nat → Prop)
    {successes : List (Nat × Nat × Bytes)}
    (pairwise : successes.Pairwise fun earlier later => related earlier.1 later.1) :
    (pushedTo conn successes).Pairwise fun earlier later =>
      related earlier.1 later.1 := by
  refine List.pairwise_filterMap.mpr (pairwise.imp ?_)
  rintro ⟨earlier, _, _⟩ ⟨later, _, _⟩ holds call isCall other isOther
  obtain ⟨-, ⟨⟩⟩ := Option.ite_none_right_eq_some.mp isCall
  obtain ⟨-, ⟨⟩⟩ := Option.ite_none_right_eq_some.mp isOther
  exact holds

theorem nodup_pushedTo {successes : List (Nat × Nat × Bytes)}
    (once : (successes.map Prod.fst).Nodup) :
    ((pushedTo conn successes).map Prod.fst).Nodup :=
  List.pairwise_map.mpr (pairwise_pushedTo (· ≠ ·) (List.pairwise_map.mp once))

theorem disjoint_pushedTo {successes : List (Nat × Nat × Bytes)} {other : Nat}
    (once : (successes.map Prod.fst).Nodup) (different : other ≠ conn) :
    List.Disjoint ((pushedTo conn successes).map Prod.fst)
      ((pushedTo other successes).map Prod.fst) := by
  intro task isHere isThere
  obtain ⟨⟨_, payload⟩, here, rfl⟩ := List.mem_map.mp isHere
  obtain ⟨⟨_, message⟩, there, rfl⟩ := List.mem_map.mp isThere
  have same := List.inj_on_of_nodup_map once (mem_pushedTo.mp here)
    (mem_pushedTo.mp there) rfl
  cases same
  exact different rfl

theorem pushing_of_succeeds {target : Nat}
    (succeeded : s.succeeds event = some (task, target, payload)) :
    ∃ now outcome, event = .proceed task now outcome ∧
      s.tasks task = .pushWriting target payload := by
  cases event with
  | proceed actor now outcome =>
      simp only [succeeds] at succeeded
      split at succeeded
      case h_1 conn message position =>
        split at succeeded <;> cases succeeded
        exact ⟨now, outcome, rfl, position⟩
      case h_2 => cases succeeded
  | _ => cases succeeded

theorem succeeds_eq_none (notWriting : ∀ conn payload,
      s.tasks task ≠ .pushWriting conn payload) (now : Nat)
    (outcome : TransportOutcome) : s.succeeds (.proceed task now outcome) = none := by
  simp only [succeeds]

theorem pushed_of_proceed {now : Nat} {outcome : TransportOutcome}
    (proceeded : s.proceed task now outcome = some next) (conn : Nat) :
    (next.device conn).pushed = (s.device conn).pushed ++
      (pushedTo conn (s.succeeds (.proceed task now outcome)).toList).map
        Prod.snd := by
  by_cases writing : ∃ target payload, s.tasks task = .pushWriting target payload
  · obtain ⟨target, payload, position⟩ := writing
    simp only [proceed, position] at proceeded
    cases proceeded
    have deviceEq : ((s.setDevice target ((s.device target).write payload now
        outcome).2).setTask task .finished).device conn =
          if conn = target then ((s.device target).write payload now outcome).2
          else s.device conn := by
      change (s.setDevice target _).device conn = _
      rw [setDevice, device_setSession]
    rw [deviceEq]
    by_cases same : conn = target
    · subst same
      rw [if_pos rfl, pushed_push]
      simp only [succeeds, position]
      cases ((s.device conn).write payload now outcome).1 <;> simp [pushedTo]
    · rw [if_neg same]
      simp only [succeeds, position]
      cases ((s.device target).write payload now outcome).1 <;>
        simp [pushedTo, Ne.symm same]
  · have notWriting (target : Nat) (payload : Bytes) :
        s.tasks task ≠ .pushWriting target payload :=
      fun position => writing ⟨target, payload, position⟩
    rw [succeeds_eq_none notWriting]
    refine Eq.trans ?_ (List.append_nil _).symm
    cases taskOperation_of_proceed proceeded conn with
    | untouched same => rw [same]
    | push payload position => exact absurd position (notWriting conn payload)
    | disconnect reason sends sent =>
        rw [sent]
        exact pushed_sendDisconnect reason now outcome
    | close closed =>
        rw [closed]
        exact pushed_congr (close_writes _)
    | closeBelow closed =>
        rw [closed]
        rfl

/-- What is pushed to a connection grows by the calls that succeed. -/
theorem pushed_of_step (attended : s.Attended)
    (stepped : step options s event = some next) (conn : Nat) :
    (next.device conn).pushed = (s.device conn).pushed ++
      (pushedTo conn (s.succeeds event).toList).map Prod.snd := by
  by_cases proceeds : ∃ task now outcome, event = .proceed task now outcome
  · obtain ⟨task, now, outcome, rfl⟩ := proceeds
    exact pushed_of_proceed stepped conn
  · have nothing : s.succeeds event = none := by
      cases event with
      | proceed task now outcome => exact absurd ⟨task, now, outcome, rfl⟩ proceeds
      | _ => rfl
    rw [nothing]
    refine ((sessionStep_of_step stepped conn).pushed_eq (attended.sessions conn)
      ?_).trans (List.append_nil _).symm
    rintro task now outcome rfl
    exact proceeds ⟨task, now, outcome, rfl⟩

theorem tasks_of_push {deviceID : Bytes}
    (stepped : step options s (.push task deviceID payload) = some next) :
    next.tasks task = .finished ∨
      ∃ conn, s.store.get deviceID = some conn ∧
        next.tasks task = .pushFound conn payload := by
  simp only [step] at stepped
  split at stepped
  case h_1 conn found =>
    obtain ⟨_, ⟨⟩⟩ := Option.ite_none_right_eq_some.mp stepped
    exact .inr ⟨conn, found, by rw [tasks_setTask, if_pos rfl]⟩
  case h_2 =>
    obtain ⟨_, ⟨⟩⟩ := Option.ite_none_right_eq_some.mp stepped
    exact .inl (by rw [tasks_setTask, if_pos rfl])

theorem pushes_follow (s : ServerSystem) {position : Task} {target : Nat × Bytes}
    (pushes : (s.follow position).pushes = some target) :
    position.pushes = some target := by
  cases position with
  | pushFound conn payload =>
      simp only [follow] at pushes
      split at pushes
      · exact pushes
      · cases pushes
  | kickFound =>
      simp only [follow] at pushes
      split at pushes <;> cases pushes
  | shutdownSending remaining => cases remaining <;> cases pushes
  | _ => cases pushes

/-- A `Push` writes to the connection that it has found under its device ID. -/
theorem pushing_of_step (stepped : step options s event = some next)
    (pushes : (next.tasks task).pushes = some (conn, payload)) :
    (s.tasks task).pushes = some (conn, payload) ∨
      ∃ deviceID, event = .push task deviceID payload ∧
        s.store.get deviceID = some conn := by
  have taskStep := taskStep_of_step stepped task
  generalize position : next.tasks task = after at taskStep pushes
  cases taskStep with
  | untouched => exact .inl pushes
  | proceed => exact .inl (s.pushes_follow pushes)
  | @push deviceID payload conn =>
      cases pushes
      rcases tasks_of_push stepped with finished | ⟨conn, found, same⟩
      · cases finished.symm.trans position
      · cases same.symm.trans position
        exact .inr ⟨deviceID, rfl, found⟩
  | _ => cases pushes

theorem finished_stays (stepped : step options s event = some next)
    (finished : s.tasks task = .finished) : next.tasks task = .finished := by
  by_cases own : ∃ now outcome, event = .proceed task now outcome
  · obtain ⟨now, outcome, rfl⟩ := own
    simp only [step, proceed, finished] at stepped
    cases stepped
  · have busy : s.tasks task ≠ .idle := by
      rw [finished]
      rintro ⟨⟩
    rw [task_stays stepped busy, finished]
    rintro now outcome rfl
    exact own ⟨now, outcome, rfl⟩

end ServerSystem

end Calls

section Attribution

/-- A call has taken its last step before another one was made. -/
def ReturnedBefore (events : List ServerEvent) (earlier later : Nat) : Prop :=
  ∃ before after, events = before ++ after ∧
    (∀ now outcome, .proceed earlier now outcome ∉ after) ∧
      ∀ deviceID payload, .push later deviceID payload ∉ before

/-- A call has taken a step since another one was made. -/
def StepsSince (events : List ServerEvent) (task other : Nat) : Prop :=
  ∃ front now outcome rest, events = front ++ .proceed task now outcome :: rest ∧
    ∃ deviceID payload, .push other deviceID payload ∈ front

theorem StepsSince.not_returnedBefore {events : List ServerEvent} {task other : Nat}
    (since : StepsSince events task other) : ¬ ReturnedBefore events task other := by
  obtain ⟨front, now, outcome, rest, split, deviceID, payload, called⟩ := since
  rintro ⟨before, after, splitAlso, noStep, notCalled⟩
  rcases List.append_eq_append_iff.mp (split.symm.trans splitAlso) with
    ⟨more, isBefore, -⟩ | ⟨more, -, isAfter⟩
  · refine notCalled deviceID payload ?_
    rw [isBefore]
    exact List.mem_append_left _ called
  · refine noStep now outcome ?_
    rw [isAfter]
    exact List.mem_append_right _ List.mem_cons_self

theorem StepsSince.append {events : List ServerEvent} {task other : Nat}
    (since : StepsSince events task other) (more : List ServerEvent) :
    StepsSince (events ++ more) task other := by
  obtain ⟨front, now, outcome, rest, rfl, called⟩ := since
  exact ⟨front, now, outcome, rest ++ more, by simp, called⟩

namespace ServerSystem

open DeviceConnection

variable {options : ServerOptions} {s next : ServerSystem} {conn task : Nat}
  {event : ServerEvent} {payload : Bytes} {past : List ServerEvent}
  {successes : List (Nat × Nat × Bytes)}

/-- The call was made for the device of the connection. -/
structure Addressed (past : List ServerEvent) (s : ServerSystem) (conn task : Nat)
    (payload : Bytes) : Prop where
  called : .push task (s.device conn).deviceID payload ∈ past
  registered : (s.handler conn).stage ≠ .unregistered

theorem Addressed.step (addressed : Addressed past s conn task payload)
    (stepped : step options s event = some next) :
    Addressed (past ++ [event]) next conn task payload := by
  obtain ⟨registered, sameDevice⟩ :=
    (sessionStep_of_step stepped conn).registered_stays addressed.registered
  refine ⟨?_, registered⟩
  have sameID : (next.device conn).deviceID = (s.device conn).deviceID := sameDevice
  rw [sameID]
  exact List.mem_append_left _ addressed.called

/-- The PUSH frames on the connections are those of the calls that have
succeeded. -/
structure Attributed (past : List ServerEvent) (s : ServerSystem)
    (successes : List (Nat × Nat × Bytes)) : Prop where
  payloads : ∀ conn, (s.device conn).pushed = (pushedTo conn successes).map Prod.snd
  finished : ∀ call ∈ successes, s.tasks call.1 = .finished
  once : (successes.map Prod.fst).Nodup
  order : successes.Pairwise fun earlier later => StepsSince past later.1 earlier.1
  addressed : ∀ call ∈ successes, Addressed past s call.2.1 call.1 call.2.2
  running : ∀ conn task payload, (s.tasks task).pushes = some (conn, payload) →
    Addressed past s conn task payload

theorem initial_attributed : Attributed [] initial [] where
  payloads := fun _ => rfl
  finished := by simp
  once := .nil
  order := .nil
  addressed := by simp
  running := by
    intro conn task payload pushes
    cases pushes

theorem Attributed.running_step (attributed : Attributed past s successes)
    (sound : s.Sound) (stepped : step options s event = some next)
    (pushes : (next.tasks task).pushes = some (conn, payload)) :
    Addressed (past ++ [event]) next conn task payload := by
  rcases pushing_of_step stepped pushes with before | ⟨deviceID, rfl, found⟩
  · exact (attributed.running conn task payload before).step stepped
  · have isStored : s.registry.stored deviceID = some conn := found
    have registered : (s.handler conn).stage = .registered :=
      sound.single.stored_registered isStored
    have isDevice : (s.device conn).deviceID = deviceID :=
      sound.single.stored_key isStored
    have notUnregistered : (s.handler conn).stage ≠ .unregistered := by
      rw [registered]
      nofun
    obtain ⟨registeredStill, sameDevice⟩ :=
      (sessionStep_of_step stepped conn).registered_stays notUnregistered
    refine ⟨?_, registeredStill⟩
    have sameID : (next.device conn).deviceID = deviceID := sameDevice.trans isDevice
    rw [sameID]
    exact List.mem_append_right _ List.mem_cons_self

theorem Attributed.step (attributed : Attributed past s successes) (sound : s.Sound)
    (attended : s.Attended) (stepped : step options s event = some next) :
    Attributed (past ++ [event]) next (noteSuccess s event next successes) := by
  have isNew {task target : Nat} {payload : Bytes}
      (succeeded : (task, target, payload) ∈ (s.succeeds event).toList) :
      s.tasks task = .pushWriting target payload ∧ next.tasks task = .finished ∧
        ∃ now outcome, event = .proceed task now outcome := by
    obtain ⟨now, outcome, rfl, position⟩ :=
      pushing_of_succeeds (Option.mem_toList.mp succeeded)
    refine ⟨position, ?_, now, outcome, rfl⟩
    rw [tasks_of_proceed stepped, Function.update_self, position]
    rfl
  unfold noteSuccess
  constructor
  · intro conn
    rw [pushed_of_step attended stepped, attributed.payloads, pushedTo_append,
      List.map_append]
  · rintro ⟨task, target, payload⟩ isCall
    rcases List.mem_append.mp isCall with before | succeeded
    · exact finished_stays stepped (attributed.finished _ before)
    · exact (isNew succeeded).2.1
  · rw [List.map_append, List.nodup_append]
    refine ⟨attributed.once, ?_, ?_⟩
    · cases s.succeeds event <;> simp
    · rintro earlier isEarlier later isLater rfl
      obtain ⟨call, before, rfl⟩ := List.mem_map.mp isEarlier
      obtain ⟨⟨task, target, payload⟩, succeeded, same⟩ := List.mem_map.mp isLater
      have finished := attributed.finished call before
      rw [← same] at finished
      cases (isNew succeeded).1.symm.trans finished
  · rw [List.pairwise_append]
    refine ⟨attributed.order.imp fun since => since.append _, ?_, ?_⟩
    · cases s.succeeds event <;> simp
    · rintro earlier before ⟨task, target, payload⟩ succeeded
      obtain ⟨-, -, now, outcome, rfl⟩ := isNew succeeded
      exact ⟨past, now, outcome, [], rfl, _, _,
        (attributed.addressed earlier before).called⟩
  · rintro ⟨task, target, payload⟩ isCall
    rcases List.mem_append.mp isCall with before | succeeded
    · exact (attributed.addressed _ before).step stepped
    · refine (attributed.running target task payload ?_).step stepped
      rw [(isNew succeeded).1]
      rfl
  · intro conn task payload pushes
    exact attributed.running_step sound stepped pushes

theorem attributed_of_run {events : List ServerEvent}
    (executed : EventRun.run (EventRun.recorded (step options) noteSuccess)
      (initial, []) events = some (s, successes)) :
    Attributed events s successes := by
  let Inv (past : List ServerEvent)
      (state : ServerSystem × List (Nat × Nat × Bytes)) : Prop :=
    state.1.Sound ∧ state.1.Attended ∧ Attributed past state.1 state.2
  refine (EventRun.invariant_of_history Inv ?_
    ⟨initial_sound, initial_attended, initial_attributed⟩ executed).2.2
  rintro past ⟨state, successes⟩ _ event ⟨sound, attended, attributed⟩ recordedStep
  obtain ⟨next, stepped, rfl⟩ := EventRun.recorded_eq_some.mp recordedStep
  exact ⟨sound.step stepped, attended.step stepped,
    attributed.step sound attended stepped⟩

end ServerSystem

end Attribution

end Server

end RmttGo
