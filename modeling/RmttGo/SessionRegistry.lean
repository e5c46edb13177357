import RmttGo.ServerSystem
import RmttGo.Takeover

/-!
# The server as a registry of sessions

The connection store, the handlers and the takeovers, seen as a registry in
which newer sessions take over, and what the pieces of a server step do to the
soundness of that registry.
-/

namespace RmttGo

namespace Server

open Codec

section View

def Handler.stage : Handler → SessionStage
  | .unaccepted | .accepted | .entered | .awaitingConnect | .refusing _
  | .welcoming _ _ | .registering _ => .unregistered
  | .takingOver _ _ | .establishing _ | .looping _ | .answering _
  | .violating _ | .closing _ | .removing => .registered
  | .notifying | .leaving | .returned => .retired

/-- The device connection is made and the handler has not closed it yet. -/
def Handler.serves : Handler → Bool
  | .registering _ | .takingOver _ _ | .establishing _ | .looping _
  | .answering _ | .violating _ | .closing _ => true
  | _ => false

theorem Handler.registering_of_serves {handler : Handler}
    (serves : handler.serves = true) (unregistered : handler.stage = .unregistered) :
    ∃ serverKp, handler = .registering serverKp := by
  cases handler <;> simp_all [Handler.serves, Handler.stage]

/-- The superseded connection whose teardown is about to be started. -/
def Handler.supersedes : Handler → Option Nat
  | .takingOver prev _ => some prev
  | _ => none

/-- The superseded connection that a teardown still has to close. -/
def Task.tearsDown : Task → Option Nat
  | .takeoverSending prev | .takeoverClosing prev => some prev
  | _ => none

/-- The connection that a `Kick` is going to remove. -/
def Task.kicks : Task → Option Nat
  | .kickFound _ conn _ | .kickSending _ conn _ | .kickClosing _ conn _
  | .kickRemoving _ conn _ => some conn
  | _ => none

namespace ServerSystem

def lastRegistered (s : ServerSystem) (deviceID : Bytes) : Option Nat :=
  s.registrations.lookup deviceID

/-- The connection is the `prev` of a takeover that has not closed it yet. -/
def TakeoverPending (s : ServerSystem) (conn : Nat) : Prop :=
  (∃ successor, (s.handler successor).supersedes = some conn) ∨
    ∃ task, (s.tasks task).tearsDown = some conn

def registry (s : ServerSystem) : Registry Bytes Nat where
  key conn := (s.device conn).deviceID
  stage conn := (s.handler conn).stage
  Active conn := (s.device conn).active = true
  Pending := s.TakeoverPending
  stored := s.store.get
  latest := s.lastRegistered

/-- The registry is sound, and the device connections and kicks are where the
handlers say. -/
structure Sound (s : ServerSystem) : Prop where
  single : s.registry.SingleSession
  serves : ∀ conn, (s.device conn).active = true →
    (s.handler conn).serves = true
  kicked : ∀ task conn, (s.tasks task).kicks = some conn →
    (s.handler conn).stage ≠ .unregistered
  removable : ∀ task deviceID conn reason,
    s.tasks task = .kickRemoving deviceID conn reason →
      (s.device conn).active = false

end ServerSystem

end View

namespace ServerSystem

variable {s next : ServerSystem} {conn task : Nat}

section Frames

@[simp]
theorem handler_setSession (session : Session) (other : Nat) :
    (s.setSession conn session).handler other =
      if other = conn then session.handler else s.handler other := by
  simp only [handler, setSession, Function.update_apply]
  split_ifs <;> rfl

@[simp]
theorem device_setSession (session : Session) (other : Nat) :
    (s.setSession conn session).device other =
      if other = conn then session.device else s.device other := by
  simp only [device, setSession, Function.update_apply]
  split_ifs <;> rfl

@[simp]
theorem tasks_setTask (position : Task) (other : Nat) :
    (s.setTask task position).tasks other =
      if other = task then position else s.tasks other :=
  Function.update_apply ..

theorem TakeoverPending.setSession {prev : Nat} (session : Session)
    (isPending : s.TakeoverPending prev)
    (kept : ∀ prev, (s.handler conn).supersedes = some prev →
      (s.setSession conn session).TakeoverPending prev) :
    (s.setSession conn session).TakeoverPending prev := by
  rcases isPending with ⟨successor, supersedes⟩ | tearsDown
  · by_cases same : successor = conn
    · exact kept prev (same ▸ supersedes)
    · refine .inl ⟨successor, ?_⟩
      rw [handler_setSession, if_neg same]
      exact supersedes
  · exact .inr tearsDown

theorem initial_sound : initial.Sound where
  single := by
    constructor <;> intros <;> simp_all [registry, initial, ConnectionStore.get,
      device, handler, Handler.stage]
  serves := by
    intro conn isActive
    cases isActive
  kicked := by
    intro task conn isKicked
    cases isKicked
  removable := by
    intro task deviceID conn reason isRemoving
    cases isRemoving

theorem later_setSession {session : Session}
    (later : (s.device conn).Later session.device) (id : Nat) :
    (s.device id).Later ((s.setSession conn session).device id) := by
  rw [device_setSession]
  split_ifs with same
  · rwa [same]
  · exact ⟨rfl, fun isActive => isActive⟩

/-- A session changes within its stage, or is closed and removed and retires. -/
theorem Sound.setSession (sound : s.Sound) {session : Session}
    (later : (s.device conn).Later session.device)
    (stage : session.handler.stage = (s.handler conn).stage ∨
      session.handler.stage = .retired ∧ session.device.active = false ∧
        ∀ key, s.store.get key ≠ some conn)
    (serves : session.device.active = true → session.handler.serves = true)
    (pending : ∀ prev, (s.handler conn).supersedes = some prev →
      (s.setSession conn session).TakeoverPending prev) :
    (s.setSession conn session).Sound where
  single := by
    apply sound.single.shrink
    constructor
    · exact fun id => (later_setSession later id).deviceID
    · exact fun _ => rfl
    · exact fun _ _ isStored => isStored
    · exact fun _ _ isStored _ => isStored
    · exact fun id => (later_setSession later id).active
    · exact fun _ _ isPending => isPending.setSession session pending
    · intro id
      simp only [registry, handler_setSession, device_setSession,
        Bool.not_eq_true]
      split_ifs with same
      · subst same
        exact stage
      · exact .inl rfl
  serves := by
    intro id
    simp only [device_setSession, handler_setSession]
    split_ifs
    · exact serves
    · exact sound.serves id
  kicked := by
    intro task id isKicked
    simp only [handler_setSession]
    split_ifs with same
    · subst same
      rcases stage with same | ⟨retired, -, -⟩
      · exact same ▸ sound.kicked task id isKicked
      · simp [retired]
    · exact sound.kicked task id isKicked
  removable := by
    intro task key id reason isRemoving
    have inactive := sound.removable task key id reason isRemoving
    exact (later_setSession later id).inactive inactive

/-- A task goes on; a takeover stops only once it has closed its connection. -/
theorem Sound.setTask (sound : s.Sound) {position : Task}
    (tearsDown : ∀ prev, (s.tasks task).tearsDown = some prev →
      (s.device prev).active = true → position.tearsDown = some prev)
    (kicked : ∀ id, position.kicks = some id →
      (s.handler id).stage ≠ .unregistered)
    (removable : ∀ deviceID id reason,
      position = .kickRemoving deviceID id reason →
        (s.device id).active = false) :
    (s.setTask task position).Sound where
  single := by
    apply sound.single.shrink
    constructor
    · exact fun _ => rfl
    · exact fun _ => rfl
    · exact fun _ _ isStored => isStored
    · exact fun _ _ isStored _ => isStored
    · exact fun _ isActive => isActive
    · rintro id isActive (takes | ⟨other, tearsDownOther⟩)
      · exact .inl takes
      · by_cases same : other = task
        · refine .inr ⟨task, ?_⟩
          rw [tasks_setTask, if_pos rfl]
          exact tearsDown id (same ▸ tearsDownOther) isActive
        · refine .inr ⟨other, ?_⟩
          rw [tasks_setTask, if_neg same]
          exact tearsDownOther
    · exact fun _ => .inl rfl
  serves := sound.serves
  kicked := by
    intro other id
    rw [tasks_setTask]
    split_ifs
    · exact kicked id
    · exact sound.kicked other id
  removable := by
    intro other deviceID id reason
    rw [tasks_setTask]
    split_ifs
    · exact removable deviceID id reason
    · exact sound.removable other deviceID id reason

theorem Sound.keepHandler (sound : s.Sound) {session : Session}
    (later : (s.device conn).Later session.device)
    (handler : session.handler = s.handler conn) :
    (s.setSession conn session).Sound := by
  apply sound.setSession later (.inl (congrArg Handler.stage handler))
  · intro isActive
    rw [handler]
    exact sound.serves conn (later.active isActive)
  · intro prev supersedes
    refine .inl ⟨conn, ?_⟩
    rw [handler_setSession, if_pos rfl, handler]
    exact supersedes

theorem Sound.setDevice (sound : s.Sound) {device : DeviceConnection}
    (later : (s.device conn).Later device) : (s.setDevice conn device).Sound :=
  sound.keepHandler later rfl

/-- A handler that has started no takeover goes on within its stage. -/
theorem Sound.advance (sound : s.Sound) {before : Handler} {session : Session}
    (position : s.handler conn = before)
    (later : (s.device conn).Later session.device)
    (stage : session.handler.stage = before.stage)
    (serves : before.serves = true → session.device.active = true →
      session.handler.serves = true)
    (supersedes : before.supersedes = none) :
    (s.setSession conn session).Sound := by
  subst position
  apply sound.setSession later (.inl stage)
  · intro isActive
    exact serves (sound.serves conn (later.active isActive)) isActive
  · simp [supersedes]

theorem Sound.inactive_of_serves (sound : s.Sound)
    (serves : (s.handler conn).serves = false) :
    (s.device conn).active = false := by
  by_contra isActive
  rw [sound.serves conn (Bool.eq_true_of_not_eq_false isActive)] at serves
  cases serves

theorem Sound.abandon (sound : s.Sound) {before : Handler}
    (position : s.handler conn = before) (below : Conn)
    (stage : before.stage = .unregistered) (serves : before.serves = false)
    (supersedes : before.supersedes = none) :
    (s.abandon conn below).Sound := by
  subst position
  have inactive := sound.inactive_of_serves serves
  refine sound.setSession (.of_conn _ _) (.inr ⟨rfl, inactive, ?_⟩) ?_ ?_
  · intro key isStored
    cases stage.symm.trans (sound.single.stored_registered isStored)
  · intro isActive
    cases inactive.symm.trans isActive
  · simp [supersedes]

/-- An unregistered session gets a connection or a device connection. -/
theorem Sound.create (sound : s.Sound) {before : Handler} {session : Session}
    (position : s.handler conn = before) (stage : before.stage = .unregistered)
    (supersedes : before.supersedes = none)
    (unregistered : session.handler.stage = .unregistered)
    (serves : session.device.active = true → session.handler.serves = true) :
    (s.setSession conn session).Sound where
  single := by
    apply @Registry.SingleSession.create _ _ _ _ sound.single conn
    · simpa [registry] using unregistered
    · intro id
      simp only [registry, handler_setSession]
      split_ifs with same
      · rw [unregistered, same, position, stage]
      · rfl
    · intro id different
      simp [registry, different]
    · intro id different
      simp [registry, different]
    · intro id isPending
      exact isPending.setSession session (by simp [position, supersedes])
    · rfl
    · rfl
  serves := by
    intro id
    simp only [device_setSession, handler_setSession]
    split_ifs
    · exact serves
    · exact sound.serves id
  kicked := by
    intro task id isKicked
    simp only [handler_setSession]
    split_ifs with same
    · subst same position
      exact absurd stage (sound.kicked task id isKicked)
    · exact sound.kicked task id isKicked
  removable := by
    intro task key id reason isRemoving
    simp only [device_setSession]
    split_ifs with same
    · have isKicked : (s.tasks task).kicks = some id :=
        congrArg Task.kicks isRemoving
      subst same position
      exact absurd stage (sound.kicked task id isKicked)
    · exact sound.removable task key id reason isRemoving

/-- `Register`; the handler learns about the connection it supersedes. -/
theorem Sound.register (sound : s.Sound) {serverKp : Int} {session : Session}
    (position : s.handler conn = .registering serverKp)
    (later : (s.device conn).Later session.device)
    (registered : session.handler.stage = .registered)
    (serves : session.handler.serves = true)
    (supersedes : session.handler.supersedes =
      s.store.get (s.device conn).deviceID) :
    ({ s with
      store := (s.store.register (s.device conn).deviceID conn).2
      registrations := ((s.device conn).deviceID, conn) :: s.registrations
      }.setSession conn session).Sound where
  single := by
    apply @Registry.SingleSession.register _ _ _ _ _ sound.single conn
    · simp [registry, position, Handler.stage]
    · simpa [registry] using registered
    · intro id different
      simp only [registry, handler_setSession, if_neg different]
      rfl
    · exact fun id => (later_setSession later id).deviceID
    · exact fun id => (later_setSession later id).active
    · intro id isPending
      apply TakeoverPending.setSession session isPending
      intro prev supersedes
      change (s.handler conn).supersedes = some prev at supersedes
      rw [position] at supersedes
      cases supersedes
    · intro prev isStored
      refine .inl ⟨conn, ?_⟩
      rw [handler_setSession, if_pos rfl, supersedes]
      exact isStored
    · exact ConnectionStore.get_register _ _ _
    · intro key
      change List.lookup key (((s.device conn).deviceID, conn) :: _) =
        if key = (s.device conn).deviceID then some conn
        else s.lastRegistered key
      rw [List.lookup_cons]
      by_cases same : key = (s.device conn).deviceID
      · simp [same]
      · rw [beq_eq_false_iff_ne.mpr same, if_neg same]
        rfl
  serves := by
    intro id
    simp only [device_setSession, handler_setSession]
    split_ifs
    · exact fun _ => serves
    · exact sound.serves id
  kicked := by
    intro task id isKicked
    simp only [handler_setSession]
    split_ifs
    · simp [registered]
    · exact sound.kicked task id isKicked
  removable := by
    intro task key id reason isRemoving
    have inactive := sound.removable task key id reason isRemoving
    exact (later_setSession later id).inactive inactive

theorem Sound.remove (sound : s.Sound) (deviceID : Bytes)
    (inactive : (s.device conn).active = false) :
    { s with store := (s.store.remove deviceID conn).2 }.Sound where
  single := by
    apply sound.single.shrink
    constructor
    · exact fun _ => rfl
    · exact fun _ => rfl
    · intro key id isStored
      simp only [registry, ConnectionStore.get_remove] at isStored
      split_ifs at isStored
      exact isStored
    · intro key id isStored isActive
      simp only [registry, ConnectionStore.get_remove]
      rw [if_neg]
      · exact isStored
      · rintro ⟨-, same⟩
        cases isStored.symm.trans same
        cases inactive.symm.trans isActive
    · exact fun _ isActive => isActive
    · exact fun _ _ isPending => isPending
    · exact fun _ => .inl rfl
  serves := sound.serves
  kicked := sound.kicked
  removable := sound.removable

theorem Sound.congr (sound : s.Sound) (store : next.store = s.store)
    (registrations : next.registrations = s.registrations)
    (tasks : next.tasks = s.tasks)
    (handler : ∀ conn, next.handler conn = s.handler conn)
    (deviceID : ∀ conn, (next.device conn).deviceID = (s.device conn).deviceID)
    (active : ∀ conn, (next.device conn).active = (s.device conn).active) :
    next.Sound := by
  have sameRegistry : next.registry = s.registry := by
    simp [registry, TakeoverPending, lastRegistered, funext_iff, *]
  constructor
  · rw [sameRegistry]
    exact sound.single
  · intro conn
    rw [active, handler]
    exact sound.serves conn
  · intro task conn
    rw [tasks, handler]
    exact sound.kicked task conn
  · intro task deviceID conn reason
    rw [tasks, active]
    exact sound.removable task deviceID conn reason

theorem Sound.untouched (sound : s.Sound) (store : next.store = s.store)
    (registrations : next.registrations = s.registrations)
    (tasks : next.tasks = s.tasks) (sessions : next.sessions = s.sessions) :
    next.Sound := by
  apply sound.congr store registrations tasks
  all_goals simp [handler, device, sessions]

end Frames

end ServerSystem

end Server

end RmttGo
