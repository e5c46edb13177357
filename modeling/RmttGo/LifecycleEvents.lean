import RmttGo.EventRuns
import RmttGo.ServerRecords
import RmttGo.SingleSession

/-!
# Lifecycle events come in pairs

`OnConnectionEstablished` and `OnConnectionClosed` are each called once by the
handler of a connection.  `Kick` calls `OnConnectionClosed` as well, for a
connection whose handler is going to do so again; in runs where no kick hits an
active connection the events of every connection are paired.
-/

namespace RmttGo

namespace Server

open Codec

def LifecycleEvent.establishes (conn : Nat) : LifecycleEvent → Bool
  | .established _ other => other = conn
  | .closed _ _ _ => false

def LifecycleEvent.closes (conn : Nat) : LifecycleEvent → Bool
  | .established _ _ => false
  | .closed _ other _ => other = conn

/-- How far the handler has come with its two events. -/
inductive Progress
  | unregistered
  | registered
  | live
  | over
  deriving DecidableEq

def Handler.progress : Handler → Progress
  | .unaccepted | .accepted | .entered | .awaitingConnect | .refusing _
  | .welcoming _ _ | .registering _ => .unregistered
  | .takingOver _ _ | .establishing _ => .registered
  | .looping _ | .answering _ | .violating _ | .closing _ | .removing
  | .notifying => .live
  | .leaving | .returned => .over

/-- What the progress of a handler says about the events of its connection. -/
def Progress.Accounts (isRegistered : Prop) (established closed : Nat) :
    Progress → Prop
  | .unregistered => ¬ isRegistered ∧ established = 0 ∧ closed = 0
  | .registered => isRegistered ∧ established = 0 ∧ closed = 0
  | .live => isRegistered ∧ established = 1 ∧ closed = 0
  | .over => (¬ isRegistered ∧ established = 0 ∧ closed = 0) ∨
      (isRegistered ∧ established = 1 ∧ closed = 1)

/-- `Kick` has found an active connection and goes through with it. -/
def Task.kicking : Task → Bool
  | .kickSending _ _ _ | .kickClosing _ _ _ | .kickRemoving _ _ _
  | .kickNotifying _ _ _ => true
  | _ => false

/-- The step is none of the three that a connection's record depends on. -/
def ServerEvent.Quiet (conn : Nat) (event : ServerEvent) : Prop :=
  event ≠ .register conn ∧ event ≠ .establish conn ∧ event ≠ .notify conn

inductive Progress.Step (conn : Nat) : ServerEvent → Progress → Progress → Prop
  | register : Step conn (.register conn) .unregistered .registered
  | establish : Step conn (.establish conn) .registered .live
  | notify : Step conn (.notify conn) .live .over
  | still {event : ServerEvent} {progress : Progress} (quiet : event.Quiet conn) :
      Step conn event progress progress
  | turnedAway {event : ServerEvent} (quiet : event.Quiet conn) :
      Step conn event .unregistered .over

section Steps

variable {options : ServerOptions} {conn : Nat} {event : ServerEvent}

theorem SessionStep.progress {session after : Session}
    (stepped : SessionStep options conn event session after) :
    Progress.Step conn event session.handler.progress after.handler.progress := by
  cases stepped with
  | untouched notOwn =>
      apply Progress.Step.still
      refine ⟨?_, ?_, ?_⟩
      all_goals
        rintro rfl
        exact notOwn rfl
  | greeted position isRead =>
      rw [position]
      cases greet options _ with
      | drop => exact .turnedAway ⟨nofun, nofun, nofun⟩
      | refuse returnCode =>
          exact .still ⟨nofun, nofun, nofun⟩
      | welcome deviceID serverKp => exact .still ⟨nofun, nofun, nofun⟩
  | unreadable isRead position =>
      rw [position]
      rcases isRead with rfl | rfl <;> exact .turnedAway ⟨nofun, nofun, nofun⟩
  | refuse position =>
      rw [position]
      exact .turnedAway ⟨nofun, nofun, nofun⟩
  | welcomeFails position =>
      rw [position]
      exact .turnedAway ⟨nofun, nofun, nofun⟩
  | register position registers =>
      rw [position]
      cases registers <;> exact .register
  | establish position =>
      rw [position]
      exact .establish
  | notify position =>
      rw [position]
      exact .notify
  | receive isRead position goesOn =>
      rw [position]
      rcases isRead with rfl | rfl <;> cases goesOn <;>
        exact .still ⟨nofun, nofun, nofun⟩
  | welcome position sent =>
      rw [position]
      exact .still ⟨nofun, nofun, nofun⟩
  | operate operated => exact .still ⟨nofun, nofun, nofun⟩
  | closeBelow => exact .still ⟨nofun, nofun, nofun⟩
  | _ position =>
      rw [position]
      exact .still ⟨nofun, nofun, nofun⟩

theorem Progress.Accounts.step {before after : Progress} {isRegistered : Prop}
    {established closed : Nat}
    (accounts : before.Accounts isRegistered established closed)
    (stepped : Progress.Step conn event before after) :
    after.Accounts (isRegistered ∨ event = .register conn)
      (established + if event = .establish conn then 1 else 0)
      (closed + if event = .notify conn then 1 else 0) := by
  cases stepped with
  | register => simpa [Progress.Accounts] using accounts.2
  | establish => simpa [Progress.Accounts] using accounts
  | notify => simpa [Progress.Accounts] using accounts
  | still quiet => simpa [quiet.1, quiet.2.1, quiet.2.2] using accounts
  | turnedAway quiet =>
      left
      simpa [Progress.Accounts, quiet.1, quiet.2.1, quiet.2.2] using accounts

end Steps

namespace ServerSystem

/-- The handshake of the connection was accepted and it has been registered. -/
def Registered (s : ServerSystem) (conn : Nat) : Prop :=
  ∃ deviceID, (deviceID, conn) ∈ s.registrations

def established (s : ServerSystem) (conn : Nat) : Nat :=
  s.events.countP (·.establishes conn)

def closed (s : ServerSystem) (conn : Nat) : Nat :=
  s.events.countP (·.closes conn)

structure Paired (s : ServerSystem) : Prop where
  established_le_one : ∀ conn, s.established conn ≤ 1
  closed_le_one : ∀ conn, s.closed conn ≤ 1
  established_first : ∀ earlier later deviceID conn reason,
    s.events = earlier ++ .closed deviceID conn reason :: later →
      ∃ event ∈ earlier, event.establishes conn
  returned : ∀ conn, s.handler conn = .returned → s.Registered conn →
    s.established conn = 1 ∧ s.closed conn = 1
  /-- The difference counts the connections between the two events. -/
  live : ∀ conn, s.established conn =
    s.closed conn + if (s.handler conn).progress = .live then 1 else 0

structure Accounted (s : ServerSystem) : Prop where
  accounts : ∀ conn, (s.handler conn).progress.Accounts (s.Registered conn)
    (s.established conn) (s.closed conn)
  unkicked : ∀ task, (s.tasks task).kicking = false
  ordered : ∀ earlier later deviceID conn reason,
    s.events = earlier ++ .closed deviceID conn reason :: later →
      ∃ event ∈ earlier, event.establishes conn

/-- A `Kick` that has looked a connection up finds it closed already. -/
def KicksNobody (s : ServerSystem) : ServerEvent → Prop
  | .proceed task _ _ =>
      match s.tasks task with
      | .kickFound _ conn _ => (s.device conn).active = false
      | _ => True
  | _ => True

instance (s : ServerSystem) (event : ServerEvent) :
    Decidable (s.KicksNobody event) := by
  unfold KicksNobody
  split
  · split <;> infer_instance
  · infer_instance

variable {options : ServerOptions} {s next : ServerSystem} {conn task : Nat}
  {event : ServerEvent}

theorem kicking_of_step (stepped : step options s event = some next)
    (meets : s.KicksNobody event)
    (unkicked : ∀ task, (s.tasks task).kicking = false) (task : Nat) :
    (next.tasks task).kicking = false := by
  have own := taskStep_of_step stepped task
  generalize next.tasks task = position at own
  cases own with
  | untouched => exact unkicked task
  | proceed =>
      have before := unkicked task
      simp only [KicksNobody] at meets
      cases current : s.tasks task with
      | pushFound conn payload =>
          simp only [follow]
          split <;> rfl
      | kickFound deviceID conn reason =>
          rw [current] at meets
          simp only [follow, meets]
          rfl
      | shutdownSending remaining => cases remaining <;> rfl
      | _ =>
          rw [current] at before
          first | rfl | cases before
  | _ => rfl

section Counts

theorem reports_proceed {now : Nat} {outcome : TransportOutcome}
    (unkicked : (s.tasks task).kicking = false) :
    s.reports (.proceed task now outcome) = [] := by
  simp only [reports]
  split
  · rename_i current
    rw [current] at unkicked
    cases unkicked
  · rfl

theorem countP_reports_establishes
    (unkicked : ∀ task, (s.tasks task).kicking = false) :
    (s.reports event).countP (·.establishes conn) =
      if event = .establish conn then 1 else 0 := by
  cases event with
  | establish other => simp [reports, LifecycleEvent.establishes]
  | notify other => simp [reports, LifecycleEvent.establishes]
  | proceed task now outcome =>
      rw [reports_proceed (unkicked task)]
      rfl
  | _ => rfl

theorem countP_reports_closes
    (unkicked : ∀ task, (s.tasks task).kicking = false) :
    (s.reports event).countP (·.closes conn) =
      if event = .notify conn then 1 else 0 := by
  cases event with
  | establish other => simp [reports, LifecycleEvent.closes]
  | notify other => simp [reports, LifecycleEvent.closes]
  | proceed task now outcome =>
      rw [reports_proceed (unkicked task)]
      rfl
  | _ => rfl

theorem notify_of_mem_reports
    (unkicked : ∀ task, (s.tasks task).kicking = false) {deviceID : Bytes}
    {reason : CloseReason}
    (reported : .closed deviceID conn reason ∈ s.reports event) :
    event = .notify conn := by
  have counted : 0 < (s.reports event).countP (·.closes conn) :=
    List.countP_pos_iff.mpr ⟨_, reported, by simp [LifecycleEvent.closes]⟩
  rw [countP_reports_closes unkicked] at counted
  by_contra other
  rw [if_neg other] at counted
  cases counted

theorem registered_of_step (stepped : step options s event = some next)
    (conn : Nat) :
    next.Registered conn ↔ s.Registered conn ∨ event = .register conn := by
  by_cases registers : ∃ other, event = .register other
  · obtain ⟨other, rfl⟩ := registers
    have added : next.registrations =
        ((s.device other).deviceID, other) :: s.registrations := by
      simp only [step] at stepped
      split at stepped <;> cases stepped
      rfl
    simp only [Registered, added, List.mem_cons, Prod.mk.injEq,
      ServerEvent.register.injEq]
    constructor
    · rintro ⟨deviceID, ⟨_, rfl⟩ | earlier⟩
      · exact .inr rfl
      · exact .inl ⟨deviceID, earlier⟩
    · rintro (⟨deviceID, earlier⟩ | rfl)
      · exact ⟨deviceID, .inr earlier⟩
      · exact ⟨_, .inl ⟨rfl, rfl⟩⟩
  · rcases (records_of_step stepped).2.1 with same | ⟨other, _, isRegister, _⟩
    · have quiet : event ≠ .register conn := fun same => registers ⟨conn, same⟩
      simp [Registered, same, quiet]
    · exact absurd ⟨other, isRegister⟩ registers

end Counts

theorem Accounted.exists_establishes (accounted : s.Accounted)
    (live : (s.handler conn).progress = .live) :
    ∃ event ∈ s.events, event.establishes conn := by
  have accounts := accounted.accounts conn
  rw [live] at accounts
  have counted : 0 < s.events.countP (·.establishes conn) := by
    rw [show s.events.countP (·.establishes conn) = 1 from accounts.2.1]
    exact Nat.one_pos
  exact List.countP_pos_iff.mp counted

theorem Accounted.ordered_step (accounted : s.Accounted)
    (stepped : step options s event = some next) :
    ∀ earlier later deviceID conn reason,
      next.events = earlier ++ .closed deviceID conn reason :: later →
        ∃ event ∈ earlier, event.establishes conn := by
  intro earlier later deviceID conn reason isSplit
  rw [events_of_step stepped] at isSplit
  -- A report of this step comes behind all earlier events.
  have reported (member : .closed deviceID conn reason ∈ s.reports event)
      (past : s.events ⊆ earlier) : ∃ event ∈ earlier, event.establishes conn := by
    cases notify_of_mem_reports accounted.unkicked member
    obtain ⟨position, _⟩ := Option.ite_none_right_eq_some.mp stepped
    obtain ⟨event, isPast, establishes⟩ :=
      accounted.exists_establishes (by rw [position]; rfl)
    exact ⟨event, past isPast, establishes⟩
  rcases List.append_eq_append_iff.mp isSplit with
    ⟨middle, rfl, reports⟩ | ⟨middle, events, rest⟩
  · apply reported
    · rw [reports]
      exact List.mem_append_right _ List.mem_cons_self
    · exact List.subset_append_left _ _
  · cases middle with
    | nil =>
        apply reported
        · rw [← List.nil_append (s.reports event), ← rest]
          exact List.mem_cons_self
        · rw [events, List.append_nil]
          exact List.Subset.refl _
    | cons first middle =>
        cases rest
        exact accounted.ordered earlier middle deviceID conn reason events

theorem Accounted.step (accounted : s.Accounted) (meets : s.KicksNobody event)
    (stepped : step options s event = some next) : next.Accounted where
  accounts := by
    intro conn
    have moved := (accounted.accounts conn).step
      (sessionStep_of_step stepped conn).progress
    have opened : next.established conn = s.established conn +
        if event = .establish conn then 1 else 0 := by
      rw [established, events_of_step stepped, List.countP_append,
        countP_reports_establishes accounted.unkicked]
      rfl
    have ended : next.closed conn = s.closed conn +
        if event = .notify conn then 1 else 0 := by
      rw [closed, events_of_step stepped, List.countP_append,
        countP_reports_closes accounted.unkicked]
      rfl
    rw [opened, ended, registered_of_step stepped conn]
    exact moved
  unkicked := kicking_of_step stepped meets accounted.unkicked
  ordered := accounted.ordered_step stepped

theorem initial_accounted : initial.Accounted where
  accounts := by
    intro conn
    exact ⟨nofun, rfl, rfl⟩
  unkicked := fun _ => rfl
  ordered := by
    intro earlier later deviceID conn reason split
    cases earlier <;> cases split

theorem Accounted.counts (accounted : s.Accounted) (conn : Nat) :
    s.established conn ≤ 1 ∧ s.closed conn ≤ 1 ∧ s.established conn =
      s.closed conn + if (s.handler conn).progress = .live then 1 else 0 := by
  have accounts := accounted.accounts conn
  cases progress : (s.handler conn).progress <;>
    simp only [progress, Progress.Accounts] at accounts <;> simp <;> omega

theorem Accounted.paired (accounted : s.Accounted) : s.Paired where
  established_le_one := fun conn => (accounted.counts conn).1
  closed_le_one := fun conn => (accounted.counts conn).2.1
  established_first := accounted.ordered
  returned := by
    intro conn returned isRegistered
    have accounts := accounted.accounts conn
    rw [returned] at accounts
    rcases accounts with ⟨unregistered, _⟩ | ⟨_, counts⟩
    · exact absurd isRegistered unregistered
    · exact counts
  live := fun conn => (accounted.counts conn).2.2

theorem paired_of_kicksNobody {events : List ServerEvent}
    (meets : EventRun.Meets (step options) KicksNobody initial events)
    (executed : EventRun.run (step options) initial events = some s) :
    s.Paired := by
  apply Accounted.paired
  apply EventRun.invariant_of_meets Accounted _ initial_accounted meets executed
  intro s next event accounted meets stepped
  exact accounted.step meets stepped

/-- A device connects and leaves again. -/
theorem paired_of_kicksNobody_left :
    ∃ s, EventRun.run (step newServerOptions) initial
        (handshake [100] 0 ++ [.establish 0, .readFails 0, .close 0, .remove 0,
          .notify 0, .leave 0]) = some s ∧
      s.handler 0 = .returned ∧ s.Paired := by
  have outcome : (EventRun.run (step newServerOptions) initial
      (handshake [100] 0 ++ [.establish 0, .readFails 0, .close 0, .remove 0,
        .notify 0, .leave 0])).map (fun s => s.handler 0) = some .returned := by
    decide +kernel
  obtain ⟨s, executed, returned⟩ := Option.map_eq_some_iff.mp outcome
  exact ⟨s, executed, returned,
    paired_of_kicksNobody (by decide +kernel) executed⟩

/-- A connected device is kicked, and its handler exits: its connection is
reported as closed twice. -/
theorem kicked_connection_closed_twice :
    ∃ s, EventRun.run (step newServerOptions) initial
        (handshake [100] 0 ++ [.establish 0, .kick 0 [100] 3,
          .proceed 0 1 .whole, .proceed 0 1 .whole, .proceed 0 1 .whole,
          .proceed 0 1 .whole, .proceed 0 1 .whole, .readFails 0, .close 0,
          .remove 0, .notify 0]) = some s ∧
      s.established 0 = 1 ∧ s.closed 0 = 2 := by
  have outcome : (EventRun.run (step newServerOptions) initial
      (handshake [100] 0 ++ [.establish 0, .kick 0 [100] 3,
        .proceed 0 1 .whole, .proceed 0 1 .whole, .proceed 0 1 .whole,
        .proceed 0 1 .whole, .proceed 0 1 .whole, .readFails 0, .close 0,
        .remove 0, .notify 0])).map
        (fun s => (s.established 0, s.closed 0)) = some (1, 2) := by
    decide +kernel
  obtain ⟨s, executed, counts⟩ := Option.map_eq_some_iff.mp outcome
  exact ⟨s, executed, congrArg Prod.fst counts, congrArg Prod.snd counts⟩

end ServerSystem

end Server

end RmttGo
