import Mathlib.Data.Finset.Card
import RmttGo.ConnectionRoles
import RmttGo.Succession

/-!
# The connections of a client

A client uses its connections one at a time: each is closed once, and its
goroutines have ended before the next one is dialed.  This is so as long as
`attemptConnection` returns no nil connection without an error.  In any case a
loss is reported once.
-/

namespace RmttGo

namespace Client

/-- The connections that `attemptConnection` has returned without an error, those
that it has returned open and with an error, those that were closed, those of
them that were closed because of a loss, and the calls of `OnConnectionLost`. -/
structure Ledger where
  opened : List Nat
  dropped : List Nat
  closed : List Nat
  lost : List Nat
  reported : Nat
  deriving DecidableEq, Repr

namespace Ledger

def empty : Ledger :=
  ⟨[], [], [], [], 0⟩

/-- `startWorkers` closes the connection it is given when there is one already,
`stopCommsWorkers` closes `c.conn`. -/
def note (s : ClientSystem) (event : ClientEvent) (_ : ClientSystem)
    (ledger : Ledger) : Ledger :=
  match event with
  | .attemptSucceeded _ conn =>
      { ledger with opened := ledger.opened ++ conn.toList }
  | .attemptFailed _ _ conn =>
      { ledger with dropped := ledger.dropped ++ conn.toList }
  | .startWorkers goroutine _ =>
      match s.activity goroutine, s.conn with
      | .starting conn, some _ =>
          { ledger with closed := ledger.closed ++ conn.toList }
      | _, _ => ledger
  | .stopCommsWorkers goroutine _ =>
      match s.activity goroutine, s.conn with
      | .stopping, some conn => { ledger with closed := ledger.closed ++ [conn] }
      | .lossStopping _ _, some conn =>
          { ledger with
            closed := ledger.closed ++ [conn]
            lost := ledger.lost ++ [conn] }
      | _, _ => ledger
  | .disDone goroutine =>
      match s.activity goroutine with
      | .lossFinishing _ => { ledger with reported := ledger.reported + 1 }
      | _ => ledger
  | _ => ledger

end Ledger

section Crew

/-- The wait group counts the goroutines that work for a connection. -/
def Crewed (roles : Nat → Role) (workers : Nat) : Prop :=
  ∃ crew : Finset Nat, (∀ goroutine, goroutine ∈ crew ↔
    ∃ conn, roles goroutine = .works conn) ∧ crew.card = workers

variable {roles : Nat → Role} {workers goroutine : Nat} {conn : Option Nat}
  {role : Role}

theorem Crewed.update (crewed : Crewed roles workers)
    (before : ∀ conn, roles goroutine ≠ .works conn)
    (after : ∀ conn, role ≠ .works conn) :
    Crewed (Function.update roles goroutine role) workers := by
  obtain ⟨crew, members, count⟩ := crewed
  refine ⟨crew, fun other => ?_, count⟩
  rw [members other]
  by_cases same : other = goroutine
  · subst same
    rw [Function.update_self]
    exact ⟨fun ⟨conn, works⟩ => absurd works (before conn),
      fun ⟨conn, works⟩ => absurd works (after conn)⟩
  · rw [Function.update_of_ne same]

theorem Crewed.hire (crewed : Crewed roles workers)
    (before : ∀ conn, roles goroutine ≠ .works conn) (conn : Option Nat) :
    Crewed (Function.update roles goroutine (.works conn)) (workers + 1) := by
  obtain ⟨crew, members, count⟩ := crewed
  have outside : goroutine ∉ crew := by
    rw [members]
    rintro ⟨conn, works⟩
    exact before conn works
  refine ⟨insert goroutine crew, fun other => ?_, ?_⟩
  · rw [Finset.mem_insert, members]
    by_cases same : other = goroutine
    · subst same
      simp
    · simp [same]
  · rw [Finset.card_insert_of_notMem outside, count]

theorem Crewed.leave (crewed : Crewed roles workers)
    (works : roles goroutine = .works conn) :
    workers ≠ 0 ∧ Crewed (Function.update roles goroutine .other) (workers - 1) := by
  obtain ⟨crew, members, count⟩ := crewed
  have inside : goroutine ∈ crew := (members goroutine).mpr ⟨conn, works⟩
  refine ⟨?_, crew.erase goroutine, fun other => ?_, ?_⟩
  · rw [← count]
    exact Finset.card_ne_zero_of_mem inside
  · rw [Finset.mem_erase, members]
    by_cases same : other = goroutine
    · subst same
      simp
    · simp [same]
  · rw [Finset.card_erase_of_mem inside, count]

theorem Crewed.nobody (crewed : Crewed roles 0) (goroutine : Nat)
    (conn : Option Nat) : roles goroutine ≠ .works conn := by
  obtain ⟨crew, members, count⟩ := crewed
  intro works
  have inside := (members goroutine).mpr ⟨conn, works⟩
  rw [Finset.card_eq_zero.mp count] at inside
  cases inside

end Crew

section Stages

/-- Has nothing to do with a connection, at most with a loss that is over. -/
def Role.Aside : Role → Prop
  | .other | .reports => True
  | .dialed _ | .installing _ | .works _ | .awaits _ => False

/-- What everybody does in a stage. -/
inductive StageOf (roles : Nat → Role) (conn : Option Nat) : Stage Nat → Prop
  | vacant (none : conn = none) (others : ∀ goroutine, (roles goroutine).Aside) :
      StageOf roles conn .vacant
  | acquired {holder own : Nat} (none : conn = none)
      (dialed : roles holder = .dialed (some own))
      (others : ∀ other, other ≠ holder → (roles other).Aside) :
      StageOf roles conn (.acquired own)
  | serving {own : Nat} (current : conn = some own)
      (everybody : ∀ goroutine, (roles goroutine).Aside ∨
        roles goroutine = .installing (some own) ∨
          roles goroutine = .works (some own)) :
      StageOf roles conn (.serving own)
  | draining {holder own : Nat} {broken : Bool} (none : conn = none)
      (awaits : roles holder = .awaits broken)
      (others : ∀ other, other ≠ holder → (roles other).Aside ∨
        roles other = .works (some own)) :
      StageOf roles conn (.draining own)

variable {roles : Nat → Role} {conn : Option Nat} {goroutine : Nat}

/-- The stage, as one goroutine sees it. -/
inductive Place (roles : Nat → Role) (conn : Option Nat) (goroutine : Nat) :
    Role → Stage Nat → Prop
  | aside {role : Role} {stage : Stage Nat} (aside : role.Aside) :
      Place roles conn goroutine role stage
  | dialed {own : Nat} (others : ∀ other, other ≠ goroutine → (roles other).Aside) :
      Place roles conn goroutine (.dialed (some own)) (.acquired own)
  | installing {own : Nat} (current : conn = some own) :
      Place roles conn goroutine (.installing (some own)) (.serving own)
  | works {own : Nat} : Place roles conn goroutine (.works (some own)) (.serving own)
  | leaves {own : Nat} :
      Place roles conn goroutine (.works (some own)) (.draining own)
  | awaits {own : Nat} {broken : Bool} (none : conn = none)
      (others : ∀ other, other ≠ goroutine → (roles other).Aside ∨
        roles other = .works (some own)) :
      Place roles conn goroutine (.awaits broken) (.draining own)

theorem StageOf.place {stage : Stage Nat} (stageOf : StageOf roles conn stage)
    (goroutine : Nat) : Place roles conn goroutine (roles goroutine) stage := by
  cases stageOf with
  | vacant none others => exact .aside (others goroutine)
  | @acquired holder own none dialed others =>
      by_cases same : goroutine = holder
      · subst same
        rw [dialed]
        exact .dialed others
      · exact .aside (others goroutine same)
  | serving current everybody =>
      rcases everybody goroutine with aside | installing | works
      · exact .aside aside
      · rw [installing]
        exact .installing current
      · rw [works]
        exact .works
  | @draining holder own broken none awaits others =>
      by_cases same : goroutine = holder
      · subst same
        rw [awaits]
        exact .awaits none others
      · rcases others goroutine same with aside | works
        · exact .aside aside
        · rw [works]
          exact .leaves

theorem StageOf.install {own : Nat}
    (others : ∀ other, other ≠ goroutine → (roles other).Aside) :
    StageOf (Function.update roles goroutine (.installing (some own))) (some own)
      (.serving own) := by
  refine .serving rfl ?_
  rw [Function.forall_update_iff roles fun _ role => role.Aside ∨
    role = .installing _ ∨ role = .works _]
  exact ⟨.inr (.inl rfl), fun other different => .inl (others other different)⟩

/-- A connection stays in service, whoever joins or leaves it. -/
theorem StageOf.update_serving {own : Nat}
    (stageOf : StageOf roles conn (.serving own)) {role : Role}
    (serves : role.Aside ∨ role = .installing (some own) ∨
      role = .works (some own)) :
    StageOf (Function.update roles goroutine role) conn (.serving own) := by
  cases stageOf with
  | serving current everybody =>
      refine .serving current ?_
      rw [Function.forall_update_iff roles fun _ role => role.Aside ∨
        role = .installing _ ∨ role = .works _]
      exact ⟨serves, fun other _ => everybody other⟩

/-- A goroutine that worked for a connection or stood aside stands aside. -/
theorem StageOf.update_aside {stage : Stage Nat} (stageOf : StageOf roles conn stage)
    (before : (∃ own, roles goroutine = .works own) ∨ (roles goroutine).Aside)
    {role : Role} (aside : role.Aside) :
    StageOf (Function.update roles goroutine role) conn stage := by
  -- Who has a connection in hand or waits for workers is another goroutine.
  have different {holder : Nat} (busy : ¬ (roles holder).Aside)
      (idle : ∀ own, roles holder ≠ .works own) : holder ≠ goroutine := by
    rintro rfl
    rcases before with ⟨own, works⟩ | isAside
    · exact idle own works
    · exact busy isAside
  cases stageOf with
  | vacant none others =>
      refine .vacant none ?_
      rw [Function.forall_update_iff roles fun _ role => role.Aside]
      exact ⟨aside, fun other _ => others other⟩
  | @acquired holder own none dialed others =>
      have notHolder := @different holder (by simp [dialed, Role.Aside])
        (by simp [dialed])
      refine .acquired none ((Function.update_of_ne notHolder ..).trans dialed) ?_
      rw [Function.forall_update_iff roles fun other role =>
        other ≠ holder → role.Aside]
      exact ⟨fun _ => aside, fun other _ => others other⟩
  | serving current everybody =>
      exact (StageOf.serving current everybody).update_serving (.inl aside)
  | @draining holder own broken none awaits others =>
      have notHolder := @different holder (by simp [awaits, Role.Aside])
        (by simp [awaits])
      refine .draining none ((Function.update_of_ne notHolder ..).trans awaits) ?_
      rw [Function.forall_update_iff roles fun other role =>
        other ≠ holder → role.Aside ∨ role = .works (some own)]
      exact ⟨fun _ => .inl aside, fun other _ => others other⟩

end Stages

section Simulation

/-- The succession of connections that a ledger tells about. -/
def Ledger.succession (ledger : Ledger) (workers : Nat) (stage : Stage Nat) :
    Succession Nat :=
  ⟨stage, workers, ledger.opened, ledger.closed⟩

structure Tracks (s : ClientSystem) (stage : Stage Nat) : Prop where
  coherent : Coherent True s
  stageOf : StageOf s.roles s.conn stage
  crewed : Crewed s.roles s.workers

/-- The succession can go where the client has gone. -/
def Goes (before after : Ledger) (workers : Nat) (stage : Stage Nat)
    (next : ClientSystem) : Prop :=
  ∃ moves stageNext,
    EventRun.run Succession.step (before.succession workers stage) moves =
        some (after.succession next.workers stageNext) ∧
      StageOf next.roles next.conn stageNext ∧ Crewed next.roles next.workers

variable {options : Options} {s next : ClientSystem} {event : ClientEvent}
  {stage : Stage Nat} {ledger : Ledger} {goroutine : Nat} {conn : Option Nat}

open ClientSystem

theorem Goes.of_leads {before after : Ledger} {workers : Nat} {roles : Nat → Role}
    {current : Option Nat} {count : Nat} (leads : next.Leads roles current count)
    (moves : List (Succession.Event Nat)) {stageNext : Stage Nat}
    (ran : EventRun.run Succession.step (before.succession workers stage) moves =
      some (after.succession count stageNext))
    (stageOf : StageOf roles current stageNext) (crewed : Crewed roles count) :
    Goes before after workers stage next := by
  obtain ⟨rfl, rfl, rfl⟩ := leads
  exact ⟨moves, stageNext, ran, stageOf, crewed⟩

theorem note_startWorkers (vacant : s.conn = none) {keepalive : Nat} :
    Ledger.note s (.startWorkers goroutine keepalive) next ledger = ledger := by
  simp only [Ledger.note, vacant]
  cases s.activity goroutine <;> rfl

/-- At most a connection that came with an error is noted. -/
theorem note_of_quiet {supplied : Prop} (coherent : Coherent supplied s)
    (notDialed : ∀ goroutine conn, event ≠ .attemptSucceeded goroutine conn)
    (notStopped : ∀ goroutine waiter, event = .stopCommsWorkers goroutine waiter →
      s.conn = none)
    (notReported : ∀ goroutine, event = .disDone goroutine →
      s.roles goroutine ≠ .reports) :
    ∃ dropped, Ledger.note s event next ledger = { ledger with dropped } := by
  cases event with
  | attemptSucceeded goroutine conn => exact absurd rfl (notDialed goroutine conn)
  | attemptFailed goroutine retryable conn => exact ⟨_, rfl⟩
  | startWorkers goroutine keepalive =>
      refine ⟨ledger.dropped, ?_⟩
      simp only [Ledger.note]
      split
      case h_1 conn other starting hasConn =>
        have agrees := coherent.agrees goroutine
        rw [starting] at agrees
        cases agrees.1.symm.trans hasConn
      case h_2 => rfl
  | stopCommsWorkers goroutine waiter =>
      refine ⟨ledger.dropped, ?_⟩
      simp only [Ledger.note, notStopped goroutine waiter rfl]
      cases s.activity goroutine <;> rfl
  | disDone goroutine =>
      refine ⟨ledger.dropped, ?_⟩
      simp only [Ledger.note]
      split
      case h_1 reconnectRequested finishing =>
        exact absurd (roles_of_activity finishing) (notReported goroutine rfl)
      case h_2 => rfl
  | _ => exact ⟨ledger.dropped, rfl⟩

/-- Nobody attempts to connect unless there is no connection left. -/
theorem Tracks.vacant_of_attempting (tracks : Tracks s stage) {isReconnect : Bool}
    (attempting : s.activity goroutine = .attempting isReconnect) :
    stage = .vacant := by
  obtain ⟨coherent, stageOf, -⟩ := tracks
  have holds : (s.activity goroutine).holds ≠ none := by
    rw [attempting]
    exact Option.some_ne_none _
  have noConn : s.conn = none := by
    have agrees := coherent.agrees goroutine
    rwa [attempting] at agrees
  have isOther : s.roles goroutine = .other := roles_of_activity attempting
  -- Two goroutines cannot both have a completion function.
  have onlyOne {holder : Nat} (holds' : (s.activity holder).holds ≠ none) :
      s.roles holder = .other := by
    obtain ⟨owner, only⟩ := coherent.oneHolder
    rw [only holder holds', ← only goroutine holds]
    exact isOther
  cases stageOf with
  | vacant => rfl
  | acquired none dialed =>
      have other := onlyOne (Activity.holds_of_role (.inl ⟨_, dialed⟩))
      cases dialed.symm.trans other
  | serving current => cases noConn.symm.trans current
  | draining none awaits =>
      have other := onlyOne (Activity.holds_of_role (.inr (.inl ⟨_, awaits⟩)))
      cases awaits.symm.trans other

theorem Role.Aside.not_works {role : Role} (aside : role.Aside) (conn : Option Nat) :
    role ≠ .works conn := by
  rintro rfl
  exact aside

theorem Tracks.dial (tracks : Tracks s stage) {isReconnect : Bool} {own : Nat}
    (attempting : s.activity goroutine = .attempting isReconnect)
    (leads : next.Leads (Function.update s.roles goroutine (.dialed (some own)))
      s.conn s.workers) :
    Goes ledger { ledger with opened := ledger.opened ++ [own] } s.workers stage
      next := by
  obtain rfl := tracks.vacant_of_attempting attempting
  obtain ⟨none, others⟩ := tracks.stageOf
  refine .of_leads leads [.acquire own] rfl
    (.acquired none (Function.update_self ..) ?_)
    (tracks.crewed.update (others goroutine).not_works (by simp))
  intro other different
  rw [Function.update_of_ne different]
  exact others other

theorem Tracks.acquired_of_dialed (tracks : Tracks s stage)
    (dialed : s.roles goroutine = .dialed conn) :
    ∃ own, conn = some own ∧ stage = .acquired own ∧
      ∀ other, other ≠ goroutine → (s.roles other).Aside := by
  have place := tracks.stageOf.place goroutine
  rw [dialed] at place
  cases place with
  | aside aside => exact aside.elim
  | dialed others => exact ⟨_, rfl, rfl, others⟩

theorem Tracks.install (tracks : Tracks s stage)
    (dialed : s.roles goroutine = .dialed conn)
    (leads : next.Leads (Function.update s.roles goroutine (.installing conn))
      conn s.workers) : Goes ledger ledger s.workers stage next := by
  obtain ⟨own, rfl, rfl, others⟩ := tracks.acquired_of_dialed dialed
  exact .of_leads leads [.install] rfl (.install others)
    (tracks.crewed.update (by simp [dialed]) (by simp))

theorem Tracks.installAlive (tracks : Tracks s stage) {keepalive : Nat}
    (dialed : s.roles goroutine = .dialed conn) (idle : s.roles keepalive = .other)
    (leads : next.Leads (Function.update
      (Function.update s.roles goroutine (.installing conn)) keepalive
        (.works conn)) conn (s.workers + 1)) :
    Goes ledger ledger s.workers stage next := by
  obtain ⟨own, rfl, rfl, others⟩ := tracks.acquired_of_dialed dialed
  have different : keepalive ≠ goroutine := by
    rintro rfl
    cases dialed.symm.trans idle
  have installed : Crewed (Function.update s.roles goroutine (.installing (some own)))
      s.workers :=
    tracks.crewed.update (by simp [dialed]) (by simp)
  exact .of_leads leads [.install, .hire] rfl
    ((StageOf.install others).update_serving (.inr (.inr rfl)))
    (installed.hire (by simp [different, idle]) (some own))

theorem Tracks.serving_of_conn (tracks : Tracks s stage) {own : Nat}
    (current : s.conn = some own) :
    stage = .serving own ∧ ∀ other, (s.roles other).Aside ∨
      s.roles other = .installing (some own) ∨ s.roles other = .works (some own) := by
  cases tracks.stageOf with
  | serving currentToo everybody =>
      cases current.symm.trans currentToo
      exact ⟨rfl, everybody⟩
  | vacant none | acquired none | draining none =>
      cases current.symm.trans none

theorem Tracks.conn_of_installing (tracks : Tracks s stage)
    (installing : s.roles goroutine = .installing conn) :
    ∃ own, conn = some own ∧ s.conn = some own := by
  have place := tracks.stageOf.place goroutine
  rw [installing] at place
  cases place with
  | aside aside => exact aside.elim
  | installing current => exact ⟨_, rfl, current⟩

theorem Tracks.start (tracks : Tracks s stage) {comms incoming : Nat}
    (installing : s.roles goroutine = .installing conn)
    (idle : s.roles comms = .other) (idleToo : s.roles incoming = .other)
    (different : incoming ≠ comms)
    (leads : next.Leads (Function.update (Function.update
      (Function.update s.roles goroutine .other) comms (.works conn)) incoming
        (.works conn)) s.conn (s.workers + 2)) :
    Goes ledger ledger s.workers stage next := by
  obtain ⟨own, rfl, current⟩ := tracks.conn_of_installing installing
  obtain ⟨rfl, -⟩ := tracks.serving_of_conn current
  have differs : comms ≠ goroutine := by
    rintro rfl
    cases installing.symm.trans idle
  have differsToo : incoming ≠ goroutine := by
    rintro rfl
    cases installing.symm.trans idleToo
  have released : Crewed (Function.update s.roles goroutine .other) s.workers :=
    tracks.crewed.update (by simp [installing]) (by simp)
  have hired : Crewed (Function.update (Function.update s.roles goroutine .other)
      comms (.works (some own))) (s.workers + 1) :=
    released.hire (by simp [differs, idle]) (some own)
  have left : StageOf (Function.update s.roles goroutine .other) s.conn
      (.serving own) :=
    tracks.stageOf.update_serving (.inl trivial)
  exact .of_leads leads [.hire, .hire] rfl
    ((left.update_serving (.inr (.inr rfl))).update_serving (.inr (.inr rfl)))
    (hired.hire (by simp [different, differsToo, idleToo]) (some own))

/-- `stopCommsWorkers` with a connection leaves one goroutine waiting. -/
theorem Tracks.stop (tracks : Tracks s stage) {holder own : Nat} {broken : Bool}
    {lost : List Nat} (unlocked : s.connMu = none) (current : s.conn = some own)
    (free : s.roles holder = .other)
    (leads : next.Leads (Function.update s.roles holder (.awaits broken)) none
      s.workers) :
    Goes ledger { ledger with closed := ledger.closed ++ [own], lost } s.workers stage
      next := by
  obtain ⟨rfl, everybody⟩ := tracks.serving_of_conn current
  refine .of_leads leads [.close] rfl
    (.draining rfl (Function.update_self ..) fun other different => ?_)
    (tracks.crewed.update (by simp [free]) (by simp))
  rw [Function.update_of_ne different]
  rcases everybody other with aside | installing | works
  · exact .inl aside
  · have locked := tracks.coherent.locked other (Activity.locks_of_role installing)
    cases unlocked.symm.trans locked
  · exact .inr works

/-- The workers have left, and the goroutine that waited for them goes on. -/
theorem Tracks.join (tracks : Tracks s stage) {broken : Bool} {role : Role}
    (empty : s.workers = 0) (awaits : s.roles goroutine = .awaits broken)
    (leads : next.Leads (Function.update s.roles goroutine role) s.conn
      s.workers) (aside : role.Aside) : Goes ledger ledger s.workers stage next := by
  have place := tracks.stageOf.place goroutine
  rw [awaits] at place
  cases place with
  | aside aside => exact aside.elim
  | @awaits own broken none others =>
      have ran : EventRun.run Succession.step
          (ledger.succession s.workers (.draining own)) [.settle] =
            some (ledger.succession s.workers .vacant) := by
        simp [EventRun.run, Succession.step, Ledger.succession, empty]
      have nobody := tracks.crewed
      rw [empty] at nobody
      refine .of_leads leads [.settle] ran (.vacant none ?_)
        (tracks.crewed.update (by simp [awaits]) aside.not_works)
      rw [Function.forall_update_iff s.roles fun _ role => role.Aside]
      exact ⟨aside, fun other different =>
        (others other different).resolve_right (nobody.nobody other _)⟩

theorem Tracks.report (tracks : Tracks s stage) {reported : Nat}
    (reports : s.roles goroutine = .reports)
    (leads : next.Leads (Function.update s.roles goroutine .other) s.conn
      s.workers) : Goes ledger { ledger with reported } s.workers stage next :=
  .of_leads leads [] rfl
    (tracks.stageOf.update_aside (.inr (by rw [reports]; trivial)) trivial)
    (tracks.crewed.update (by simp [reports]) (by simp))

theorem Tracks.leave (tracks : Tracks s stage)
    (works : s.roles goroutine = .works conn)
    (leads : next.Leads (Function.update s.roles goroutine .other) s.conn
      (s.workers - 1)) : Goes ledger ledger s.workers stage next := by
  obtain ⟨someone, crewed⟩ := tracks.crewed.leave works
  have ran : EventRun.run Succession.step (ledger.succession s.workers stage)
      [.retire] = some (ledger.succession (s.workers - 1) stage) := by
    simp [EventRun.run, Succession.step, Ledger.succession, someone]
  exact .of_leads leads [.retire] ran
    (tracks.stageOf.update_aside (.inl ⟨_, works⟩) trivial) crewed

end Simulation

section Guarantees

open ClientSystem

variable {options : Options} {s : ClientSystem} {ledger : Ledger}
  {events : List ClientEvent}

/-- Three goroutines report the loss of the first connection.  The next attempt
fails with a connection; the one behind it succeeds, and the keepalive goroutine
of the second connection reports a loss before `connectionUp` has run. -/
def lostTwice : List ClientEvent :=
  [.connect 0, .attemptSucceeded 0 (some 7), .startWorkers 0 1, .connectionUp 0,
    .startComms 0 2 3, .reportLoss 2, .reportLoss 1, .reportLoss 3,
    .connectionLost 2, .connectionLost 1, .connectionLost 3, .stopCommsWorkers 2 4,
    .workerDone 1, .workerDone 2, .workerDone 3, .workersStopped 4, .disDone 4,
    .attemptFailed 4 true (some 9), .attemptSucceeded 4 (some 8),
    .startWorkers 4 5, .reportLoss 5, .connectionLost 5, .connectionUp 4,
    .startComms 4 6 7, .resume 5]

end Guarantees

section Losses

open ClientSystem

/-- The goroutine that will call `OnConnectionLost`. -/
def Role.Losing : Role → Prop
  | .awaits true | .reports => True
  | _ => False

/-- Every loss has been reported, but for one that a goroutine is about to
report. -/
structure LossesReported (s : ClientSystem) (ledger : Ledger) : Prop where
  coherent : Coherent False s
  lost : ledger.lost.Sublist ledger.closed
  reported : (∀ goroutine, ¬ (s.roles goroutine).Losing) ∧
      ledger.reported = ledger.lost.length ∨
    (∃ goroutine, (s.roles goroutine).Losing) ∧
      ledger.reported + 1 = ledger.lost.length

variable {options : Options} {s next : ClientSystem} {ledger : Ledger}
  {event : ClientEvent} {events : List ClientEvent} {goroutine : Nat}

theorem Role.Losing.holds {activity : Activity} (losing : activity.role.Losing) :
    activity.holds ≠ none := by
  apply Activity.holds_of_role
  cases role : activity.role with
  | awaits broken => exact .inr (.inl ⟨broken, rfl⟩)
  | reports => exact .inr (.inr rfl)
  | _ =>
      rw [role] at losing
      exact losing.elim

/-- Only one goroutine has a completion function, and so a loss, in hand. -/
theorem not_losing_of_holds (coherent : Coherent False s)
    (holds : (s.activity goroutine).holds ≠ none) {other : Nat}
    (different : other ≠ goroutine) : ¬ (s.roles other).Losing := by
  intro losing
  exact losing.holds (coherent.holds_eq_none_of_ne holds different)

/-- The same goroutines have a loss in hand. -/
def SameLosses (before after : Nat → Role) : Prop :=
  ∀ goroutine, (after goroutine).Losing ↔ (before goroutine).Losing

theorem SameLosses.refl (roles : Nat → Role) : SameLosses roles roles :=
  fun _ => Iff.rfl

theorem SameLosses.update {before after : Nat → Role} {role : Role}
    (same : SameLosses before after)
    (stays : role.Losing ↔ (before goroutine).Losing) :
    SameLosses before (Function.update after goroutine role) := by
  intro other
  by_cases isGoroutine : other = goroutine
  · subst isGoroutine
    rw [Function.update_self]
    exact stays
  · rw [Function.update_of_ne isGoroutine]
    exact same other

theorem LossesReported.carried (losses : LossesReported s ledger) {after : Ledger}
    (coherent : Coherent False next)
    (same : SameLosses s.roles next.roles)
    (closed : ledger.closed.Sublist after.closed) (lost : after.lost = ledger.lost)
    (reported : after.reported = ledger.reported) : LossesReported next after where
  coherent := coherent
  lost := by
    rw [lost]
    exact losses.lost.trans closed
  reported := by
    simp only [same _, lost, reported]
    exact losses.reported

/-- `internalConnLost` has closed a connection. -/
theorem LossesReported.stopLost (losses : LossesReported s ledger) {waiter conn : Nat}
    (coherent : Coherent False next) {own : Option Nat} {reconnectRequested : Bool}
    (stopping : s.activity goroutine = .lossStopping own reconnectRequested)
    (roles : next.roles = Function.update s.roles waiter (.awaits true)) :
    LossesReported next { ledger with
      closed := ledger.closed ++ [conn]
      lost := ledger.lost ++ [conn] } := by
  have holds : (s.activity goroutine).holds ≠ none := by
    rw [stopping]
    exact Option.some_ne_none _
  have nobody (other : Nat) : ¬ (s.roles other).Losing := by
    by_cases same : other = goroutine
    · subst same
      rw [roles_of_activity stopping]
      exact id
    · exact not_losing_of_holds losses.coherent holds same
  refine ⟨coherent, losses.lost.append (.refl _), .inr ⟨⟨waiter, ?_⟩, ?_⟩⟩
  · rw [roles, Function.update_self]
    trivial
  · rcases losses.reported with ⟨-, count⟩ | ⟨⟨other, losing⟩, -⟩
    · simp [count]
    · exact absurd losing (nobody other)

/-- `OnConnectionLost` is called. -/
theorem LossesReported.report (losses : LossesReported s ledger)
    (coherent : Coherent False next) {reconnectRequested : Bool}
    (finishing : s.activity goroutine = .lossFinishing reconnectRequested)
    (roles : next.roles = Function.update s.roles goroutine .other) :
    LossesReported next { ledger with reported := ledger.reported + 1 } := by
  have holds : (s.activity goroutine).holds ≠ none := by
    rw [finishing]
    exact Option.some_ne_none _
  refine ⟨coherent, losses.lost, .inl ⟨fun other => ?_, ?_⟩⟩
  · rw [roles]
    by_cases same : other = goroutine
    · subst same
      rw [Function.update_self]
      exact id
    · rw [Function.update_of_ne same]
      exact not_losing_of_holds losses.coherent holds same
  · rcases losses.reported with ⟨nobody, -⟩ | ⟨-, count⟩
    · refine absurd ?_ (nobody goroutine)
      rw [roles_of_activity finishing]
      trivial
    · exact count

theorem LossesReported.step (losses : LossesReported s ledger)
    (stepped : s.step options event = some next) :
    LossesReported next (Ledger.note s event next ledger) := by
  have coherent := losses.coherent.step False.elim stepped
  have same := SameLosses.refl s.roles
  cases roleStep_of_step losses.coherent stepped with
  | quiet notDialed notStopped notReported leads =>
      obtain ⟨dropped, noted⟩ := @note_of_quiet s next event ledger False
        losses.coherent notDialed notStopped notReported
      rw [noted]
      exact losses.carried coherent (leads.roles ▸ same) (.refl _) rfl rfl
  | dial attempting leads =>
      refine losses.carried coherent ?_ (.refl _) rfl rfl
      rw [leads.roles]
      exact same.update (by simp [roles_of_activity attempting, Activity.role, Role.Losing])
  | install dialed vacant leads =>
      rw [note_startWorkers vacant]
      refine losses.carried coherent ?_ (.refl _) rfl rfl
      rw [leads.roles]
      exact same.update (by simp [dialed, Role.Losing])
  | installAlive dialed vacant idle leads =>
      rw [note_startWorkers vacant]
      refine losses.carried coherent ?_ (.refl _) rfl rfl
      rw [leads.roles]
      exact (same.update (by simp [dialed, Role.Losing])).update
        (by simp [idle, Role.Losing])
  | start installing idle idleToo different leads =>
      refine losses.carried coherent ?_ (.refl _) rfl rfl
      rw [leads.roles]
      exact ((same.update (by simp [installing, Role.Losing])).update
        (by simp [idle, Role.Losing])).update (by simp [idleToo, Role.Losing])
  | stop unlocked stopping current leads =>
      simp only [Ledger.note, stopping, current]
      refine losses.carried coherent ?_ (List.sublist_append_left _ _) rfl rfl
      rw [leads.roles]
      exact same.update (by simp [roles_of_activity stopping, Activity.role, Role.Losing])
  | stopLost unlocked stopping current idle leads =>
      simp only [Ledger.note, stopping, current]
      exact losses.stopLost coherent stopping leads.roles
  | join empty awaits leads | joinLost empty awaits leads =>
      refine losses.carried coherent ?_ (.refl _) rfl rfl
      rw [leads.roles]
      exact same.update (by simp [awaits, Role.Losing])
  | report finishing leads =>
      simp only [Ledger.note, finishing]
      exact losses.report coherent finishing leads.roles
  | leave works leads =>
      refine losses.carried coherent ?_ (.refl _) rfl rfl
      rw [leads.roles]
      exact same.update (by simp [works, Role.Losing])

theorem lossesReported_of_run
    (executed : EventRun.run (EventRun.recorded (ClientSystem.step options)
      Ledger.note) (.initial, .empty) events = some (s, ledger)) :
    LossesReported s ledger := by
  have initially : LossesReported .initial .empty :=
    ⟨Coherent.initial, .slnil, .inl ⟨fun _ => id, rfl⟩⟩
  refine EventRun.invariant (fun state => LossesReported state.1 state.2) ?_
    initially executed
  intro state next event losses recordedStep
  obtain ⟨later, stepped, rfl⟩ := EventRun.recorded_eq_some.mp recordedStep
  exact losses.step stepped

theorem Activity.losing_of_role {activity : Activity}
    (losing : activity.role.Losing) :
    ∃ reconnectRequested, activity = .lossAwaiting reconnectRequested ∨
      activity = .lossFinishing reconnectRequested := by
  cases activity <;> simp [Activity.role, Role.Losing] at losing ⊢

/-- However many goroutines report the loss of a connection, it leads to one call
of `OnConnectionLost`; a connection that `Disconnect` closes leads to none. -/
theorem loss_reported_once
    (executed : EventRun.run (EventRun.recorded (ClientSystem.step options)
      Ledger.note) (.initial, .empty) events = some (s, ledger)) :
    ledger.lost.Sublist ledger.closed ∧
      (ledger.reported = ledger.lost.length ∨
        ledger.reported + 1 = ledger.lost.length ∧
          ∃ goroutine reconnectRequested,
            s.activity goroutine = .lossAwaiting reconnectRequested ∨
              s.activity goroutine = .lossFinishing reconnectRequested) := by
  have losses := lossesReported_of_run executed
  refine ⟨losses.lost, ?_⟩
  rcases losses.reported with ⟨-, all⟩ | ⟨⟨goroutine, losing⟩, allButOne⟩
  · exact .inl all
  · exact .inr ⟨allButOne, goroutine, Activity.losing_of_role losing⟩

theorem loss_reported_once_lost_twice :
    ∃ s ledger, EventRun.run (EventRun.recorded
        (ClientSystem.step ⟨true, true, true, true⟩) Ledger.note) (.initial, .empty)
          lostTwice = some (s, ledger) ∧
      ledger.reported = 1 ∧ ledger.lost = [7] ∧ ledger.lost.Sublist ledger.closed := by
  have outcome : (EventRun.run (EventRun.recorded
      (ClientSystem.step ⟨true, true, true, true⟩) Ledger.note) (.initial, .empty)
        lostTwice).map (fun state => (state.2.reported, state.2.lost)) =
      some (1, [7]) := by
    decide +kernel
  obtain ⟨⟨s, ledger⟩, executed, facts⟩ := Option.map_eq_some_iff.mp outcome
  obtain ⟨reported, lost⟩ := Prod.mk.inj facts
  exact ⟨s, ledger, executed, reported, lost, (loss_reported_once executed).1⟩

end Losses

end Client

end RmttGo
