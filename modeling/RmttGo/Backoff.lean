import RmttGo.AdaptiveKeepalive
import RmttGo.CappedDoubling

/-!
# The backoff controller

`backoffController` keeps, for every situation, the last sleep period it handed
out and the time of that call.  A call that comes soon after the one before
doubles the period; any other starts again.  Times and durations are in
nanoseconds, and durations are `int64`.
-/

namespace RmttGo

namespace Client

structure BackoffStatus where
  lastSleepPeriod : Int
  lastErrorTime : Int
  deriving DecidableEq, Repr

structure BackoffController where
  statusMap : List Char → Option BackoffStatus

def newBackoffController : BackoffController where
  statusMap := fun _ => none

/-- The arguments of `getBackoffSleepTime` behind the situation. -/
structure BackoffArguments where
  initSleepPeriod : Int
  maxSleepPeriod : Int
  processTime : Int
  skipFirst : Bool
  deriving DecidableEq, Repr

/-- `later.Sub(earlier)`, which saturates. -/
def timeSub (later earlier : Int) : Int :=
  max (-2 ^ 63) (min (later - earlier) (2 ^ 63 - 1))

namespace BackoffStatus

def firstProcess (status : BackoffStatus) (init : Int) (skip : Bool) :
    BackoffStatus × Int × Bool :=
  if skip then
    ({ status with lastSleepPeriod := 0 }, 0, false)
  else
    ({ status with lastSleepPeriod := init }, init, false)

/-- The part of `getBackoffSleepTime` for a situation that has a status. -/
def process (status : BackoffStatus) (arguments : BackoffArguments)
    (initSleepPeriod now : Int) : BackoffStatus × Int × Bool :=
  let oldTime := status.lastErrorTime
  let status := { status with lastErrorTime := now }
  if timeSub status.lastErrorTime oldTime >
      int64 (int64 (arguments.processTime * 2) + status.lastSleepPeriod) then
    status.firstProcess initSleepPeriod arguments.skipFirst
  else if status.lastSleepPeriod = 0 then
    ({ status with lastSleepPeriod := initSleepPeriod }, initSleepPeriod, true)
  else
    let nextSleepPeriod := int64 (status.lastSleepPeriod * 2)
    let sleepPeriod :=
      if nextSleepPeriod ≤ arguments.maxSleepPeriod then nextSleepPeriod
      else arguments.maxSleepPeriod
    ({ status with lastSleepPeriod := sleepPeriod }, sleepPeriod, true)

end BackoffStatus

namespace BackoffController

def store (b : BackoffController) (situation : List Char)
    (status : BackoffStatus) : BackoffController where
  statusMap := fun other =>
    if other = situation then some status else b.statusMap other

/-- `getBackoffSleepTime`, called at `now`. -/
def getBackoffSleepTime (b : BackoffController) (situation : List Char)
    (arguments : BackoffArguments) (now : Int) :
    BackoffController × Int × Bool :=
  let initSleepPeriod :=
    if arguments.initSleepPeriod > arguments.maxSleepPeriod then
      arguments.maxSleepPeriod
    else
      arguments.initSleepPeriod
  let (status, answer) :=
    match b.statusMap situation with
    | none => BackoffStatus.firstProcess ⟨initSleepPeriod, now⟩ initSleepPeriod
        arguments.skipFirst
    | some status => status.process arguments initSleepPeriod now
  (b.store situation status, answer)

@[simp]
theorem store_same (b : BackoffController) (situation : List Char)
    (status : BackoffStatus) :
    (b.store situation status).statusMap situation = some status :=
  if_pos rfl

theorem getBackoffSleepTime_other {situation other : List Char}
    (b : BackoffController) (arguments : BackoffArguments) (now : Int)
    (isOther : other ≠ situation) :
    (b.getBackoffSleepTime other arguments now).1.statusMap situation =
      b.statusMap situation :=
  if_neg isOther.symm

end BackoffController

section ClosedForm

/-- The range of arguments in which no sum or product of a call leaves `int64`,
and the sum is below where `Sub` saturates.  With `maxSleepPeriod < 2 ^ 62` a
`processTime` of up to `2 ^ 60` is well within it. -/
structure BackoffArguments.Tame (arguments : BackoffArguments) : Prop where
  init_pos : 0 < arguments.initSleepPeriod
  max_pos : 0 < arguments.maxSleepPeriod
  max_lt : arguments.maxSleepPeriod < 2 ^ 62
  process_nonneg : 0 ≤ arguments.processTime
  sum_lt : 2 * arguments.processTime + arguments.maxSleepPeriod < 2 ^ 63 - 1

/-- The period of the `n`-th call of a streak. -/
def BackoffArguments.streakPeriod (arguments : BackoffArguments) (n : Nat) :
    Int :=
  let first := min arguments.initSleepPeriod arguments.maxSleepPeriod
  match arguments.skipFirst, n with
  | true, 0 => 0
  | true, n + 1 => cappedDoubling first arguments.maxSleepPeriod n
  | false, n => cappedDoubling first arguments.maxSleepPeriod n

variable {arguments : BackoffArguments}

namespace BackoffArguments.Tame

theorem first_pos (tame : arguments.Tame) :
    0 < min arguments.initSleepPeriod arguments.maxSleepPeriod :=
  lt_min tame.init_pos tame.max_pos

theorem streakPeriod_nonneg (tame : arguments.Tame) (n : Nat) :
    0 ≤ arguments.streakPeriod n := by
  have positive := fun m =>
    @cappedDoubling_pos Int _ _ _ _ m _ tame.first_pos tame.max_pos
  unfold streakPeriod
  split
  · exact le_rfl
  · exact (positive _).le
  · exact (positive _).le

theorem streakPeriod_le (tame : arguments.Tame) (n : Nat) :
    arguments.streakPeriod n ≤ arguments.maxSleepPeriod := by
  unfold streakPeriod
  split
  · exact tame.max_pos.le
  · exact cappedDoubling_le
  · exact cappedDoubling_le

/-- In a streak a period of zero is followed by the initial one, and any other
is doubled up to the maximum. -/
theorem streakPeriod_succ (tame : arguments.Tame) (n : Nat) :
    arguments.streakPeriod (n + 1) =
      if arguments.streakPeriod n = 0 then
        min arguments.initSleepPeriod arguments.maxSleepPeriod
      else
        min (arguments.streakPeriod n * 2) arguments.maxSleepPeriod := by
  have positive := fun m =>
    @cappedDoubling_pos Int _ _ _ _ m _ tame.first_pos tame.max_pos
  have doubled := fun m => @cappedDoubling_succ Int _ _
    (min arguments.initSleepPeriod arguments.maxSleepPeriod)
    arguments.maxSleepPeriod m _ tame.max_pos.le
  unfold streakPeriod
  cases arguments.skipFirst with
  | false =>
      simp only
      rw [if_neg (positive n).ne', doubled]
  | true =>
      cases n with
      | zero => simp only [if_true, cappedDoubling_zero (min_le_right _ _)]
      | succ n =>
          simp only
          rw [if_neg (positive n).ne', doubled]

end BackoffArguments.Tame

/-- One answer for a situation, with the time of its call. -/
structure BackoffAnswer where
  time : Int
  period : Int
  isContinual : Bool
  deriving DecidableEq, Repr

/-- The place in its streak of a call at `now`: one further than the call before
if it comes at most twice the process time and the last period after it. -/
def streakPosition (processTime : Int) (previous : Option (BackoffAnswer × Nat))
    (now : Int) : Nat :=
  match previous with
  | none => 0
  | some (answer, n) =>
      if now - answer.time ≤ 2 * processTime + answer.period then n + 1 else 0

theorem streakPosition_of_le {processTime now : Int} {answer : BackoffAnswer}
    {n : Nat} (inTime : now - answer.time ≤ 2 * processTime + answer.period) :
    streakPosition processTime (some (answer, n)) now = n + 1 :=
  if_pos inTime

theorem streakPosition_of_gt {processTime now : Int} {answer : BackoffAnswer}
    {n : Nat} (isLate : 2 * processTime + answer.period < now - answer.time) :
    streakPosition processTime (some (answer, n)) now = 0 :=
  if_neg (not_le.mpr isLate)

def streakPositions (processTime : Int) :
    Option (BackoffAnswer × Nat) → List BackoffAnswer → List Nat
  | _, [] => []
  | previous, answer :: answers =>
      let n := streakPosition processTime previous answer.time
      n :: streakPositions processTime (some (answer, n)) answers

structure BackoffCall where
  situation : List Char
  arguments : BackoffArguments
  now : Int
  deriving DecidableEq, Repr

/-- What the calls for one situation get, among calls for any situations. -/
def BackoffController.answersFor (situation : List Char) :
    BackoffController → List BackoffCall → List BackoffAnswer
  | _, [] => []
  | b, call :: calls =>
      let (b, period, isContinual) :=
        b.getBackoffSleepTime call.situation call.arguments call.now
      if call.situation = situation then
        ⟨call.now, period, isContinual⟩ :: b.answersFor situation calls
      else
        b.answersFor situation calls

/-- The status of a situation holds its last answer, which is the one of its
place in the streak. -/
def BackoffArguments.Tracks (arguments : BackoffArguments) :
    Option (BackoffAnswer × Nat) → Option BackoffStatus → Prop
  | none, status => status = none
  | some (answer, n), status =>
      status = some ⟨answer.period, answer.time⟩ ∧
        answer.period = arguments.streakPeriod n

theorem timeSub_gt_iff {later earlier bound : Int} (nonneg : 0 ≤ bound)
    (small : bound < 2 ^ 63 - 1) :
    timeSub later earlier > bound ↔ bound < later - earlier := by
  unfold timeSub
  omega

theorem firstProcess_eq (arguments : BackoffArguments) (status : BackoffStatus) :
    status.firstProcess
        (min arguments.initSleepPeriod arguments.maxSleepPeriod)
        arguments.skipFirst =
      ({ status with lastSleepPeriod := arguments.streakPeriod 0 },
        arguments.streakPeriod 0, false) := by
  unfold BackoffStatus.firstProcess BackoffArguments.streakPeriod
  cases arguments.skipFirst with
  | true => rfl
  | false => simp [cappedDoubling_zero]

/-- A call for a situation whose last answer was the one of its place. -/
theorem process_eq (tame : arguments.Tame) {n : Nat} {status : BackoffStatus}
    (last : status.lastSleepPeriod = arguments.streakPeriod n) (now : Int) :
    status.process arguments
        (min arguments.initSleepPeriod arguments.maxSleepPeriod) now =
      if now - status.lastErrorTime ≤
          2 * arguments.processTime + status.lastSleepPeriod then
        (⟨arguments.streakPeriod (n + 1), now⟩, arguments.streakPeriod (n + 1),
          true)
      else
        (⟨arguments.streakPeriod 0, now⟩, arguments.streakPeriod 0, false) := by
  obtain ⟨-, -, maxSmall, processNonneg, sumSmall⟩ := id tame
  have nonneg := tame.streakPeriod_nonneg n
  have below := tame.streakPeriod_le n
  have sum : int64 (int64 (arguments.processTime * 2) +
      arguments.streakPeriod n) =
        2 * arguments.processTime + arguments.streakPeriod n := by
    rw [@int64_of_nonneg (arguments.processTime * 2) (by omega) (by omega),
      int64_of_nonneg (by omega) (by omega), mul_comm]
  have doubled : int64 (arguments.streakPeriod n * 2) =
      arguments.streakPeriod n * 2 :=
    int64_of_nonneg (by omega) (by omega)
  simp only [BackoffStatus.process, last, sum, doubled,
    timeSub_gt_iff (add_nonneg (by omega) nonneg)
      (show 2 * arguments.processTime + arguments.streakPeriod n < 2 ^ 63 - 1 by
        omega)]
  by_cases isLate : 2 * arguments.processTime + arguments.streakPeriod n <
      now - status.lastErrorTime
  · rw [if_pos isLate, if_neg (not_le.mpr isLate)]
    exact firstProcess_eq arguments _
  · rw [if_neg isLate, if_pos (not_lt.mp isLate), tame.streakPeriod_succ,
      min_def (arguments.streakPeriod n * 2)]
    split <;> rfl

theorem clipped_eq_min (arguments : BackoffArguments) :
    (if arguments.initSleepPeriod > arguments.maxSleepPeriod then
      arguments.maxSleepPeriod else arguments.initSleepPeriod) =
        min arguments.initSleepPeriod arguments.maxSleepPeriod := by
  omega

/-- One call: the answer is the one of its place in the streak, and the status
keeps it. -/
theorem getBackoffSleepTime_eq (tame : arguments.Tame) {b : BackoffController}
    {situation : List Char} {previous : Option (BackoffAnswer × Nat)}
    (tracks : arguments.Tracks previous (b.statusMap situation)) (now : Int) :
    b.getBackoffSleepTime situation arguments now =
      let n := streakPosition arguments.processTime previous now
      (b.store situation ⟨arguments.streakPeriod n, now⟩,
        arguments.streakPeriod n, decide (n ≠ 0)) := by
  simp only [BackoffController.getBackoffSleepTime, clipped_eq_min]
  match previous, tracks with
  | none, isNew =>
      rw [show b.statusMap situation = none from isNew]
      simp only [firstProcess_eq arguments, streakPosition]
      rfl
  | some (answer, n), ⟨known, last⟩ =>
      rw [known]
      have processed := @process_eq arguments tame n ⟨answer.period, answer.time⟩
        last now
      simp only [processed, streakPosition]
      split <;> rfl

theorem answersFor_eq (tame : arguments.Tame) {situation : List Char}
    {calls : List BackoffCall} {b : BackoffController}
    {previous : Option (BackoffAnswer × Nat)}
    (sameArguments : ∀ call ∈ calls,
      call.situation = situation → call.arguments = arguments)
    (tracks : arguments.Tracks previous (b.statusMap situation)) :
    (b.answersFor situation calls).map
        (fun answer => (answer.period, answer.isContinual)) =
      (streakPositions arguments.processTime previous
        (b.answersFor situation calls)).map
          (fun n => (arguments.streakPeriod n, decide (n ≠ 0))) := by
  induction calls generalizing b previous with
  | nil => rfl
  | cons call calls ih =>
      obtain ⟨sameNow, sameLater⟩ := List.forall_mem_cons.mp sameArguments
      simp only [BackoffController.answersFor]
      by_cases isKey : call.situation = situation
      · rw [if_pos isKey, isKey, sameNow isKey, getBackoffSleepTime_eq tame tracks]
        simp only [List.map_cons, streakPositions]
        congr 1
        apply ih sameLater
        exact ⟨BackoffController.store_same _ _ _, rfl⟩
      · rw [if_neg isKey]
        apply ih sameLater
        rwa [BackoffController.getBackoffSleepTime_other _ _ _ isKey]

/-- The answers for a situation whose arguments do not change: in every streak
the periods double from the first up to the maximum, only the first call of a
streak is reported as such, and no sum or product leaves `int64`.  Calls for
other situations do not matter. -/
theorem backoff_closed_form (tame : arguments.Tame) (situation : List Char)
    {calls : List BackoffCall}
    (sameArguments : ∀ call ∈ calls,
      call.situation = situation → call.arguments = arguments) :
    let answers := newBackoffController.answersFor situation calls
    answers.map (fun answer => (answer.period, answer.isContinual)) =
        (streakPositions arguments.processTime none answers).map
          (fun n => (arguments.streakPeriod n, decide (n ≠ 0))) ∧
      ∀ answer ∈ answers,
        0 ≤ answer.period ∧ answer.period ≤ arguments.maxSleepPeriod ∧
          answer.period * 2 < 2 ^ 63 ∧
          arguments.processTime * 2 + answer.period < 2 ^ 63 := by
  have closedForm := @answersFor_eq arguments tame situation calls
    newBackoffController none sameArguments rfl
  refine ⟨closedForm, ?_⟩
  intro answer isAnswer
  have isTerm := List.mem_map_of_mem
    (f := fun answer : BackoffAnswer => (answer.period, answer.isContinual))
    isAnswer
  rw [closedForm] at isTerm
  obtain ⟨n, -, isPeriod⟩ := List.mem_map.mp isTerm
  have period : arguments.streakPeriod n = answer.period :=
    congrArg Prod.fst isPeriod
  have nonneg := tame.streakPeriod_nonneg n
  have below := tame.streakPeriod_le n
  obtain ⟨-, -, maxSmall, -, sumSmall⟩ := id tame
  omega

/-- A skipped first call, two calls in time and one that comes too late, with
another situation in between. -/
theorem backoff_closed_form_streak :
    let arguments : BackoffArguments := ⟨5, 8, 2, true⟩
    let other : BackoffArguments := ⟨-3, 7, 0, false⟩
    let calls : List BackoffCall := [⟨['k'], arguments, 0⟩,
      ⟨['o'], other, 3⟩, ⟨['k'], arguments, 4⟩, ⟨['k'], arguments, 13⟩,
      ⟨['k'], arguments, 26⟩]
    (newBackoffController.answersFor ['k'] calls).map (·.period) =
        [0, 5, 8, 0] ∧
      ∀ answer ∈ newBackoffController.answersFor ['k'] calls,
        0 ≤ answer.period ∧ answer.period ≤ 8 := by
  refine ⟨by decide +kernel, ?_⟩
  intro answer isAnswer
  have tame : (⟨5, 8, 2, true⟩ : BackoffArguments).Tame :=
    ⟨by decide, by decide, by decide, by decide, by decide⟩
  have bounds := (backoff_closed_form tame ['k'] (by decide)).2 answer isAnswer
  exact ⟨bounds.1, bounds.2.1⟩

end ClosedForm

end Client

end RmttGo
