import RmttGo.Backoff

/-!
# The reconnect loop and its backoff

`reconnect` tries the server again and again, and after every failure sleeps for
the period the backoff controller returns, give or take a quarter.  The
controller judges by its own clock whether a failure follows the one before; the
time it allows for is the period without the jitter and twice the connect
timeout.
-/

namespace RmttGo

namespace Client

structure ReconnectOptions where
  reconnectBase : Int
  maxReconnectInterval : Int
  connectTimeout : Int
  deriving DecidableEq, Repr

def connectionLostSituation : List Char := "connectionLost".toList

def attemptSituation : List Char := "attemptReconnection".toList

def ReconnectOptions.lostArguments (options : ReconnectOptions) :
    BackoffArguments :=
  ⟨options.reconnectBase, options.maxReconnectInterval, 3000000000, true⟩

def ReconnectOptions.attemptArguments (options : ReconnectOptions) :
    BackoffArguments :=
  ⟨options.reconnectBase, options.maxReconnectInterval, options.connectTimeout,
    false⟩

/-- What `time.Sleep(jitterDuration(sleep, 0.25))` may sleep; `time.Sleep`
returns at once from a duration that is not positive. -/
def JitterAllows (sleep slept : Int) : Prop :=
  if sleep ≤ 0 then slept = 0 else 4 * |slept - sleep| ≤ sleep

instance (sleep slept : Int) : Decidable (JitterAllows sleep slept) :=
  inferInstanceAs (Decidable (if sleep ≤ 0 then _ else _))

/-- `sleepWithBackoff`, called at `now`, when the sleep takes `slept`. -/
def BackoffController.sleepWithBackoff (b : BackoffController)
    (situation : List Char) (arguments : BackoffArguments) (now slept : Int) :
    Option (BackoffController × Int × Bool) :=
  let (b, sleep, isFirst) := b.getBackoffSleepTime situation arguments now
  if JitterAllows sleep slept then some (b, sleep, isFirst) else none

/-- A client between and in its runs of `reconnect`.  `periods` are those
returned for the failed attempts of the latest run. -/
structure ReconnectSystem where
  backoff : BackoffController
  now : Int
  attempting : Bool
  periods : List Int

/-- `stays` says whether the status is still reconnecting after the sleep. -/
inductive ReconnectEvent
  | connectionLost (waited slept : Int)
  | attemptFails (elapsed slept : Int) (stays : Bool)
  | attemptSucceeds (elapsed : Int)
  deriving DecidableEq, Repr

namespace ReconnectSystem

def initial : ReconnectSystem where
  backoff := newBackoffController
  now := 0
  attempting := false
  periods := []

/-- A failed attempt takes no longer than the connect timeout. -/
def step (options : ReconnectOptions) (s : ReconnectSystem) :
    ReconnectEvent → Option ReconnectSystem
  | .connectionLost waited slept =>
      if s.attempting = false ∧ 0 ≤ waited then
        (s.backoff.sleepWithBackoff connectionLostSituation
          options.lostArguments (s.now + waited) slept).map fun outcome =>
            { backoff := outcome.1
              now := s.now + waited + slept
              attempting := true
              periods := [] }
      else
        none
  | .attemptFails elapsed slept stays =>
      if s.attempting = true ∧ 0 ≤ elapsed ∧ elapsed ≤ options.connectTimeout then
        (s.backoff.sleepWithBackoff attemptSituation options.attemptArguments
          (s.now + elapsed) slept).map fun outcome =>
            { backoff := outcome.1
              now := s.now + elapsed + slept
              attempting := stays
              periods := s.periods ++ [outcome.2.1] }
      else
        none
  | .attemptSucceeds elapsed =>
      if s.attempting = true ∧ 0 ≤ elapsed then
        some { s with now := s.now + elapsed, attempting := false }
      else
        none

end ReconnectSystem

section Collapse

variable {options : ReconnectOptions} {s next : ReconnectSystem}

theorem sleepWithBackoff_eq_some {b : BackoffController}
    {situation : List Char} {arguments : BackoffArguments} {now slept : Int}
    {outcome : BackoffController × Int × Bool} :
    b.sleepWithBackoff situation arguments now slept = some outcome ↔
      outcome = b.getBackoffSleepTime situation arguments now ∧
        JitterAllows outcome.2.1 slept := by
  unfold BackoffController.sleepWithBackoff
  simp only [Option.ite_none_right_eq_some, Option.some.injEq]
  constructor
  · rintro ⟨allowed, rfl⟩
    exact ⟨rfl, allowed⟩
  · rintro ⟨rfl, allowed⟩
    exact ⟨allowed, rfl⟩

theorem JitterAllows.le {sleep slept : Int} (allowed : JitterAllows sleep slept)
    (nonneg : 0 ≤ sleep) : 4 * (slept - sleep) ≤ sleep := by
  unfold JitterAllows at allowed
  split at allowed
  · omega
  · have := le_abs_self (slept - sleep)
    omega

theorem jitterAllows_of_le {sleep extra : Int} (nonneg : 0 ≤ extra)
    (quarter : 4 * extra ≤ sleep) : JitterAllows sleep (sleep + extra) := by
  unfold JitterAllows
  split
  · omega
  · rw [add_sub_cancel_left, abs_of_nonneg nonneg]
    exact quarter

/-- The state behind a failure that is the `n`-th of its streak. -/
def afterFailure (options : ReconnectOptions) (s : ReconnectSystem) (n : Nat)
    (elapsed slept : Int) (stays : Bool) : ReconnectSystem where
  backoff := s.backoff.store attemptSituation
    ⟨options.attemptArguments.streakPeriod n, s.now + elapsed⟩
  now := s.now + elapsed + slept
  attempting := stays
  periods := s.periods ++ [options.attemptArguments.streakPeriod n]

theorem tracks_afterFailure (s : ReconnectSystem) (n : Nat)
    (elapsed slept : Int) (stays : Bool) :
    options.attemptArguments.Tracks
      (some (⟨s.now + elapsed, options.attemptArguments.streakPeriod n, true⟩, n))
      ((afterFailure options s n elapsed slept stays).backoff.statusMap
        attemptSituation) :=
  ⟨BackoffController.store_same _ _ _, rfl⟩

theorem step_attemptFails (tame : options.attemptArguments.Tame)
    {previous : Option (BackoffAnswer × Nat)}
    (tracks : options.attemptArguments.Tracks previous
      (s.backoff.statusMap attemptSituation))
    {elapsed slept : Int} {stays : Bool} {n : Nat}
    (place : streakPosition options.connectTimeout previous (s.now + elapsed) =
      n) :
    s.step options (.attemptFails elapsed slept stays) = some next ↔
      (s.attempting = true ∧ 0 ≤ elapsed ∧ elapsed ≤ options.connectTimeout) ∧
        JitterAllows (options.attemptArguments.streakPeriod n) slept ∧
        next = afterFailure options s n elapsed slept stays := by
  subst place
  have answered := getBackoffSleepTime_eq tame tracks (s.now + elapsed)
  simp only [ReconnectSystem.step, Option.ite_none_right_eq_some,
    Option.map_eq_some_iff, sleepWithBackoff_eq_some, answered]
  constructor
  · rintro ⟨guard, outcome, ⟨rfl, allowed⟩, rfl⟩
    exact ⟨guard, allowed, rfl⟩
  · rintro ⟨guard, allowed, rfl⟩
    exact ⟨guard, _, ⟨rfl, allowed⟩, rfl⟩

/-- The periods of the latest run do not decrease and end with the answer the
controller holds; while the loop runs, at most that period and the jitter have
passed since. -/
structure Steady (options : ReconnectOptions) (s : ReconnectSystem)
    (previous : Option (BackoffAnswer × Nat)) : Prop where
  tracks : options.attemptArguments.Tracks previous
    (s.backoff.statusMap attemptSituation)
  nonDecreasing : s.periods.Pairwise (· ≤ ·)
  last : ∀ period ∈ s.periods,
    ∃ answer n, previous = some (answer, n) ∧ period ≤ answer.period
  recent : s.attempting = true → s.periods ≠ [] → ∀ answer n,
    previous = some (answer, n) →
      4 * (s.now - answer.time - answer.period) ≤ answer.period

theorem steady_initial : Steady options .initial none where
  tracks := rfl
  nonDecreasing := .nil
  last := nofun
  recent := nofun

/-- The periods of the loop, which skips none. -/
theorem streakPeriod_attempt (options : ReconnectOptions) (n : Nat) :
    options.attemptArguments.streakPeriod n =
      cappedDoubling (min options.reconnectBase options.maxReconnectInterval)
        options.maxReconnectInterval n :=
  rfl

theorem streakPeriod_attempt_zero (options : ReconnectOptions) :
    options.attemptArguments.streakPeriod 0 =
      min options.reconnectBase options.maxReconnectInterval := by
  rw [streakPeriod_attempt, cappedDoubling_zero (min_le_right _ _)]

/-- The connect timeout covers a quarter of the largest period, or there is only
one period. -/
def ReconnectOptions.CoversJitter (options : ReconnectOptions) : Prop :=
  options.maxReconnectInterval / 4 ≤ options.connectTimeout ∨
    options.maxReconnectInterval ≤ options.reconnectBase

/-- A further failure of a run gets no shorter period than the one before. -/
theorem Steady.period_le (tame : options.attemptArguments.Tame)
    (covers : options.CoversJitter)
    {previous : Option (BackoffAnswer × Nat)}
    (steady : Steady options s previous) (attempting : s.attempting = true)
    {elapsed : Int} (inTime : elapsed ≤ options.connectTimeout)
    {period : Int} (isPeriod : period ∈ s.periods) :
    period ≤ options.attemptArguments.streakPeriod
      (streakPosition options.connectTimeout previous (s.now + elapsed)) := by
  obtain ⟨answer, n, rfl, below⟩ := steady.last period isPeriod
  have recent := steady.recent attempting (List.ne_nil_of_mem isPeriod) answer n rfl
  obtain ⟨-, isAnswer⟩ := steady.tracks
  have atMost : answer.period ≤ options.maxReconnectInterval := by
    rw [isAnswer]
    exact tame.streakPeriod_le n
  apply below.trans
  simp only [streakPosition]
  split
  · rw [isAnswer, streakPeriod_attempt, streakPeriod_attempt]
    exact cappedDoubling_le_succ tame.first_pos
  · -- the call comes too late, which the timeout rules out unless all periods agree
    rename_i isLate
    rcases covers with quarter | single
    · omega
    · rw [streakPeriod_attempt_zero, min_eq_right single]
      exact atMost

theorem Steady.step (tame : options.attemptArguments.Tame)
    (covers : options.CoversJitter)
    {previous : Option (BackoffAnswer × Nat)}
    (steady : Steady options s previous) {event : ReconnectEvent}
    (stepped : s.step options event = some next) :
    ∃ previous, Steady options next previous := by
  cases event with
  | connectionLost waited slept =>
      obtain ⟨-, mapped⟩ := Option.ite_none_right_eq_some.mp stepped
      obtain ⟨outcome, slept, rfl⟩ := Option.map_eq_some_iff.mp mapped
      obtain ⟨rfl, -⟩ := sleepWithBackoff_eq_some.mp slept
      refine ⟨previous, ?_, .nil, nofun, nofun⟩
      rw [BackoffController.getBackoffSleepTime_other _ _ _ (by decide)]
      exact steady.tracks
  | attemptFails elapsed slept stays =>
      obtain ⟨⟨attempting, -, inTime⟩, allowed, rfl⟩ :=
        (step_attemptFails tame steady.tracks rfl).mp stepped
      have grows := fun period => @Steady.period_le options s tame covers
        previous steady attempting elapsed inTime period
      generalize streakPosition options.connectTimeout previous
        (s.now + elapsed) = n at *
      refine ⟨_, tracks_afterFailure s n elapsed slept stays, ?_, ?_, ?_⟩
      · exact List.pairwise_append.mpr ⟨steady.nonDecreasing,
          List.pairwise_singleton _ _, by simpa using grows⟩
      · intro period isPeriod
        refine ⟨_, _, rfl, ?_⟩
        rcases List.mem_append.mp isPeriod with earlier | isNew
        · exact grows period earlier
        · exact (List.mem_singleton.mp isNew).le
      · rintro - - answer m ⟨⟩
        have jitter := allowed.le (tame.streakPeriod_nonneg n)
        simp only [afterFailure]
        omega
  | attemptSucceeds elapsed =>
      obtain ⟨-, ⟨⟩⟩ := Option.ite_none_right_eq_some.mp stepped
      exact ⟨previous, steady.tracks, steady.nonDecreasing, steady.last, nofun⟩

/-- The next failure of the loop is the `n`-th of its streak. -/
structure Climbs (options : ReconnectOptions) (s : ReconnectSystem) (n : Nat) :
    Prop where
  attempting : s.attempting = true
  tracks : ∃ previous, options.attemptArguments.Tracks previous
      (s.backoff.statusMap attemptSituation) ∧
    streakPosition options.connectTimeout previous s.now = n

theorem Climbs.step (tame : options.attemptArguments.Tame) {n : Nat}
    (climbs : Climbs options s n) {slept : Int}
    (allowed : JitterAllows (options.attemptArguments.streakPeriod n) slept) :
    s.step options (.attemptFails 0 slept true) =
      some (afterFailure options s n 0 slept true) := by
  obtain ⟨attempting, previous, tracks, place⟩ := climbs
  rw [← add_zero s.now] at place
  apply (step_attemptFails tame tracks place).mpr
  exact ⟨⟨attempting, le_rfl, tame.process_nonneg⟩, allowed, rfl⟩

/-- With attempts that fail at once and sleeps without jitter every place of a
streak is reached. -/
theorem exists_climbs (tame : options.attemptArguments.Tame) (n : Nat) :
    ∃ events s, EventRun.run (ReconnectSystem.step options) .initial events =
      some s ∧ Climbs options s n := by
  induction n with
  | zero =>
      have stepped : ReconnectSystem.initial.step options (.connectionLost 0 0) =
          some ⟨(newBackoffController.getBackoffSleepTime connectionLostSituation
            options.lostArguments 0).1, 0, true, []⟩ := by
        rfl
      refine ⟨[.connectionLost 0 0], _, EventRun.run_cons_eq_some.mpr
        ⟨_, stepped, rfl⟩, rfl, none, ?_, rfl⟩
      rw [BackoffController.getBackoffSleepTime_other _ _ _ (by decide)]
      rfl
  | succ n ih =>
      obtain ⟨events, s, executed, climbs⟩ := ih
      have nonneg := tame.streakPeriod_nonneg n
      have stepped := climbs.step tame (jitterAllows_of_le le_rfl nonneg)
      have climbsOn : Climbs options (afterFailure options s n 0
          (options.attemptArguments.streakPeriod n + 0) true) (n + 1) := by
        refine ⟨rfl, _, tracks_afterFailure s n 0 _ true, ?_⟩
        apply streakPosition_of_le
        have processNonneg : 0 ≤ options.connectTimeout := tame.process_nonneg
        simp only [afterFailure]
        omega
      exact ⟨_, _, EventRun.run_concat executed stepped, climbsOn⟩

/-- At the largest period a sleep that is a quarter too long and an attempt that
uses up its timeout make the next failure look like a new one. -/
theorem exists_collapse (tame : options.attemptArguments.Tame)
    (uncovered : ¬ options.CoversJitter) :
    ∃ events finish, EventRun.run (ReconnectSystem.step options) .initial events =
      some finish ∧ ¬ finish.periods.Pairwise (· ≤ ·) := by
  have maxPositive : 0 < options.maxReconnectInterval := tame.max_pos
  have processNonneg : 0 ≤ options.connectTimeout := tame.process_nonneg
  unfold ReconnectOptions.CoversJitter at uncovered
  have room : options.reconnectBase < options.maxReconnectInterval := by omega
  obtain ⟨n, atMax⟩ : ∃ n, options.attemptArguments.streakPeriod n =
      options.maxReconnectInterval :=
    exists_cappedDoubling_eq tame.first_pos (min_le_right _ _)
  obtain ⟨events, s, executed, climbs⟩ := exists_climbs tame n
  have stepped := climbs.step tame (jitterAllows_of_le
    (Int.ediv_nonneg maxPositive.le (by decide : (0 : Int) ≤ 4))
    (by rw [atMax]; omega))
  have place : streakPosition options.connectTimeout
      (some (⟨s.now + 0, options.attemptArguments.streakPeriod n, true⟩, n))
      ((afterFailure options s n 0 (options.attemptArguments.streakPeriod n +
        options.maxReconnectInterval / 4) true).now + options.connectTimeout) =
        0 := by
    apply streakPosition_of_gt
    simp only [afterFailure, atMax]
    omega
  have collapsed := (@step_attemptFails options _ _ tame _
    (tracks_afterFailure s n 0 _ true) _ _ true _ place).mpr
    ⟨⟨rfl, processNonneg, le_rfl⟩,
      jitterAllows_of_le le_rfl (tame.streakPeriod_nonneg 0), rfl⟩
  refine ⟨_, _, EventRun.run_concat (EventRun.run_concat executed stepped)
    collapsed, ?_⟩
  intro nonDecreasing
  have later := (List.pairwise_append.mp nonDecreasing).2.2
  have decreasing := later options.maxReconnectInterval
    (by simp [afterFailure, atMax]) _ (List.mem_singleton_self _)
  rw [streakPeriod_attempt_zero] at decreasing
  omega

/-- While the server stays down and no run takes the arithmetic out of `int64`,
the periods of a run of `reconnect` never decrease exactly if the connect timeout
covers the jitter of the largest period. -/
theorem periods_nonDecreasing_iff (basePositive : 0 < options.reconnectBase)
    (maxPositive : 0 < options.maxReconnectInterval)
    (timeoutPositive : 0 < options.connectTimeout)
    (maxSmall : options.maxReconnectInterval < 2 ^ 62)
    (sumSmall : 2 * options.connectTimeout + options.maxReconnectInterval <
      2 ^ 63 - 1) :
    (∀ events finish,
        EventRun.run (ReconnectSystem.step options) .initial events = some finish →
          finish.periods.Pairwise (· ≤ ·)) ↔
      options.CoversJitter := by
  have tame : options.attemptArguments.Tame :=
    ⟨basePositive, maxPositive, maxSmall, timeoutPositive.le, sumSmall⟩
  constructor
  · intro nonDecreasing
    by_contra uncovered
    obtain ⟨events, finish, executed, decreasing⟩ :=
      exists_collapse tame uncovered
    exact decreasing (nonDecreasing events finish executed)
  · intro covers events finish executed
    have steady := EventRun.invariant
      (fun s => ∃ previous, Steady options s previous)
      (fun ⟨_, steady⟩ stepped => steady.step tame covers stepped)
      ⟨none, steady_initial⟩ executed
    obtain ⟨previous, steady⟩ := steady
    exact steady.nonDecreasing

/-- The default base and timeout with a largest interval of two minutes. -/
theorem periods_nonDecreasing_iff_two_minutes :
    let options : ReconnectOptions := ⟨1000000000, 120000000000, 30000000000⟩
    options.CoversJitter ∧ ∀ events finish,
      EventRun.run (ReconnectSystem.step options) .initial events = some finish →
        finish.periods.Pairwise (· ≤ ·) := by
  have covers : ReconnectOptions.CoversJitter
      ⟨1000000000, 120000000000, 30000000000⟩ := .inl (by decide)
  exact ⟨covers, (periods_nonDecreasing_iff (by decide) (by decide) (by decide)
    (by decide) (by decide)).mpr covers⟩

def seconds (number : Int) : Int := number * 1000000000

/-- With the default options, which allow ten minutes, a sleep of 160 seconds
for a period of 128 and an attempt of 30 take the loop back to one second. -/
theorem default_backoff_collapses :
    (EventRun.run
        (ReconnectSystem.step ⟨seconds 1, seconds 600, seconds 30⟩) .initial
        ([.connectionLost 0 0] ++
          [1, 2, 4, 8, 16, 32, 64, 160].map
            (fun slept => .attemptFails 0 (seconds slept) true) ++
          [.attemptFails (seconds 30) (seconds 1) true])).map (·.periods) =
      some ([1, 2, 4, 8, 16, 32, 64, 128, 1].map seconds) := by
  decide +kernel

end Collapse

end Client

end RmttGo
