import RmttGo.AdaptiveRange
import RmttGo.AdaptiveRounds

/-!
# Where the adaptive search ends

A network sustains intervals up to some maximum.  The loop doubles the interval
until a probe fails and settles at the last one that was answered; the phase
that would search on in small steps from there is never entered.  So the result
is the largest doubled interval the network sustains, which is within a step of
the maximum for some maxima only.
-/

namespace RmttGo

namespace Client

open EventRun AdaptiveSystem

variable {settings : ProbeSettings} {maximum : Int} {s later : AdaptiveSystem}
  {event : AdaptiveEvent} {probes : List (AdaptivePhase × Int)}

namespace AdaptiveSystem

/-- Nothing but the probes and at most one answer to each.  A probe is answered
within the response window if its interval is at most the maximum, and not
within the window otherwise. -/
def ThresholdNetwork (settings : ProbeSettings) (maximum : Int)
    (s : AdaptiveSystem) : AdaptiveEvent → Prop
  | .push _ => False
  | .receive now => s.loop.phase ≠ .stable → s.loop.awaiting = true ∧
      ∃ sentAt ∈ s.loop.sentAt, s.lastReceived < sentAt ∧ sentAt ≤ now ∧
        (s.loop.intervalMillis ≤ maximum ∨
          settings.responseWindow ≤ now - sentAt)
  | .tick now => s.loop.phase ≠ .stable → s.loop.awaiting = true →
      s.loop.intervalMillis ≤ maximum → ∀ sentAt ∈ s.loop.sentAt,
        settings.responseWindow ≤ now - sentAt → sentAt ≤ s.lastReceived
  | _ => True

end AdaptiveSystem

theorem Looked.next (looked : Looked settings maximum s)
    (network : ThresholdNetwork settings maximum s event)
    (stepTo : StepTo settings s event later) : Looked settings maximum later := by
  intro now sentAt probing rechecking isSentAt within windowOver
  cases looks_of_stepTo stepTo rechecking with
  | first _ awaiting notAfter =>
      exact Int.le_antisymm
        (network probing awaiting within sentAt isSentAt windowOver)
        (notAfter sentAt isSentAt)
  | pushed before => exact network.elim
  | received before =>
      obtain ⟨-, stamp, isStamp, unanswered, -⟩ := network probing
      cases isSentAt.symm.trans isStamp
      have same := looked now sentAt probing before isSentAt within windowOver
      omega

/-- The search on a network with a maximum. -/
structure Searching (settings : ProbeSettings) (maximum : Int)
    (s : AdaptiveSystem) (probes : List (AdaptivePhase × Int)) : Prop where
  search : Search settings maximum settings.ceilingMillis s probes
  inRange : s.loop.InRange settings
  looked : Looked settings maximum s

theorem Searching.next (least : settings.shortMillis ≤ maximum)
    (searching : Searching settings maximum s probes)
    (network : ThresholdNetwork settings maximum s event)
    (stepped : step settings s event = some later) :
    Searching settings maximum later (noteSearch s event later probes) := by
  have stepTo := stepTo_of_step stepped
  refine ⟨searching.search.next least ?_ stepTo,
    searching.inRange.step (loopStep_of_step stepped),
    searching.looked.next network stepTo⟩
  intro probing
  exact searching.looked.judges (fun _ _ _ _ _ => searching.inRange.interval.2)
    probing (searching.search.poised_of_probing probing) event

theorem searching_of_run {lastSent lastReceived : Int}
    {events : List AdaptiveEvent} (least : settings.shortMillis ≤ maximum)
    (network : Meets (step settings) (ThresholdNetwork settings maximum)
      (start settings lastSent lastReceived) events)
    (executed : run (step settings) (start settings lastSent lastReceived) events =
      some s) :
    ∃ probes, Searching settings maximum s probes := by
  refine invariant_of_meets
    (fun s => ∃ probes, Searching settings maximum s probes) ?_ ?_ network executed
  · rintro state next event ⟨probes, searching⟩ networkNow stepped
    exact ⟨_, searching.next least networkNow stepped⟩
  · refine ⟨[], Search.restart, AdaptiveLoop.start_inRange, ?_⟩
    rintro _ _ _ ⟨⟩

section Canonical

/-- What a step does to a probe in flight. -/
theorem loop_tick (now : Int) :
    (s.tick settings now).loop = s.loop ∨
      (s.tick settings now).loop.awaiting = false := by
  unfold AdaptiveSystem.tick
  split
  · split
    · exact .inr rfl
    · exact .inl (loop_probeAfter ..)
  · rename_i probing
    split
    · split
      · exact .inr (AdaptiveLoop.awaiting_answered probing)
      · exact .inl rfl
    · exact .inl (loop_probeAfter ..)

theorem loop_recheck (now : Int) :
    (s.recheck settings now).loop = s.loop ∨
      (s.recheck settings now).loop.awaiting = false := by
  by_cases stable : s.loop.phase = .stable
  · exact .inl (loop_recheck_of_stable stable)
  · unfold AdaptiveSystem.recheck
    split
    · exact .inr (AdaptiveLoop.awaiting_answered stable)
    · split
      · cases failed : s.loop.unanswered settings with
        | some loop => exact .inr (AdaptiveLoop.awaiting_unanswered stable failed)
        | none => exact .inl rfl
      · exact .inl rfl

theorem lastReceived_tick (now : Int) :
    (s.tick settings now).lastReceived = s.lastReceived := by
  unfold AdaptiveSystem.tick probeAfter
  repeat' split
  all_goals rfl

theorem lastReceived_recheck (now : Int) :
    (s.recheck settings now).lastReceived = s.lastReceived := by
  unfold AdaptiveSystem.recheck
  repeat' split
  all_goals rfl

/-- Without other traffic only the probes up to the maximum are heard of. -/
theorem Heard.next (heard : Heard maximum s) (quiet : Quiet maximum s event)
    (stepTo : StepTo settings s event later) : Heard maximum later := by
  have unchanged : ∀ later : AdaptiveSystem, later.lastReceived = s.lastReceived →
      later.loop = s.loop ∨ later.loop.awaiting = false → Heard maximum later := by
    intro later sameReceived change sentAt probing awaiting isSentAt past
    rcases change with sameLoop | rest
    · rw [sameLoop] at probing awaiting isSentAt ⊢
      exact heard sentAt probing awaiting isSentAt (sameReceived ▸ past)
    · cases rest.symm.trans awaiting
  cases stepTo with
  | tick waiting => exact unchanged _ (lastReceived_tick _) (loop_tick _)
  | recheck rechecking =>
      exact unchanged _ (lastReceived_recheck _) (loop_recheck _)
  | write writing => exact unchanged _ rfl (.inl rfl)
  | storeLastSent storing => exact unchanged _ rfl (.inl rfl)
  | @stamp now stamping =>
      intro sentAt _ _ isSentAt (past : sentAt ≤ s.lastReceived)
      cases isSentAt
      have fresh : s.lastReceived < now := quiet
      omega
  | receive =>
      intro _ _ _ _ _
      exact quiet.2.2.1
  | push => exact quiet.elim
  | stop waiting => exact quiet.elim

theorem network_of_quiet (quiet : Quiet maximum s event) :
    ThresholdNetwork settings maximum s event := by
  cases event with
  | tick now =>
      intro _ awaiting within sentAt isSentAt _
      exact quiet sentAt awaiting isSentAt within
  | receive now =>
      obtain ⟨-, awaiting, within, sentAt, isSentAt, unanswered, past⟩ := quiet
      exact fun _ => ⟨awaiting, sentAt, isSentAt, unanswered, past, .inl within⟩
  | push now => exact quiet.elim
  | _ => trivial

/-- A search that nothing but probes and their answers disturbs. -/
structure Undisturbed (settings : ProbeSettings) (maximum : Int)
    (s : AdaptiveSystem) (probes : List (AdaptivePhase × Int)) : Prop where
  search : Search settings maximum maximum s probes
  looked : Looked settings maximum s
  heard : Heard maximum s

theorem Undisturbed.next (least : settings.shortMillis ≤ maximum)
    (undisturbed : Undisturbed settings maximum s probes)
    (quiet : Quiet maximum s event) (stepTo : StepTo settings s event later) :
    Undisturbed settings maximum later (noteSearch s event later probes) := by
  refine ⟨undisturbed.search.next least ?_ stepTo,
    undisturbed.looked.next (network_of_quiet quiet) stepTo,
    undisturbed.heard.next quiet stepTo⟩
  intro probing
  exact undisturbed.looked.judges undisturbed.heard probing
    (undisturbed.search.poised_of_probing probing) event

theorem undisturbed_of_run {lastSent lastReceived : Int}
    {events : List AdaptiveEvent} (least : settings.shortMillis ≤ maximum)
    (quiet : Meets (step settings) (Quiet maximum)
      (start settings lastSent lastReceived) events)
    (executed : run (step settings) (start settings lastSent lastReceived) events =
      some s) :
    ∃ probes, Undisturbed settings maximum s probes := by
  refine invariant_of_meets
    (fun s => ∃ probes, Undisturbed settings maximum s probes) ?_ ?_ quiet executed
  · rintro state next event ⟨probes, undisturbed⟩ quietNow stepped
    exact ⟨_, undisturbed.next least quietNow (stepTo_of_step stepped)⟩
  · refine ⟨[], Search.restart, ?_, ?_⟩
    · rintro _ _ _ ⟨⟩
    · rintro _ _ ⟨⟩

theorem meets_network_of_quiet {events : List AdaptiveEvent}
    (quiet : Meets (step settings) (Quiet maximum) s events) :
    Meets (step settings) (ThresholdNetwork settings maximum) s events :=
  quiet.mono (fun _ => True) (fun _ _ => trivial) (fun _ => network_of_quiet) trivial

end Canonical

section Outcome

variable {certain possible : Int}

/-- Where a search that settles has got to. -/
theorem Search.lastSuccess (search : Search settings certain possible s probes)
    (stable : s.loop.phase = .stable) (least : settings.shortMillis ≤ certain) :
    settings.ceilingMillis ≤ possible ∧
        s.loop.lastSuccessMillis = settings.ceilingMillis ∨
      certain < settings.ceilingMillis ∧
        ∃ index, s.loop.lastSuccessMillis = settings.shortMillis * 2 ^ index ∧
          settings.shortMillis * 2 ^ index ≤ possible ∧
          certain < settings.shortMillis * 2 ^ (index + 1) := by
  cases search with
  | short phase => cases phase.symm.trans stable
  | doubling phase => cases phase.symm.trans stable
  | @settled last phase passed outcome heart sent =>
      rcases outcome with ⟨_, within, success⟩ | ⟨beyond, success⟩
      · exact .inl ⟨within, success⟩
      · cases last with
        | zero =>
            rw [ProbeSettings.doubling_zero] at beyond
            omega
        | succ index =>
            obtain ⟨below, within⟩ := passed index (Nat.lt_succ_self index)
            have power : settings.doubling index = settings.shortMillis * 2 ^ index :=
              cappedDoubling_eq_of_lt below
            refine .inr ⟨beyond.trans_le ProbeSettings.doubling_le_ceiling, index,
              success.trans power, power ▸ within, ?_⟩
            exact beyond.trans_le (min_le_left _ _)

end Outcome

namespace AdaptiveSystem

/-- The search on a network with that maximum can always be brought to its end,
and ends less than a fine step below the maximum. -/
def FindsMaximum (settings : ProbeSettings) (maximum : Int) : Prop :=
  ∀ lastSent lastReceived events s,
    Meets (step settings) (ThresholdNetwork settings maximum)
      (start settings lastSent lastReceived) events →
    run (step settings) (start settings lastSent lastReceived) events = some s →
      (s.position ≠ .stopped →
        CanReach (step settings) (ThresholdNetwork settings maximum)
          (fun s => s.loop.phase = .stable) s) ∧
      (s.loop.phase = .stable →
        maximum - settings.fineStepMillis < s.loop.lastSuccessMillis)

theorem canReach_of_settles (settles : Settles settings maximum s) :
    CanReach (step settings) (ThresholdNetwork settings maximum)
      (fun s => s.loop.phase = .stable) s := by
  obtain ⟨events, finish, quiet, executed, stable⟩ := settles
  exact ⟨events, finish, meets_network_of_quiet quiet, executed, stable⟩

/-- The maximum is found to within a fine step exactly if it is the ceiling or
lies less than a fine step above the largest doubled interval. -/
theorem finds_maximum_iff (least : settings.shortMillis ≤ maximum)
    (most : maximum ≤ settings.ceilingMillis) :
    FindsMaximum settings maximum ↔
      maximum = settings.ceilingMillis ∨
        maximum - largestDoubling settings.shortMillis maximum <
          settings.fineStepMillis := by
  have positive := settings.short_pos
  constructor
  · intro finds
    have fresh : OnSchedule settings (AdaptiveLoop.start settings) :=
      .short rfl rfl settings.probeCount_pos
    obtain ⟨events, finish, quiet, executed, stable⟩ :
        Settles settings maximum (start settings 0 0) :=
      settles_of_rest least fresh rfl rfl
    obtain ⟨probes, undisturbed⟩ := undisturbed_of_run least quiet executed
    have network := meets_network_of_quiet quiet
    have found := (finds 0 0 events finish network executed).2 stable
    rcases undisturbed.search.lastSuccess stable least with
      ⟨within, -⟩ | ⟨-, index, success, within, beyond⟩
    · exact .inl (Int.le_antisymm most within)
    · rw [largestDoubling_eq positive within beyond, ← success]
      right
      omega
  · intro condition lastSent lastReceived events s network executed
    obtain ⟨probes, searching⟩ := searching_of_run least network executed
    constructor
    · intro running
      by_cases stable : s.loop.phase = .stable
      · exact canReach_of_property stable
      · exact canReach_of_settles
          (settles_of_running least (searching.search.onSchedule stable)
            (searching.search.poised_of_probing stable) searching.looked running)
    · intro stable
      have step := settings.fineStep_ge
      rcases searching.search.lastSuccess stable least with
        ⟨-, success⟩ | ⟨below, index, success, -, beyond⟩
      · omega
      · have largest := largestDoubling_le positive least beyond
        rcases condition with atCeiling | close
        · omega
        · omega

/-- Probes from ten seconds to a minute with a fine step of five seconds. -/
def slowProbes : ProbeSettings :=
  { quickProbes with
    shortMillis := 10000
    ceilingMillis := 60000
    fineStepMillis := 5000
    short_ge := by decide
    room := by decide
    ceiling_le := by decide
    fineStep_ge := by decide }

/-- A maximum of 22 seconds is found, because 20 are close enough. -/
theorem finds_maximum_twenty_two : FindsMaximum slowProbes 22000 :=
  (finds_maximum_iff (by decide) (by decide)).mpr (.inr (by decide +kernel))

instance decidableThresholdNetwork (s : AdaptiveSystem) :
    DecidablePred (ThresholdNetwork settings maximum s)
  | .tick _ =>
      inferInstanceAs (Decidable (_ → _ → _ → ∀ sentAt ∈ s.loop.sentAt, _))
  | .receive _ =>
      inferInstanceAs (Decidable (_ → _ ∧ ∃ sentAt ∈ s.loop.sentAt, _))
  | .push _ => .isFalse id
  | .recheck | .write | .storeLastSent _ | .stamp _ | .stop => .isTrue trivial

/-- A maximum of 19 seconds is missed by nine: the probe of 20 seconds fails and
the loop settles at ten. -/
theorem misses_maximum_nineteen :
    ∃ events s, Meets (step slowProbes) (ThresholdNetwork slowProbes 19000)
          (start slowProbes 0 0) events ∧
      run (step slowProbes) (start slowProbes 0 0) events = some s ∧
      s.loop.phase = .stable ∧ s.loop.lastSuccessMillis = 10000 ∧
      ¬ 19000 - slowProbes.fineStepMillis < s.loop.lastSuccessMillis := by
  let events : List AdaptiveEvent :=
    [.tick 10000000000, .write, .storeLastSent 10000000000, .stamp 10000000000,
      .receive 10100000000, .tick 10250000000,
      .tick 20000000000, .write, .storeLastSent 20000000000, .stamp 20000000000,
      .receive 20100000000, .tick 20250000000,
      .tick 40000000000, .write, .storeLastSent 40000000000, .stamp 40000000000,
      .tick 42000000000, .recheck]
  have network : Meets (step slowProbes) (ThresholdNetwork slowProbes 19000)
      (start slowProbes 0 0) events := by decide +kernel
  have outcome : (run (step slowProbes) (start slowProbes 0 0) events).map
      (fun s => (s.loop.phase, s.loop.lastSuccessMillis)) =
      some (.stable, 10000) := by decide +kernel
  obtain ⟨s, executed, facts⟩ := Option.map_eq_some_iff.mp outcome
  simp only [Prod.mk.injEq] at facts
  obtain ⟨stable, success⟩ := facts
  refine ⟨events, s, network, executed, stable, success, ?_⟩
  rw [success]
  decide

end AdaptiveSystem

end Client

end RmttGo
