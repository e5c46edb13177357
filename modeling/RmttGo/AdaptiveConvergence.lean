import RmttGo.AdaptiveRange
import RmttGo.AdaptiveRounds

/-!
# The adaptive search converges

When every probe is answered, the loop sends its short probes, then probes at
doubled intervals up to the ceiling, and settles there.  The one thing that can
go wrong is a packet between the two looks the loop takes at a clock that is
exactly at the stamp of the probe.
-/

namespace RmttGo

namespace Client

open EventRun AdaptiveSystem

variable {settings : ProbeSettings}

namespace AdaptiveSystem

/-- A tick behind the response window finds the probe in flight answered. -/
def AnsweredInTime (settings : ProbeSettings) (s : AdaptiveSystem) :
    AdaptiveEvent → Prop
  | .tick now => s.loop.phase ≠ .stable → s.loop.awaiting = true →
      ∀ sentAt ∈ s.loop.sentAt, settings.responseWindow ≤ now - sentAt →
        sentAt ≤ s.lastReceived
  | _ => True

/-- The tick whose second look is due. -/
def lookedAt (s : AdaptiveSystem) : Option Int :=
  match s.position with
  | .rechecking tick => some tick
  | _ => none

/-- No packet comes in between the two looks of a tick behind the response
window, when the first has found the clock exactly at the stamp. -/
def SteadyLooks (settings : ProbeSettings) (s : AdaptiveSystem) :
    AdaptiveEvent → Prop
  | .receive now => ∀ tick ∈ s.lookedAt, s.loop.sentAt = some s.lastReceived →
      settings.responseWindow ≤ tick - s.lastReceived → now = s.lastReceived
  | _ => True

end AdaptiveSystem

variable {s later : AdaptiveSystem} {event : AdaptiveEvent}
  {probes : List (AdaptivePhase × Int)}

/-- With the ceiling for the threshold, an unanswered probe is impossible. -/
structure Converging (settings : ProbeSettings) (s : AdaptiveSystem)
    (probes : List (AdaptivePhase × Int)) : Prop where
  search : Search settings settings.ceilingMillis settings.ceilingMillis s probes
  inRange : s.loop.InRange settings
  looked : Looked settings settings.ceilingMillis s
  kept : s.position ≠ .lost

/-- The loop gives the connection up in the short phase only. -/
theorem lost_of_stepTo (stepTo : StepTo settings s event later)
    (lost : later.position = .lost) :
    s.position = .lost ∨ later.loop.phase = .probeShort := by
  cases stepTo with
  | @tick now waiting =>
      have notLost : s.position ≠ .lost := by simp [waiting]
      unfold AdaptiveSystem.tick probeAfter at lost
      exfalso
      repeat' split at lost
      all_goals first | exact notLost lost | cases lost
  | @recheck now rechecking =>
      unfold AdaptiveSystem.recheck at lost ⊢
      split at lost
      · cases lost
      · rename_i missed
        split at lost
        · rename_i windowOver
          cases failed : s.loop.unanswered settings with
          | some loop =>
              rw [failed] at lost
              cases lost
          | none =>
              rw [if_neg missed, if_pos windowOver]
              unfold AdaptiveLoop.unanswered at failed
              split at failed
              · rename_i short
                exact .inr short
              all_goals cases failed
        · cases lost
  | push => exact .inl lost
  | receive => exact .inl lost
  | stop waiting => cases lost
  | write writing => cases lost
  | storeLastSent storing => cases lost
  | stamp stamping => cases lost

namespace Converging

theorem judges (converging : Converging settings s probes)
    (probing : s.loop.phase ≠ .stable) :
    Judges settings settings.ceilingMillis settings.ceilingMillis s event :=
  converging.looked.judges (fun _ _ _ _ _ => converging.inRange.interval.2)
    probing (converging.search.poised_of_probing probing) event

theorem start {lastSent lastReceived : Int} :
    Converging settings (start settings lastSent lastReceived) [] where
  search := Search.restart
  inRange := AdaptiveLoop.start_inRange
  looked := by rintro _ _ - ⟨⟩
  kept := by rintro ⟨⟩

theorem next (converging : Converging settings s probes)
    (answered : AnsweredInTime settings s event)
    (steady : SteadyLooks settings s event)
    (stepped : step settings s event = some later) :
    Converging settings later (noteSearch s event later probes) := by
  have stepTo := stepTo_of_step stepped
  have search := converging.search.next settings.room.le converging.judges stepTo
  refine ⟨search, converging.inRange.step (loopStep_of_step stepped), ?_, ?_⟩
  · intro now sentAt probing rechecking isSentAt within windowOver
    cases looks_of_stepTo stepTo rechecking with
    | first _ awaiting notAfter =>
        exact Int.le_antisymm
          (answered probing awaiting sentAt isSentAt windowOver)
          (notAfter sentAt isSentAt)
    | pushed before =>
        exact converging.looked now sentAt probing before isSentAt within windowOver
    | received before =>
        have same :=
          converging.looked now sentAt probing before isSentAt within windowOver
        have isLook : s.lookedAt = some now := by simp only [lookedAt, before]
        subst same
        exact (steady now isLook isSentAt windowOver).symm
  · intro lost
    rcases lost_of_stepTo stepTo lost with alreadyLost | short
    · exact converging.kept alreadyLost
    · have poised := search.poised_of_probing (by simp [short])
      unfold Poised at poised
      rwa [lost] at poised

end Converging

section Sequence

/-- The short probes, then probes of the doubling phase at strictly increasing
intervals and no more of them than the ratio of the ceiling allows. -/
def ProbeSettings.Sequence (settings : ProbeSettings)
    (probes : List (AdaptivePhase × Int)) : Prop :=
  ∃ intervals : List Int,
    probes = List.replicate settings.probeCount.toNat
        (.probeShort, settings.shortMillis) ++
      intervals.map (.probeDoubling, ·) ∧
    intervals.Pairwise (· < ·) ∧
    (intervals.length : Int) ≤
      doublingsTo settings.shortMillis settings.ceilingMillis + 1

variable {certain possible : Int} {last : Nat}

theorem ProbeSettings.Passed.sequence (passed : settings.Passed possible last) :
    settings.Sequence (settings.schedule settings.probeCount.toNat (last + 1)) := by
  have below : ∀ k < last, cappedDoubling settings.shortMillis
      settings.ceilingMillis k < settings.ceilingMillis :=
    fun k small => (passed k small).1
  refine ⟨(List.range (last + 1)).map settings.doubling, ?_, ?_, ?_⟩
  · simp [schedule]
  · exact pairwise_lt_cappedDoubling settings.short_pos below
  · have := le_doublingsTo_of_below settings.short_pos settings.room.le below
    simpa using this

theorem Search.sequence (search : Search settings certain possible s probes) :
    ∃ rest, settings.Sequence (probes ++ rest) := by
  have flight : s.inFlight = 0 ∨ s.inFlight = 1 := by
    unfold inFlight
    split <;> simp
  cases search with
  | @short answered phase interval shortOk fewer sent _ =>
      let missing := settings.probeCount.toNat - (answered + s.inFlight)
      have all : answered + s.inFlight + missing = settings.probeCount.toNat := by
        omega
      have passed : settings.Passed possible 0 :=
        fun earlier small => absurd small (Nat.not_lt_zero earlier)
      refine ⟨List.replicate missing (.probeShort, settings.shortMillis) ++
        [(.probeDoubling, settings.doubling 0)], ?_⟩
      have whole : settings.schedule settings.probeCount.toNat 1 = probes ++
          (List.replicate missing (.probeShort, settings.shortMillis) ++
            [(.probeDoubling, settings.doubling 0)]) := by
        rw [sent, ← List.append_assoc]
        simp only [ProbeSettings.schedule, List.range_zero, List.map_nil,
          List.append_nil, List.replicate_append_replicate, all]
        rfl
      rw [← whole]
      exact passed.sequence
  | @doubling answered phase interval lastSuccess passed sent _ =>
      rcases flight with none | one
      · refine ⟨[(.probeDoubling, settings.doubling answered)], ?_⟩
        rw [sent, none, Nat.add_zero, ProbeSettings.schedule_doubling]
        exact passed.sequence
      · refine ⟨[], ?_⟩
        rw [sent, one, List.append_nil]
        exact passed.sequence
  | @settled last phase passed outcome heart sent =>
      refine ⟨[], ?_⟩
      rw [sent, List.append_nil]
      exact passed.sequence

end Sequence

/-- A search of probes and their answers meets what convergence asks for. -/
theorem quiet_converges (inRange : s.loop.InRange settings)
    (quiet : Quiet settings.ceilingMillis s event) :
    AnsweredInTime settings s event ∧ SteadyLooks settings s event := by
  cases event with
  | tick now =>
      refine ⟨?_, trivial⟩
      intro _ awaiting sentAt isSentAt _
      exact quiet sentAt awaiting isSentAt inRange.interval.2
  | receive now =>
      refine ⟨trivial, ?_⟩
      obtain ⟨waiting, -⟩ := quiet
      intro tick isLook
      simp [lookedAt, waiting] at isLook
  | _ => exact ⟨trivial, trivial⟩

namespace AdaptiveSystem

/-- When every probe is answered in time, the connection is kept, the loop
sends the short probes and then doubling probes up to the ceiling, settles at
nine tenths of it, and can always get there. -/
theorem probing_converges {lastSent lastReceived : Int}
    {events : List AdaptiveEvent}
    {s : AdaptiveSystem × List (AdaptivePhase × Int)}
    (answered : Meets (step settings) (AnsweredInTime settings)
      (start settings lastSent lastReceived) events)
    (steady : Meets (step settings) (SteadyLooks settings)
      (start settings lastSent lastReceived) events)
    (executed : run (recorded (step settings) noteSearch)
      (start settings lastSent lastReceived, []) events = some s) :
    s.1.position ≠ .lost ∧
      (∃ rest, settings.Sequence (s.2 ++ rest)) ∧
      (s.1.loop.phase = .stable →
        settings.Sequence s.2 ∧
          s.1.loop.lastSuccessMillis = settings.ceilingMillis ∧
          s.1.loop.successHeartMillis =
            max settings.shortMillis (9 * settings.ceilingMillis / 10)) ∧
      (s.1.position ≠ .stopped →
        CanReach (step settings)
          (fun s event => AnsweredInTime settings s event ∧
            SteadyLooks settings s event)
          (fun s => s.loop.phase = .stable) s.1) := by
  have converging : Converging settings s.1 s.2 := by
    refine invariant_of_meets (fun s => Converging settings s.1 s.2) ?_
      Converging.start (meets_recorded.mpr (answered.and steady)) executed
    rintro ⟨state, probes⟩ _ event converging ⟨answeredNow, steadyNow⟩ recordedStep
    obtain ⟨later, stepped, rfl⟩ := recorded_eq_some.mp recordedStep
    exact converging.next answeredNow steadyNow stepped
  obtain ⟨search, inRange, looked, kept⟩ := converging
  refine ⟨kept, search.sequence, ?_, ?_⟩
  · intro stable
    cases search with
    | short phase => cases phase.symm.trans stable
    | doubling phase => cases phase.symm.trans stable
    | settled phase passed outcome heart sent =>
        have success : s.1.loop.lastSuccessMillis = settings.ceilingMillis := by
          rcases outcome with ⟨_, _, success⟩ | ⟨beyond, _⟩
          · exact success
          · exact absurd ProbeSettings.doubling_le_ceiling (Int.not_le.mpr beyond)
        refine ⟨?_, success, by rw [heart, success]⟩
        rw [sent]
        exact passed.sequence
  · intro running
    by_cases stable : s.1.loop.phase = .stable
    · exact canReach_of_property stable
    · obtain ⟨more, finish, quiet, ran, settled⟩ :=
        settles_of_running settings.room.le (search.onSchedule stable)
          (search.poised_of_probing stable) looked running
      refine ⟨more, finish, ?_, ran, settled⟩
      refine quiet.mono (fun s => s.loop.InRange settings) ?_ ?_ inRange
      · intro state next event inRange stepped
        exact inRange.step (loopStep_of_step stepped)
      · intro state event
        exact quiet_converges

instance decidableAnsweredInTime (s : AdaptiveSystem) :
    DecidablePred (AnsweredInTime settings s)
  | .tick _ => inferInstanceAs (Decidable (_ → _ → ∀ sentAt ∈ s.loop.sentAt, _))
  | .receive _ | .recheck | .write | .storeLastSent _ | .stamp _ | .push _
  | .stop => .isTrue trivial

instance decidableSteadyLooks (s : AdaptiveSystem) :
    DecidablePred (SteadyLooks settings s)
  | .receive _ => inferInstanceAs (Decidable (∀ tick ∈ s.lookedAt, _))
  | .tick _ | .recheck | .write | .storeLastSent _ | .stamp _ | .push _
  | .stop => .isTrue trivial

/-- One short probe and two of the doubling phase, each answered. -/
theorem probing_converges_quick :
    ∃ events s, run (recorded (step quickProbes) noteSearch)
          (start quickProbes 0 0, []) events = some s ∧
      s.2 = [(.probeShort, 1000), (.probeDoubling, 1000), (.probeDoubling, 2000)] ∧
      s.1.loop.lastSuccessMillis = 2000 ∧ quickProbes.Sequence s.2 := by
  let events : List AdaptiveEvent :=
    [.tick 1000000000, .write, .storeLastSent 1000000000, .stamp 1000000000,
      .receive 1100000000, .tick 1250000000,
      .tick 2000000000, .write, .storeLastSent 2000000000, .stamp 2000000000,
      .receive 2100000000, .tick 2250000000,
      .tick 4000000000, .write, .storeLastSent 4000000000, .stamp 4000000000,
      .receive 4100000000, .tick 4250000000]
  have answered : Meets (step quickProbes) (AnsweredInTime quickProbes)
      (start quickProbes 0 0) events := by decide +kernel
  have steady : Meets (step quickProbes) (SteadyLooks quickProbes)
      (start quickProbes 0 0) events := by decide +kernel
  have outcome : (run (recorded (step quickProbes) noteSearch)
      (start quickProbes 0 0, []) events).map (fun s => (s.2, s.1.loop.phase)) =
      some ([(.probeShort, 1000), (.probeDoubling, 1000), (.probeDoubling, 2000)],
        .stable) := by decide +kernel
  obtain ⟨s, executed, facts⟩ := Option.map_eq_some_iff.mp outcome
  simp only [Prod.mk.injEq] at facts
  obtain ⟨sent, stable⟩ := facts
  obtain ⟨-, -, settled, -⟩ := probing_converges answered steady executed
  obtain ⟨sequence, success, -⟩ := settled stable
  exact ⟨events, s, executed, sent, success, sequence⟩

/-- The answer carries the very time of the stamp, and another packet comes in
between the two looks of a late tick: the connection is given up. -/
theorem moved_clock_gives_up :
    ∃ s, run (recorded (step quickProbes) noteSearch) (start quickProbes 0 0, [])
          [.tick 1000000000, .write, .storeLastSent 1000000000,
            .stamp 1000000000, .receive 1000000000, .tick 3000000000,
            .receive 3000000001, .recheck] = some s ∧
      Meets (step quickProbes) (AnsweredInTime quickProbes)
        (start quickProbes 0 0)
        [.tick 1000000000, .write, .storeLastSent 1000000000,
          .stamp 1000000000, .receive 1000000000, .tick 3000000000,
          .receive 3000000001, .recheck] ∧
      s.1.position = .lost := by
  have outcome : (run (recorded (step quickProbes) noteSearch)
      (start quickProbes 0 0, [])
      [.tick 1000000000, .write, .storeLastSent 1000000000,
        .stamp 1000000000, .receive 1000000000, .tick 3000000000,
        .receive 3000000001, .recheck]).map (fun s => s.1.position) =
      some .lost := by decide +kernel
  obtain ⟨s, executed, lost⟩ := Option.map_eq_some_iff.mp outcome
  exact ⟨s, executed, by decide +kernel, lost⟩

end AdaptiveSystem

end Client

end RmttGo
