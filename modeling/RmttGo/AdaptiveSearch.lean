import RmttGo.AdaptiveKeepalive
import RmttGo.CappedDoubling

/-!
# The search of the adaptive heartbeat

A round of the search is one probe and what the loop makes of it.  This file
follows the search in terms of two bounds: the loop takes a probe for answered
if its interval is at most the first, and only if it is at most the second.
Then the probes sent are those of a fixed schedule, and the state in which the
loop settles says how far the schedule got.
-/

namespace RmttGo

namespace Client

namespace ProbeSettings

variable (settings : ProbeSettings)

/-- The interval of a probe of the doubling phase, counted from zero. -/
def doubling (index : Nat) : Int :=
  cappedDoubling settings.shortMillis settings.ceilingMillis index

/-- So many short probes, then so many of the doubling phase. -/
def schedule (shorts doublings : Nat) : List (AdaptivePhase × Int) :=
  List.replicate shorts (.probeShort, settings.shortMillis) ++
    (List.range doublings).map fun index =>
      (.probeDoubling, settings.doubling index)

/-- The doubling probes before this one were short of the ceiling and within
the bound. -/
def Passed (possible : Int) (index : Nat) : Prop :=
  ∀ earlier < index, settings.doubling earlier < settings.ceilingMillis ∧
    settings.doubling earlier ≤ possible

variable {settings} {possible : Int} {index shorts : Nat}

theorem short_pos : 0 < settings.shortMillis := by
  have := settings.short_ge
  omega

theorem doubling_zero : settings.doubling 0 = settings.shortMillis :=
  cappedDoubling_zero settings.room.le

theorem doubling_succ :
    settings.doubling (index + 1) =
      min (settings.doubling index * 2) settings.ceilingMillis :=
  cappedDoubling_succ (settings.short_pos.le.trans settings.room.le)

theorem doubling_le_ceiling : settings.doubling index ≤ settings.ceilingMillis :=
  cappedDoubling_le

theorem doubling_pos : 0 < settings.doubling index := by
  have positive := settings.short_pos
  exact lt_min (mul_pos positive (pow_pos two_pos index))
    (positive.trans settings.room)

theorem Passed.succ (passed : settings.Passed possible index)
    (below : settings.doubling index < settings.ceilingMillis)
    (within : settings.doubling index ≤ possible) :
    settings.Passed possible (index + 1) := by
  intro earlier small
  rcases Nat.lt_succ_iff_lt_or_eq.mp small with small | rfl
  · exact passed earlier small
  · exact ⟨below, within⟩

theorem schedule_short :
    settings.schedule shorts 0 ++ [(.probeShort, settings.shortMillis)] =
      settings.schedule (shorts + 1) 0 := by
  simp [schedule, List.replicate_succ']

theorem schedule_doubling :
    settings.schedule shorts index ++ [(.probeDoubling, settings.doubling index)] =
      settings.schedule shorts (index + 1) := by
  simp [schedule, List.range_succ]

end ProbeSettings

variable {settings : ProbeSettings}

namespace AdaptiveLoop

variable {loop : AdaptiveLoop} {index : Nat}

theorem shortAnswered_of_fewer
    (fewer : loop.shortOk + 1 < settings.probeCount) :
    loop.shortAnswered settings =
      { loop with awaiting := false, shortOk := loop.shortOk + 1 } := by
  unfold shortAnswered
  simp only
  rw [if_neg (by omega)]

theorem shortAnswered_of_enough
    (enough : settings.probeCount ≤ loop.shortOk + 1) :
    loop.shortAnswered settings =
      { loop with
        awaiting := false
        shortOk := loop.shortOk + 1
        phase := .probeDoubling
        intervalMillis := settings.shortMillis
        lastSuccessMillis := settings.shortMillis
        sentAt := none } := by
  unfold shortAnswered
  simp only
  rw [if_pos enough]

theorem nextMillis_of_doubling (phase : loop.phase = .probeDoubling)
    (interval : loop.intervalMillis = settings.doubling index) :
    loop.nextMillis settings = settings.doubling (index + 1) := by
  have positive : 0 < settings.doubling index := ProbeSettings.doubling_pos
  have below : settings.doubling index ≤ settings.ceilingMillis :=
    ProbeSettings.doubling_le_ceiling
  have ceiling := settings.ceiling_le
  unfold nextMillis
  rw [if_pos phase, interval, int64_of_nonneg (by omega) (by omega),
    ProbeSettings.doubling_succ]
  simp only
  split <;> omega

theorem probeAnswered_of_doubling (phase : loop.phase = .probeDoubling)
    (interval : loop.intervalMillis = settings.doubling index) :
    loop.probeAnswered settings =
      let answered : AdaptiveLoop :=
        { loop with
          awaiting := false
          lastSuccessMillis := settings.doubling index }
      if settings.doubling (index + 1) ≤ settings.doubling index then
        answered.enterStable settings
      else
        { answered with intervalMillis := settings.doubling (index + 1) } := by
  have next := nextMillis_of_doubling phase interval
  have sameNext : nextMillis settings
      { loop with awaiting := false, lastSuccessMillis := loop.intervalMillis } =
        loop.nextMillis settings := rfl
  unfold probeAnswered
  simp only [sameNext, next]
  rw [interval]

theorem probeAnswered_of_below (phase : loop.phase = .probeDoubling)
    (interval : loop.intervalMillis = settings.doubling index)
    (below : settings.doubling index < settings.ceilingMillis) :
    loop.probeAnswered settings =
      { loop with
        awaiting := false
        lastSuccessMillis := settings.doubling index
        intervalMillis := settings.doubling (index + 1) } := by
  have grows : settings.doubling index < settings.doubling (index + 1) :=
    cappedDoubling_lt_succ settings.short_pos below
  rw [probeAnswered_of_doubling phase interval, if_neg (Int.not_le.mpr grows)]

theorem probeAnswered_of_ceiling (phase : loop.phase = .probeDoubling)
    (interval : loop.intervalMillis = settings.doubling index)
    (reached : settings.doubling index = settings.ceilingMillis) :
    loop.probeAnswered settings =
      enterStable settings
        { loop with
          awaiting := false
          lastSuccessMillis := settings.ceilingMillis } := by
  have stays : settings.doubling (index + 1) ≤ settings.ceilingMillis :=
    ProbeSettings.doubling_le_ceiling
  rw [probeAnswered_of_doubling phase interval, reached, if_pos stays]

/-- The heartbeat of a loop that settles. -/
theorem heart_enterStable
    (positive : 0 < loop.lastSuccessMillis)
    (below : loop.lastSuccessMillis ≤ settings.ceilingMillis) :
    (loop.enterStable settings).successHeartMillis =
      max settings.shortMillis (9 * loop.lastSuccessMillis / 10) := by
  have ceiling := settings.ceiling_le
  change ite _ _ _ = _
  rw [if_pos positive, int64_of_nonneg (by omega) (by omega),
    Int.tdiv_eq_ediv_of_nonneg (by omega)]
  split <;> omega

end AdaptiveLoop

namespace AdaptiveSystem

/-- The probes sent since the search was begun. -/
def noteSearch (s : AdaptiveSystem) (event : AdaptiveEvent)
    (later : AdaptiveSystem) (probes : List (AdaptivePhase × Int)) :
    List (AdaptivePhase × Int) :=
  if s.loop.phase = .stable then
    if later.loop.phase = .stable then probes else []
  else
    match event with
    | .write => probes ++ [(s.loop.phase, s.loop.intervalMillis)]
    | _ => probes

/-- The number of probes, one or none, that were sent and have no verdict. -/
def inFlight (s : AdaptiveSystem) : Nat :=
  if s.loop.awaiting = true ∨ s.position = .storingLastSent ∨
      s.position = .stamping then 1
  else 0

/-- Where a loop in a probing phase may stand. -/
def Poised (s : AdaptiveSystem) : Prop :=
  match s.position with
  | .waiting => s.loop.awaiting = true → ∃ sentAt, s.loop.sentAt = some sentAt
  | .rechecking _ =>
      s.loop.awaiting = true ∧ ∃ sentAt, s.loop.sentAt = some sentAt
  | .writing | .storingLastSent | .stamping => s.loop.awaiting = false
  | .stopped => True
  | .lost => False

/-- The step takes a probe for answered if its interval is at most `certain`,
and only if it is at most `possible`. -/
def Judges (settings : ProbeSettings) (certain possible : Int)
    (s : AdaptiveSystem) :
    AdaptiveEvent → Prop
  | .tick _ => ∀ sentAt, s.loop.awaiting = true → s.loop.sentAt = some sentAt →
      sentAt < s.lastReceived → s.loop.intervalMillis ≤ possible
  | .recheck => ∀ now sentAt, s.position = .rechecking now →
      s.loop.sentAt = some sentAt →
        (sentAt = s.lastReceived → s.loop.intervalMillis ≤ possible) ∧
        (sentAt ≠ s.lastReceived → settings.responseWindow ≤ now - sentAt →
          certain < s.loop.intervalMillis)
  | _ => True

end AdaptiveSystem

/-- How far the search has got. -/
inductive Search (settings : ProbeSettings) (certain possible : Int)
    (s : AdaptiveSystem) (probes : List (AdaptivePhase × Int)) : Prop
  | short {answered : Nat} (phase : s.loop.phase = .probeShort)
      (interval : s.loop.intervalMillis = settings.shortMillis)
      (shortOk : s.loop.shortOk = answered)
      (fewer : (answered : Int) < settings.probeCount)
      (sent : probes = settings.schedule (answered + s.inFlight) 0)
      (poised : s.Poised)
  | doubling {answered : Nat} (phase : s.loop.phase = .probeDoubling)
      (interval : s.loop.intervalMillis = settings.doubling answered)
      (lastSuccess : s.loop.lastSuccessMillis = settings.doubling (answered - 1))
      (passed : settings.Passed possible answered)
      (sent : probes =
        settings.schedule settings.probeCount.toNat (answered + s.inFlight))
      (poised : s.Poised)
  | settled {last : Nat} (phase : s.loop.phase = .stable)
      (passed : settings.Passed possible last)
      (outcome :
        settings.doubling last = settings.ceilingMillis ∧
            settings.ceilingMillis ≤ possible ∧
            s.loop.lastSuccessMillis = settings.ceilingMillis ∨
          certain < settings.doubling last ∧
            s.loop.lastSuccessMillis = settings.doubling (last - 1))
      (heart : s.loop.successHeartMillis =
        max settings.shortMillis (9 * s.loop.lastSuccessMillis / 10))
      (sent : probes =
        settings.schedule settings.probeCount.toNat (last + 1))

namespace Search

open AdaptiveSystem

variable {certain possible : Int} {s later : AdaptiveSystem} {event : AdaptiveEvent}
  {probes : List (AdaptivePhase × Int)}

theorem inFlight_of_awaiting (awaiting : s.loop.awaiting = true) :
    s.inFlight = 1 :=
  if_pos (.inl awaiting)

theorem inFlight_of_rest (rest : s.loop.awaiting = false)
    (position : s.position = .waiting ∨ s.position = .writing) :
    s.inFlight = 0 := by
  unfold inFlight
  rcases position with position | position <;> simp [rest, position]

theorem restart {lastSent lastReceived : Int} :
    Search settings certain possible
      ⟨.start settings, .waiting, lastSent, lastReceived⟩ [] := by
  have := settings.probeCount_pos
  refine @Search.short _ _ _ _ _ 0 rfl rfl rfl (by omega) ?_ ?_
  · simp [inFlight, AdaptiveLoop.start, ProbeSettings.schedule]
  · intro awaiting
    cases awaiting

theorem poised_of_probing (search : Search settings certain possible s probes)
    (probing : s.loop.phase ≠ .stable) : s.Poised := by
  cases search with
  | short phase interval shortOk fewer sent poised => exact poised
  | doubling phase interval lastSuccess passed sent poised => exact poised
  | settled phase => exact absurd phase probing

theorem of_enterStable {loop : AdaptiveLoop} {last : Nat}
    (loopOf : s.loop = loop.enterStable settings)
    (positive : 0 < loop.lastSuccessMillis)
    (below : loop.lastSuccessMillis ≤ settings.ceilingMillis)
    (passed : settings.Passed possible last)
    (outcome :
      settings.doubling last = settings.ceilingMillis ∧
          settings.ceilingMillis ≤ possible ∧
          loop.lastSuccessMillis = settings.ceilingMillis ∨
        certain < settings.doubling last ∧
          loop.lastSuccessMillis = settings.doubling (last - 1))
    (sent : probes = settings.schedule settings.probeCount.toNat (last + 1)) :
    Search settings certain possible s probes := by
  have heart := AdaptiveLoop.heart_enterStable positive below
  rw [← loopOf] at heart
  have sameSuccess : s.loop.lastSuccessMillis = loop.lastSuccessMillis := by
    rw [loopOf]
    rfl
  refine .settled ?_ passed (by rwa [sameSuccess]) (by rwa [sameSuccess]) sent
  rw [loopOf]
  rfl

/-- The probe in flight is taken for answered. -/
theorem answered (search : Search settings certain possible s probes)
    (probing : s.loop.phase ≠ .stable) (awaiting : s.loop.awaiting = true)
    (within : s.loop.intervalMillis ≤ possible)
    (loopOf : later.loop = s.loop.answered settings)
    (waiting : later.position = .waiting) :
    Search settings certain possible later probes := by
  have rest : later.loop.awaiting = false := by
    rw [loopOf]
    exact AdaptiveLoop.awaiting_answered probing
  have landed := inFlight_of_rest rest (.inl waiting)
  have poised : later.Poised := by
    unfold Poised
    rw [waiting]
    intro awaits
    cases rest.symm.trans awaits
  cases search with
  | @short answered phase interval shortOk fewer sent _ =>
      rw [inFlight_of_awaiting awaiting] at sent
      simp only [AdaptiveLoop.answered, phase] at loopOf
      by_cases enough : settings.probeCount ≤ s.loop.shortOk + 1
      · rw [AdaptiveLoop.shortAnswered_of_enough enough] at loopOf
        have all : settings.probeCount.toNat = answered + 1 := by omega
        refine @Search.doubling _ _ _ _ _ 0 ?_ ?_ ?_ ?_ ?_ poised
        · rw [loopOf]
        · rw [loopOf, ProbeSettings.doubling_zero]
        · rw [loopOf, ProbeSettings.doubling_zero]
        · intro earlier small
          omega
        · rw [sent, landed, all]
      · rw [AdaptiveLoop.shortAnswered_of_fewer (by omega)] at loopOf
        refine @Search.short _ _ _ _ _ (answered + 1) ?_ ?_ ?_ ?_ ?_ poised
        · rw [loopOf, phase]
        · rw [loopOf, interval]
        · rw [loopOf, shortOk]
          rfl
        · omega
        · rw [sent, landed]
  | @doubling answered phase interval lastSuccess passed sent _ =>
      rw [inFlight_of_awaiting awaiting] at sent
      simp only [AdaptiveLoop.answered, phase] at loopOf
      rcases lt_or_eq_of_le
        (ProbeSettings.doubling_le_ceiling : settings.doubling answered ≤ _) with
        below | reached
      · rw [AdaptiveLoop.probeAnswered_of_below phase interval below] at loopOf
        refine @Search.doubling _ _ _ _ _ (answered + 1) ?_ ?_ ?_ ?_ ?_ poised
        · rw [loopOf, phase]
        · rw [loopOf]
        · rw [loopOf]
          rfl
        · exact passed.succ below (interval ▸ within)
        · rw [sent, landed]
      · rw [AdaptiveLoop.probeAnswered_of_ceiling phase interval reached] at loopOf
        exact of_enterStable loopOf (settings.short_pos.trans settings.room)
          le_rfl passed (.inl ⟨reached, by omega, rfl⟩) sent
  | settled phase => exact absurd phase probing

/-- The probe in flight is taken for unanswered. -/
theorem unanswered (search : Search settings certain possible s probes)
    (least : settings.shortMillis ≤ certain)
    (probing : s.loop.phase ≠ .stable) (awaiting : s.loop.awaiting = true)
    (beyond : certain < s.loop.intervalMillis) :
    ∃ loop, s.loop.unanswered settings = some loop ∧
      ∀ later : AdaptiveSystem, later.loop = loop →
        Search settings certain possible later probes := by
  cases search with
  | short phase interval => omega
  | @doubling answered phase interval lastSuccess passed sent =>
      rw [inFlight_of_awaiting awaiting] at sent
      refine ⟨s.loop.enterStable settings, ?_, ?_⟩
      · simp [AdaptiveLoop.unanswered, phase]
      · intro later loopOf
        refine of_enterStable loopOf ?_ ?_ passed
          (.inr ⟨interval ▸ beyond, lastSuccess⟩) sent
        · rw [lastSuccess]
          exact ProbeSettings.doubling_pos
        · rw [lastSuccess]
          exact ProbeSettings.doubling_le_ceiling
  | settled phase => exact absurd phase probing

/-- Only the probe in flight may have changed, and in a probing phase not even
the number of probes in flight. -/
theorem rearranged (search : Search settings certain possible s probes)
    (sameLoop : later.loop =
      { s.loop with
        sentAt := later.loop.sentAt
        awaiting := later.loop.awaiting })
    (probing : s.loop.phase ≠ .stable →
      later.inFlight = s.inFlight ∧ later.Poised) :
    Search settings certain possible later probes := by
  have samePhase : later.loop.phase = s.loop.phase := by rw [sameLoop]
  have sameInterval : later.loop.intervalMillis = s.loop.intervalMillis := by
    rw [sameLoop]
  have sameSuccess : later.loop.lastSuccessMillis = s.loop.lastSuccessMillis := by
    rw [sameLoop]
  have sameOk : later.loop.shortOk = s.loop.shortOk := by rw [sameLoop]
  have sameHeart : later.loop.successHeartMillis = s.loop.successHeartMillis := by
    rw [sameLoop]
  cases search with
  | short phase interval shortOk fewer sent _ =>
      obtain ⟨sameFlight, poised⟩ := probing (by simp [phase])
      exact .short (samePhase.trans phase) (sameInterval.trans interval)
        (sameOk.trans shortOk) fewer (by rwa [sameFlight]) poised
  | doubling phase interval lastSuccess passed sent _ =>
      obtain ⟨sameFlight, poised⟩ := probing (by simp [phase])
      exact .doubling (samePhase.trans phase) (sameInterval.trans interval)
        (sameSuccess.trans lastSuccess) passed (by rwa [sameFlight]) poised
  | settled phase passed outcome heart sent =>
      exact .settled (samePhase.trans phase) passed (by rwa [sameSuccess])
        (by rwa [sameHeart, sameSuccess]) sent

theorem next_of_stable (search : Search settings certain possible s probes)
    (stable : s.loop.phase = .stable) (stepTo : StepTo settings s event later) :
    Search settings certain possible later (noteSearch s event later probes) := by
  have goesOn : ∀ later : AdaptiveSystem,
      later.loop = { s.loop with
        sentAt := later.loop.sentAt, awaiting := later.loop.awaiting } →
      Search settings certain possible later (noteSearch s event later probes) := by
    intro later sameLoop
    have samePhase : later.loop.phase = .stable := by rw [sameLoop, stable]
    unfold noteSearch
    rw [if_pos stable, if_pos samePhase]
    exact search.rearranged sameLoop (absurd stable)
  cases stepTo with
  | @tick now waiting =>
      unfold AdaptiveSystem.tick
      rw [if_pos stable]
      split
      · obtain ⟨loop, position, lastSent, lastReceived⟩ := s
        cases waiting
        unfold noteSearch
        rw [if_pos stable, if_neg (by rintro ⟨⟩)]
        exact restart
      · exact goesOn _ (by rw [loop_probeAfter])
  | @recheck now rechecking =>
      exact goesOn _ (by rw [loop_recheck_of_stable stable])
  | _ => exact goesOn _ rfl

/-- The probe is on its way. -/
theorem write (search : Search settings certain possible s probes)
    (probing : s.loop.phase ≠ .stable) (writing : s.position = .writing) :
    Search settings certain possible { s with position := .storingLastSent }
      (probes ++ [(s.loop.phase, s.loop.intervalMillis)]) := by
  have rest : s.loop.awaiting = false := by
    have poised := search.poised_of_probing probing
    unfold Poised at poised
    rwa [writing] at poised
  have before := inFlight_of_rest rest (.inr writing)
  have after : inFlight { s with position := .storingLastSent } = 1 :=
    if_pos (.inr (.inl rfl))
  cases search with
  | short phase interval shortOk fewer sent _ =>
      refine .short phase interval shortOk fewer ?_ rest
      rw [sent, before, after, phase, interval, ProbeSettings.schedule_short]
  | doubling phase interval lastSuccess passed sent _ =>
      refine .doubling phase interval lastSuccess passed ?_ rest
      rw [sent, before, after, phase, interval, Nat.add_zero,
        ProbeSettings.schedule_doubling]
  | settled phase => exact absurd phase probing

theorem next_of_probing (search : Search settings certain possible s probes)
    (least : settings.shortMillis ≤ certain)
    (probing : s.loop.phase ≠ .stable)
    (judges : Judges settings certain possible s event)
    (stepTo : StepTo settings s event later) :
    Search settings certain possible later (noteSearch s event later probes) := by
  have poised := search.poised_of_probing probing
  unfold noteSearch
  rw [if_neg probing]
  cases stepTo with
  | @tick now waiting =>
      simp only [Poised, waiting] at poised
      cases awaiting : s.loop.awaiting with
      | true =>
          obtain ⟨sentAt, isSentAt⟩ := poised awaiting
          rw [tick_of_awaiting probing awaiting isSentAt]
          split
          · rename_i after
            exact search.answered probing awaiting
              (judges sentAt awaiting isSentAt after) rfl waiting
          · refine search.rearranged rfl fun _ => ⟨?_, ?_⟩
            · rw [inFlight_of_awaiting awaiting]
              exact inFlight_of_awaiting awaiting
            · exact ⟨awaiting, sentAt, isSentAt⟩
      | false =>
          have isProbe : s.tick settings now =
              s.probeAfter now s.loop.intervalMillis := by
            simp [AdaptiveSystem.tick, probing, awaiting]
          rw [isProbe]
          unfold probeAfter
          split
          · refine search.rearranged rfl fun _ => ⟨?_, awaiting⟩
            rw [inFlight_of_rest awaiting (.inl waiting)]
            exact inFlight_of_rest awaiting (.inr rfl)
          · exact search
  | @recheck now rechecking =>
      simp only [Poised, rechecking] at poised
      obtain ⟨awaiting, sentAt, isSentAt⟩ := poised
      obtain ⟨found, missed⟩ := judges now sentAt rechecking isSentAt
      rw [recheck_of_sentAt isSentAt]
      split
      · rename_i same
        exact search.answered probing awaiting (found same) rfl rfl
      · rename_i different
        split
        · rename_i windowOver
          obtain ⟨loop, isLoop, settles⟩ := search.unanswered least probing
            awaiting (missed different windowOver)
          rw [isLoop]
          exact settles _ rfl
        · refine search.rearranged rfl fun _ => ⟨?_, ?_⟩
          · rw [inFlight_of_awaiting awaiting]
            exact inFlight_of_awaiting awaiting
          · intro _
            exact ⟨sentAt, isSentAt⟩
  | write writing => exact search.write probing writing
  | storeLastSent storing =>
      simp only [Poised, storing] at poised
      refine search.rearranged rfl fun _ => ⟨?_, poised⟩
      simp [inFlight, storing]
  | stamp stamping =>
      refine search.rearranged rfl fun _ => ⟨?_, ?_⟩
      · simp [inFlight, stamping, AdaptiveLoop.stamped]
      · intro _
        exact ⟨_, rfl⟩
  | stop waiting =>
      refine search.rearranged rfl fun _ => ⟨?_, trivial⟩
      simp [inFlight, waiting]
  | push => exact search.rearranged rfl fun _ => ⟨rfl, poised⟩
  | receive => exact search.rearranged rfl fun _ => ⟨rfl, poised⟩

/-- A step that judges the probe by the two bounds keeps to the schedule. -/
theorem next (search : Search settings certain possible s probes)
    (least : settings.shortMillis ≤ certain)
    (judges : s.loop.phase ≠ .stable → Judges settings certain possible s event)
    (stepTo : StepTo settings s event later) :
    Search settings certain possible later (noteSearch s event later probes) := by
  by_cases stable : s.loop.phase = .stable
  · exact search.next_of_stable stable stepTo
  · exact search.next_of_probing least stable (judges stable) stepTo

end Search

end Client

end RmttGo
