import RmttGo.AdaptiveSearch

/-!
# Rounds of the adaptive search

A network that answers the probes of some intervals and not the others makes
the loop judge every probe by its interval.  On such a network the search can
always be brought to its end, one round after the other.
-/

namespace RmttGo

namespace Client

open EventRun

variable {settings : ProbeSettings}

/-- A second look behind the response window finds the answer of every probe up
to the bound. -/
def Looked (settings : ProbeSettings) (certain : Int) (s : AdaptiveSystem) :
    Prop :=
  ∀ now sentAt, s.loop.phase ≠ .stable → s.position = .rechecking now →
    s.loop.sentAt = some sentAt → s.loop.intervalMillis ≤ certain →
      settings.responseWindow ≤ now - sentAt → sentAt = s.lastReceived

/-- Only a probe up to the bound has got an answer. -/
def Heard (possible : Int) (s : AdaptiveSystem) : Prop :=
  ∀ sentAt, s.loop.phase ≠ .stable → s.loop.awaiting = true →
    s.loop.sentAt = some sentAt → sentAt ≤ s.lastReceived →
      s.loop.intervalMillis ≤ possible

namespace AdaptiveSystem

/-- The steps of a search that is brought to its end: nothing but probes and
their answers. -/
def Quiet (threshold : Int) (s : AdaptiveSystem) : AdaptiveEvent → Prop
  | .tick _ => ∀ sentAt, s.loop.awaiting = true →
      s.loop.sentAt = some sentAt → s.loop.intervalMillis ≤ threshold →
        sentAt ≤ s.lastReceived
  | .receive now => s.position = .waiting ∧ s.loop.awaiting = true ∧
      s.loop.intervalMillis ≤ threshold ∧
      ∃ sentAt, s.loop.sentAt = some sentAt ∧ s.lastReceived < sentAt ∧
        sentAt ≤ now
  | .stamp now => s.lastReceived < now
  | .push _ | .stop => False
  | .recheck | .write | .storeLastSent _ => True

end AdaptiveSystem

open AdaptiveSystem

variable {threshold : Int} {s : AdaptiveSystem}
  {probes : List (AdaptivePhase × Int)}

theorem Looked.judges {possible : Int} (looked : Looked settings threshold s)
    (heard : Heard possible s) (probing : s.loop.phase ≠ .stable)
    (poised : s.Poised) (event : AdaptiveEvent) :
    Judges settings threshold possible s event := by
  cases event with
  | tick now =>
      intro sentAt awaiting isSentAt after
      exact heard sentAt probing awaiting isSentAt after.le
  | recheck =>
      intro now sentAt rechecking isSentAt
      unfold Poised at poised
      rw [rechecking] at poised
      constructor
      · intro same
        exact heard sentAt probing poised.1 isSentAt same.le
      · intro different windowOver
        by_contra within
        exact different
          (looked now sentAt probing rechecking isSentAt (Int.not_lt.mp within)
            windowOver)
  | _ => trivial

section Looks

/-- How the loop comes to stand between two looks. -/
inductive Looks (s : AdaptiveSystem) (tick : Int) :
    AdaptiveEvent → AdaptiveSystem → Prop
  | first (probing : s.loop.phase ≠ .stable) (awaiting : s.loop.awaiting = true)
      (notAfter : ∀ sentAt, s.loop.sentAt = some sentAt →
        s.lastReceived ≤ sentAt) :
      Looks s tick (.tick tick) { s with position := .rechecking tick }
  | pushed {now : Int} (rechecking : s.position = .rechecking tick) :
      Looks s tick (.push now) { s with lastSent := now }
  | received {now : Int} (rechecking : s.position = .rechecking tick) :
      Looks s tick (.receive now) { s with lastReceived := now }

theorem looks_of_stepTo {later : AdaptiveSystem} {event : AdaptiveEvent}
    {tick : Int} (stepTo : StepTo settings s event later)
    (rechecking : later.position = .rechecking tick) :
    Looks s tick event later := by
  cases stepTo with
  | @tick now waiting =>
      have notYet : ∀ {tick}, s.position ≠ .rechecking tick := by
        simp [waiting]
      have stays : ∀ millis,
          (s.probeAfter now millis).position ≠ .rechecking tick := by
        intro millis
        unfold probeAfter
        split
        · simp
        · exact notYet
      unfold AdaptiveSystem.tick at rechecking ⊢
      split at rechecking
      · split at rechecking
        · exact absurd rechecking notYet
        · exact absurd rechecking (stays _)
      · rename_i probing
        split at rechecking
        · rename_i awaiting
          split at rechecking
          · exact absurd rechecking notYet
          · rename_i notAfter
            rw [if_neg probing, if_pos awaiting, if_neg notAfter]
            cases rechecking
            refine .first probing awaiting ?_
            intro sentAt isSentAt
            simpa [isSentAt] using notAfter
        · exact absurd rechecking (stays _)
  | @recheck now _ =>
      unfold AdaptiveSystem.recheck at rechecking
      split at rechecking
      · cases rechecking
      · split at rechecking
        · split at rechecking <;> cases rechecking
        · cases rechecking
  | push => exact .pushed rechecking
  | receive => exact .received rechecking
  | stop waiting => cases rechecking
  | write writing => cases rechecking
  | storeLastSent storing => cases rechecking
  | stamp stamping => cases rechecking

end Looks

section Remaining

/-- The loop is about to send, or awaits, a probe of the schedule. -/
inductive OnSchedule (settings : ProbeSettings) (loop : AdaptiveLoop) : Prop
  | short (phase : loop.phase = .probeShort)
      (interval : loop.intervalMillis = settings.shortMillis)
      (fewer : loop.shortOk < settings.probeCount)
  | doubling {index : Nat} (phase : loop.phase = .probeDoubling)
      (interval : loop.intervalMillis = settings.doubling index)

theorem Search.onSchedule {possible : Int}
    (search : Search settings threshold possible s probes)
    (probing : s.loop.phase ≠ .stable) : OnSchedule settings s.loop := by
  cases search with
  | short phase interval shortOk fewer => exact .short phase interval (by omega)
  | doubling phase interval => exact .doubling phase interval
  | settled phase => exact absurd phase probing

theorem OnSchedule.probing {loop : AdaptiveLoop}
    (onSchedule : OnSchedule settings loop) : loop.phase ≠ .stable := by
  cases onSchedule with
  | short phase => simp [phase]
  | doubling phase => simp [phase]

theorem OnSchedule.stamped {loop : AdaptiveLoop}
    (onSchedule : OnSchedule settings loop) (now : Int) :
    OnSchedule settings (loop.stamped now) := by
  cases onSchedule with
  | short phase interval fewer => exact .short phase interval fewer
  | doubling phase interval => exact .doubling phase interval

/-- A bound on the rounds that are left. -/
def AdaptiveLoop.remaining (settings : ProbeSettings) (loop : AdaptiveLoop) : Nat :=
  if loop.phase = .probeShort then
    (settings.probeCount - loop.shortOk).toNat + settings.ceilingMillis.toNat
  else
    (settings.ceilingMillis - loop.intervalMillis).toNat

theorem OnSchedule.answered {loop : AdaptiveLoop}
    (onSchedule : OnSchedule settings loop) :
    (loop.answered settings).phase = .stable ∨
      OnSchedule settings (loop.answered settings) ∧
        (loop.answered settings).remaining settings < loop.remaining settings := by
  have positive := settings.short_pos
  have room := settings.room
  cases onSchedule with
  | short phase interval fewer =>
      refine .inr ?_
      simp only [AdaptiveLoop.answered, phase]
      by_cases enough : settings.probeCount ≤ loop.shortOk + 1
      · rw [AdaptiveLoop.shortAnswered_of_enough enough]
        refine ⟨.doubling rfl ProbeSettings.doubling_zero.symm, ?_⟩
        simp only [AdaptiveLoop.remaining, phase, reduceCtorEq, if_true, if_false]
        omega
      · rw [AdaptiveLoop.shortAnswered_of_fewer (by omega)]
        refine ⟨.short phase interval (by simpa using enough), ?_⟩
        simp only [AdaptiveLoop.remaining, phase, if_true]
        omega
  | @doubling index phase interval =>
      simp only [AdaptiveLoop.answered, phase]
      rcases lt_or_eq_of_le
        (ProbeSettings.doubling_le_ceiling : settings.doubling index ≤ _) with
        below | reached
      · have grows : settings.doubling index < settings.doubling (index + 1) :=
          cappedDoubling_lt_succ positive below
        rw [AdaptiveLoop.probeAnswered_of_below phase interval below]
        refine .inr ⟨.doubling phase rfl, ?_⟩
        simp only [AdaptiveLoop.remaining, phase, reduceCtorEq, if_false]
        omega
      · rw [AdaptiveLoop.probeAnswered_of_ceiling phase interval reached]
        exact .inl rfl

end Remaining

/-- The search can be brought to its end by probes and their answers. -/
def Settles (settings : ProbeSettings) (threshold : Int) (s : AdaptiveSystem) :
    Prop :=
  CanReach (step settings) (Quiet threshold) (fun s => s.loop.phase = .stable) s

/-- However the probe in flight comes to be answered, the search settles. -/
def SettlesOnceAnswered (settings : ProbeSettings) (threshold : Int)
    (loop : AdaptiveLoop) : Prop :=
  ∀ later : AdaptiveSystem, later.loop = loop.answered settings →
    later.position = .waiting → Settles settings threshold later

section Settling

variable {now sentAt : Int} (least : settings.shortMillis ≤ threshold)
  (onSchedule : OnSchedule settings s.loop)
  (isSentAt : s.loop.sentAt = some sentAt)
  (settles : SettlesOnceAnswered settings threshold s.loop)

theorem step_tick_of_waiting (now : Int) (waiting : s.position = .waiting) :
    step settings s (.tick now) = some (s.tick settings now) := by
  simp only [step, waiting]

theorem step_recheck_of_rechecking (rechecking : s.position = .rechecking now) :
    step settings s .recheck = some (s.recheck settings now) := by
  simp only [step, rechecking]

include isSentAt settles in
theorem settles_of_found (rechecking : s.position = .rechecking now)
    (found : sentAt = s.lastReceived) : Settles settings threshold s := by
  refine CanReach.cons (step_recheck_of_rechecking rechecking) trivial ?_
  rw [recheck_of_sentAt isSentAt, if_pos found]
  exact settles _ rfl rfl

include least onSchedule isSentAt in
theorem settles_of_missed (rechecking : s.position = .rechecking now)
    (missed : sentAt ≠ s.lastReceived)
    (windowOver : settings.responseWindow ≤ now - sentAt)
    (beyond : threshold < s.loop.intervalMillis) :
    Settles settings threshold s := by
  refine CanReach.cons (step_recheck_of_rechecking rechecking) trivial ?_
  rw [recheck_of_sentAt isSentAt, if_neg missed, if_pos windowOver]
  cases onSchedule with
  | short phase interval => omega
  | doubling phase interval =>
      have settled : s.loop.unanswered settings = some (s.loop.enterStable settings) := by
        simp [AdaptiveLoop.unanswered, phase]
      rw [settled]
      exact canReach_of_property rfl

include onSchedule isSentAt settles in
theorem settles_of_after (waiting : s.position = .waiting)
    (awaiting : s.loop.awaiting = true) (after : sentAt < s.lastReceived) :
    Settles settings threshold s := by
  refine CanReach.cons (step_tick_of_waiting 0 waiting) ?_ ?_
  · intro stamp _ isStamp _
    cases isSentAt.symm.trans isStamp
    exact after.le
  · rw [tick_of_awaiting onSchedule.probing awaiting isSentAt, if_pos after]
    exact settles _ rfl waiting

include least onSchedule isSentAt settles in
/-- The probe in flight gets its verdict. -/
theorem settles_of_awaiting (waiting : s.position = .waiting)
    (awaiting : s.loop.awaiting = true) : Settles settings threshold s := by
  have unseen : ∀ now, ¬ sentAt < s.lastReceived → s.tick settings now =
      { s with position := .rechecking now } := by
    intro now notAfter
    rw [tick_of_awaiting onSchedule.probing awaiting isSentAt, if_neg notAfter]
  rcases Int.lt_trichotomy s.lastReceived sentAt with unanswered | same | after
  · by_cases within : s.loop.intervalMillis ≤ threshold
    · have receives : step settings s (.receive (sentAt + 1)) =
          some { s with lastReceived := sentAt + 1 } := rfl
      refine CanReach.cons receives
        ⟨waiting, awaiting, within, sentAt, isSentAt, unanswered, by omega⟩ ?_
      exact settles_of_after onSchedule isSentAt settles waiting awaiting
        (Int.lt_succ sentAt)
    · refine CanReach.cons
        (step_tick_of_waiting (sentAt + settings.responseWindow) waiting) ?_ ?_
      · intro stamp _ _ isWithin
        exact absurd isWithin within
      · rw [unseen _ (by omega)]
        exact settles_of_missed least onSchedule isSentAt rfl unanswered.ne'
          (by omega) (Int.not_le.mp within)
  · refine CanReach.cons (step_tick_of_waiting 0 waiting) ?_ ?_
    · intro stamp _ isStamp _
      cases isSentAt.symm.trans isStamp
      exact same.ge
    · rw [unseen 0 (by omega)]
      exact settles_of_found isSentAt settles rfl same.symm
  · exact settles_of_after onSchedule isSentAt settles waiting awaiting after

include least in
/-- From the write of a probe on. -/
theorem settles_of_stamping (onSchedule : OnSchedule settings s.loop)
    (stamping : s.position = .stamping)
    (settles : ∀ stamp, SettlesOnceAnswered settings threshold
      (s.loop.stamped stamp)) : Settles settings threshold s := by
  have stamps : step settings s (.stamp (s.lastReceived + 1)) =
      some { s with
        loop := s.loop.stamped (s.lastReceived + 1), position := .waiting } := by
    simp only [step, stamping]
  refine CanReach.cons stamps (Int.lt_succ _) ?_
  exact settles_of_awaiting least (onSchedule.stamped _) rfl (settles _) rfl rfl

include least in
theorem settles_of_writing (onSchedule : OnSchedule settings s.loop)
    (writing : s.position = .writing)
    (settles : ∀ stamp, SettlesOnceAnswered settings threshold
      (s.loop.stamped stamp)) : Settles settings threshold s := by
  have writes : step settings s .write =
      some { s with position := .storingLastSent } := by
    simp only [step, writing]
  have stores : step settings { s with position := .storingLastSent }
      (.storeLastSent 0) =
      some { s with lastSent := 0, position := .stamping } := rfl
  refine CanReach.cons writes trivial (CanReach.cons stores trivial ?_)
  exact settles_of_stamping least onSchedule rfl settles

include least in
/-- Round by round, from a loop that has no probe in flight. -/
theorem settles_of_rest (onSchedule : OnSchedule settings s.loop)
    (waiting : s.position = .waiting) (rest : s.loop.awaiting = false) :
    Settles settings threshold s := by
  induction bound : s.loop.remaining settings using Nat.strong_induction_on
    generalizing s with
  | _ bound ih =>
      have settles : ∀ stamp, SettlesOnceAnswered settings threshold
          (s.loop.stamped stamp) := by
        intro stamp later answered laterWaiting
        have stamped := onSchedule.stamped stamp
        have sameBound : (s.loop.stamped stamp).remaining settings =
            s.loop.remaining settings := rfl
        rcases stamped.answered with stable | ⟨goesOn, fewer⟩
        · exact canReach_of_property (by rw [answered, stable])
        · refine ih (later.loop.remaining settings) ?_ (answered ▸ goesOn)
            laterWaiting ?_ rfl
          · rw [answered]
            omega
          · rw [answered]
            exact AdaptiveLoop.awaiting_answered stamped.probing
      have due : s.tick settings
          (s.lastSent + milliseconds s.loop.intervalMillis) =
          { s with position := .writing } := by
        simp [AdaptiveSystem.tick, onSchedule.probing, rest, probeAfter]
      refine CanReach.cons (step_tick_of_waiting
        (s.lastSent + milliseconds s.loop.intervalMillis) waiting) ?_ ?_
      · intro _ awaiting
        cases rest.symm.trans awaiting
      · rw [due]
        exact settles_of_writing least onSchedule rfl settles

include least in
theorem settlesOnceAnswered {loop : AdaptiveLoop}
    (onSchedule : OnSchedule settings loop) :
    SettlesOnceAnswered settings threshold loop := by
  intro later answered waiting
  rcases onSchedule.answered with stable | ⟨goesOn, -⟩
  · exact canReach_of_property (by rw [answered, stable])
  · refine settles_of_rest least (answered ▸ goesOn) waiting ?_
    rw [answered]
    exact AdaptiveLoop.awaiting_answered onSchedule.probing

include least onSchedule in
/-- Wherever a running loop stands, its search can be brought to its end. -/
theorem settles_of_running (poised : s.Poised)
    (looked : Looked settings threshold s) (running : s.position ≠ .stopped) :
    Settles settings threshold s := by
  have settles := settlesOnceAnswered least onSchedule
  have onceSent : ∀ stamp, SettlesOnceAnswered settings threshold
      (s.loop.stamped stamp) :=
    fun stamp => settlesOnceAnswered least (onSchedule.stamped stamp)
  unfold Poised at poised
  cases position : s.position with
  | waiting =>
      rw [position] at poised
      cases awaiting : s.loop.awaiting with
      | false => exact settles_of_rest least onSchedule position awaiting
      | true =>
          obtain ⟨sentAt, isSentAt⟩ := poised awaiting
          exact settles_of_awaiting least onSchedule isSentAt settles position
            awaiting
  | rechecking now =>
      rw [position] at poised
      obtain ⟨awaiting, sentAt, isSentAt⟩ := poised
      by_cases found : sentAt = s.lastReceived
      · exact settles_of_found isSentAt settles position found
      · by_cases windowOver : settings.responseWindow ≤ now - sentAt
        · refine settles_of_missed least onSchedule isSentAt position found
            windowOver ?_
          by_contra within
          exact found
            (looked now sentAt onSchedule.probing position isSentAt
              (Int.not_lt.mp within) windowOver)
        · refine CanReach.cons (step_recheck_of_rechecking position) trivial ?_
          rw [recheck_of_sentAt isSentAt, if_neg found, if_neg windowOver]
          exact settles_of_awaiting least onSchedule isSentAt settles rfl awaiting
  | writing => exact settles_of_writing least onSchedule position onceSent
  | storingLastSent =>
      have stores : step settings s (.storeLastSent 0) =
          some { s with lastSent := 0, position := .stamping } := by
        simp only [step, position]
      refine CanReach.cons stores trivial ?_
      exact settles_of_stamping least onSchedule rfl onceSent
  | stamping => exact settles_of_stamping least onSchedule position onceSent
  | lost =>
      rw [position] at poised
      exact poised.elim
  | stopped => exact absurd position running

end Settling

end Client

end RmttGo
