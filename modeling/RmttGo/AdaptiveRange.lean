import RmttGo.AdaptiveKeepalive

/-!
# The adaptive heartbeat stays in its range

The intervals the loop probes and the heartbeat it settles at lie between the
short period and the ceiling, in every state of every run.  The phase in which
an interval grows without a cap is never entered.
-/

namespace RmttGo

namespace Client

variable {settings : ProbeSettings}

/-- Between the short period and the ceiling. -/
def ProbeSettings.Within (settings : ProbeSettings) (millis : Int) : Prop :=
  settings.shortMillis ≤ millis ∧ millis ≤ settings.ceilingMillis

theorem ProbeSettings.within_short (settings : ProbeSettings) :
    settings.Within settings.shortMillis :=
  ⟨Int.le_refl _, Int.le_of_lt settings.room⟩

namespace AdaptiveLoop

variable {loop after : AdaptiveLoop}

structure InRange (settings : ProbeSettings) (loop : AdaptiveLoop) : Prop where
  notFine : loop.phase ≠ .probeFine
  interval : settings.Within loop.intervalMillis
  lastSuccess : loop.lastSuccessMillis = 0 ∨
    settings.Within loop.lastSuccessMillis
  settled : loop.phase = .stable → settings.Within loop.successHeartMillis

theorem start_inRange : InRange settings (start settings) where
  notFine := nofun
  interval := settings.within_short
  lastSuccess := .inl rfl
  settled := nofun

theorem within_ninetyPercent {millis : Int} (within : settings.Within millis) :
    (int64 (millis * 9)).tdiv 10 ≤ settings.ceilingMillis := by
  obtain ⟨above, below⟩ := within
  have short := settings.short_ge
  have ceiling := settings.ceiling_le
  rw [int64_of_nonneg (by omega) (by omega),
    Int.tdiv_eq_ediv_of_nonneg (by omega)]
  omega

theorem InRange.enterStable (inRange : loop.InRange settings) :
    (loop.enterStable settings).InRange settings where
  notFine := nofun
  interval := inRange.interval
  lastSuccess := inRange.lastSuccess
  settled := by
    intro _
    have short := settings.within_short
    change settings.Within (ite _ _ _)
    split
    · rename_i positive
      rcases inRange.lastSuccess with zero | within
      · omega
      · have below := within_ninetyPercent within
        split
        · exact short
        · exact ⟨by omega, below⟩
    · exact short

theorem InRange.shortAnswered (inRange : loop.InRange settings) :
    (loop.shortAnswered settings).InRange settings := by
  unfold AdaptiveLoop.shortAnswered
  simp only
  split
  · exact ⟨nofun, settings.within_short, .inr settings.within_short, nofun⟩
  · exact ⟨inRange.notFine, inRange.interval, inRange.lastSuccess,
      inRange.settled⟩

/-- The fine phase has no such cap. -/
theorem nextMillis_le_ceiling (doubling : loop.phase = .probeDoubling) :
    loop.nextMillis settings ≤ settings.ceilingMillis := by
  unfold nextMillis
  rw [if_pos doubling]
  simp only
  split <;> omega

theorem InRange.probeAnswered (inRange : loop.InRange settings)
    (doubling : loop.phase = .probeDoubling) :
    (loop.probeAnswered settings).InRange settings := by
  have succeeded : InRange settings
      { loop with awaiting := false, lastSuccessMillis := loop.intervalMillis } :=
    ⟨inRange.notFine, inRange.interval, .inr inRange.interval, inRange.settled⟩
  unfold AdaptiveLoop.probeAnswered
  simp only
  split
  · exact succeeded.enterStable
  · rename_i grown
    have above := Int.le_trans inRange.interval.1
      (Int.le_of_lt (Int.lt_of_not_ge grown))
    exact ⟨succeeded.notFine, ⟨above, nextMillis_le_ceiling doubling⟩,
      succeeded.lastSuccess, succeeded.settled⟩

theorem InRange.answered (inRange : loop.InRange settings) :
    (loop.answered settings).InRange settings := by
  unfold AdaptiveLoop.answered
  split
  case h_1 => exact inRange.shortAnswered
  case h_2 doubling => exact inRange.probeAnswered doubling
  case h_3 fine => exact absurd fine inRange.notFine
  case h_4 => exact inRange

theorem InRange.unanswered (inRange : loop.InRange settings)
    (failed : loop.unanswered settings = some after) :
    after.InRange settings := by
  unfold AdaptiveLoop.unanswered at failed
  split at failed
  · cases failed
  · cases failed
    exact inRange.enterStable
  · cases failed
    exact inRange.enterStable
  · cases failed
    exact inRange

theorem InRange.step (inRange : loop.InRange settings)
    (stepped : loop.Step settings after) : after.InRange settings := by
  cases stepped with
  | same => exact inRange
  | stamped now =>
      exact ⟨inRange.notFine, inRange.interval, inRange.lastSuccess,
        inRange.settled⟩
  | answered => exact inRange.answered
  | unanswered failed => exact inRange.unanswered failed
  | readapted => exact start_inRange

end AdaptiveLoop

theorem ceiling_le_of_probing {options : AdaptiveOptions} {serverKp : UInt16}
    (entered : adaptiveKeepalive options serverKp = .probing settings) :
    settings.ceilingMillis ≤ 1000 * serverKp.toNat := by
  unfold adaptiveKeepalive at entered
  simp only at entered
  split at entered
  · cases entered
  · rename_i positive
    split at entered
    · cases entered
    · cases entered
      have ceiling := options.ceilingMillis_le positive
      simp only
      omega

namespace AdaptiveSystem

/-- In every run of the loop, whatever the options, the intervals stay between
the short period and the ceiling, which the keepalive of the server bounds. -/
theorem stays_in_range {options : AdaptiveOptions} {serverKp : UInt16}
    {lastSent lastReceived : Int} {events : List AdaptiveEvent}
    {s : AdaptiveSystem}
    (entered : adaptiveKeepalive options serverKp = .probing settings)
    (executed : EventRun.run (step settings)
      (start settings lastSent lastReceived) events = some s) :
    settings.shortMillis ≤ s.loop.intervalMillis ∧
      s.loop.intervalMillis ≤ settings.ceilingMillis ∧
      settings.ceilingMillis ≤ 1000 * serverKp.toNat ∧
      (s.loop.lastSuccessMillis = 0 ∨
        settings.shortMillis ≤ s.loop.lastSuccessMillis ∧
          s.loop.lastSuccessMillis ≤ settings.ceilingMillis) ∧
      (s.loop.phase = .stable →
        settings.shortMillis ≤ s.loop.successHeartMillis ∧
          s.loop.successHeartMillis ≤ settings.ceilingMillis) := by
  have inRange : s.loop.InRange settings :=
    EventRun.invariant (fun s => s.loop.InRange settings)
      (fun inRange stepped => inRange.step (loopStep_of_step stepped))
      AdaptiveLoop.start_inRange executed
  exact ⟨inRange.interval.1, inRange.interval.2, ceiling_le_of_probing entered,
    inRange.lastSuccess, inRange.settled⟩

/-- Two probes of ten seconds are answered and one of fifteen is not: nine tenths
of ten lie below the short period, so the loop settles at ten. -/
theorem stays_in_range_fifteen :
    ∃ settings s events,
      adaptiveKeepalive ⟨10, 300, 1, 2000000000, 5⟩ 15 = .probing settings ∧
      EventRun.run (step settings) (start settings 0 0) events = some s ∧
      s.loop = ⟨.stable, 1, 15000, 10000, 10000, none, false⟩ ∧
      settings.shortMillis ≤ s.loop.successHeartMillis ∧
      s.loop.successHeartMillis ≤ settings.ceilingMillis := by
  let settings : ProbeSettings :=
    ⟨10000, 15000, 1, 2000000000, 5000, by decide, by decide, by decide,
      by decide, by decide, by decide⟩
  let events : List AdaptiveEvent :=
    [.tick 10000000000, .write, .storeLastSent 10000000000, .stamp 10000000000,
      .receive 10100000000, .tick 10250000000,
      .tick 20000000000, .write, .storeLastSent 20000000000, .stamp 20000000000,
      .receive 20100000000, .tick 20250000000,
      .tick 35250000000, .write, .storeLastSent 35250000000, .stamp 35250000000,
      .tick 37250000000, .recheck]
  have entered :
      adaptiveKeepalive ⟨10, 300, 1, 2000000000, 5⟩ 15 = .probing settings := by
    decide +kernel
  have outcome :
      (EventRun.run (step settings) (start settings 0 0) events).map (·.loop) =
        some ⟨.stable, 1, 15000, 10000, 10000, none, false⟩ := by
    decide +kernel
  obtain ⟨s, executed, settled⟩ := Option.map_eq_some_iff.mp outcome
  obtain ⟨_, _, _, _, heart⟩ := stays_in_range entered executed
  exact ⟨settings, s, events, entered, executed, settled,
    heart (by rw [settled])⟩

end AdaptiveSystem

end Client

end RmttGo
