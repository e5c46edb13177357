import RmttGo.AdaptiveKeepalive

/-!
# What the adaptive loop makes of an answered probe

The loop takes the time of a probe after it has written the PINGREQ, and later
asks whether the latest packet came in at or after that time.  A reply that
overtakes the stamp is not seen.  The question is answered with two looks at a
clock that the reader may move in between.
-/

namespace RmttGo

namespace Client

open EventRun

/-- A step and the time at which it is taken. -/
structure TimedEvent where
  time : Int
  event : AdaptiveEvent
  deriving DecidableEq, Repr

/-- What became of the latest probe, if a probing phase sent it. -/
structure ProbeLog where
  clock : Int
  /-- When its PINGREQ was written. -/
  writtenAt : Option Int
  /-- A packet has come in since then, within the response window. -/
  arrived : Bool
  /-- A tick has come since the arrival. -/
  ticked : Bool
  /-- Whether the loop took the probe for answered, once it has decided. -/
  verdict : Option Bool
  deriving DecidableEq, Repr

namespace AdaptiveSystem

variable (settings : ProbeSettings)

def timedStep (s : AdaptiveSystem) (timed : TimedEvent) :
    Option AdaptiveSystem :=
  step settings s timed.event

/-- What the step decides about the probe the loop awaits. -/
def decision (s later : AdaptiveSystem) : Option Bool :=
  if later.position = .lost then
    some false
  else if s.loop.awaiting ∧ ¬ later.loop.awaiting then
    some (decide (later.loop = s.loop.answered settings))
  else
    none

def noteProbe (s : AdaptiveSystem) (timed : TimedEvent) (later : AdaptiveSystem)
    (log : ProbeLog) : ProbeLog :=
  let log := { log with clock := timed.time }
  match timed.event with
  | .write =>
      { log with
        writtenAt := if s.loop.phase = .stable then none else some timed.time
        arrived := false
        ticked := false
        verdict := none }
  | .receive _ =>
      { log with
        arrived := log.arrived ||
          log.writtenAt.any (timed.time < · + settings.responseWindow) }
  | .tick _ =>
      { log with
        ticked := log.arrived
        verdict := log.verdict <|> decision settings s later }
  | .recheck => { log with verdict := log.verdict <|> decision settings s later }
  | _ => log

def untracked (clock : Int) : ProbeLog :=
  ⟨clock, none, false, false, none⟩

/-- The clock does not go back.  A tick carries the time at which the ticker
sent it, the other steps the time at which they are taken. -/
def OnClock (s : AdaptiveSystem × ProbeLog) (timed : TimedEvent) : Prop :=
  s.2.clock ≤ timed.time ∧
    match timed.event with
    | .tick now => now ≤ timed.time
    | .storeLastSent now | .stamp now | .push now | .receive now =>
        now = timed.time
    | _ => True

/-- At the first tick behind the arrival the latest packet is no older than the
stamp, and no packet moves the clock between two looks that would have found
it at the stamp. -/
def Seen (s : AdaptiveSystem × ProbeLog) (timed : TimedEvent) : Prop :=
  match timed.event with
  | .tick _ =>
      s.2.arrived = true → s.2.verdict = none →
        s.1.loop.sentAt.all (· ≤ s.1.lastReceived)
  | .receive now =>
      s.2.ticked = true → s.2.verdict = none →
        s.1.loop.sentAt = some s.1.lastReceived → now = s.1.lastReceived
  | _ => True

/-- A probe with an arrival is not taken for unanswered, and is taken for
answered when the first tick behind the arrival has been handled. -/
def CountsAnswered (s : AdaptiveSystem × ProbeLog) : Prop :=
  s.2.arrived = true →
    s.2.verdict ≠ some false ∧
      (s.2.ticked = true → s.1.position = .waiting → s.2.verdict = some true)

end AdaptiveSystem

variable {settings : ProbeSettings}

/-- Where the loop stands with a probe it has stamped and not yet decided. -/
def AdaptivePosition.Undecided (window sentAt lastReceived : Int)
    (log : ProbeLog) : AdaptivePosition → Prop
  | .waiting => log.ticked = false
  | .rechecking now =>
      now ≤ log.clock ∧ (log.ticked = true → sentAt = lastReceived) ∧
        (log.ticked = false → log.arrived = true → now < sentAt + window)
  | .stopped => True
  | _ => False

theorem AdaptivePosition.Undecided.advance {position : AdaptivePosition}
    {window sentAt lastReceived time : Int} {log : ProbeLog}
    (undecided : position.Undecided window sentAt lastReceived log)
    (clock : log.clock ≤ time) :
    position.Undecided window sentAt lastReceived { log with clock := time } := by
  cases position with
  | rechecking now =>
      obtain ⟨past, found, early⟩ := undecided
      exact ⟨Int.le_trans past clock, found, early⟩
  | _ => exact undecided

/-- What the log says, given where the loop stands. -/
inductive Followed (settings : ProbeSettings) (s : AdaptiveSystem)
    (log : ProbeLog) : Prop
  | untracked (nothing : log.writtenAt = none) (silent : log.arrived = false)
  | counted (verdict : log.verdict = some true)
  | failed {writtenAt : Int} (verdict : log.verdict = some false)
      (silent : log.arrived = false) (written : log.writtenAt = some writtenAt)
      (windowOver : writtenAt + settings.responseWindow ≤ log.clock)
  | sending {writtenAt : Int} (verdict : log.verdict = none)
      (written : log.writtenAt = some writtenAt) (past : writtenAt ≤ log.clock)
      (probing : s.loop.phase ≠ .stable) (ticked : log.ticked = false)
      (position : s.position = .storingLastSent ∨ s.position = .stamping)
  | pending {writtenAt sentAt : Int} (verdict : log.verdict = none)
      (written : log.writtenAt = some writtenAt) (stamped : writtenAt ≤ sentAt)
      (probing : s.loop.phase ≠ .stable) (awaiting : s.loop.awaiting = true)
      (isSentAt : s.loop.sentAt = some sentAt)
      (position : s.position.Undecided settings.responseWindow sentAt
        s.lastReceived log)

namespace Followed

open AdaptiveSystem

variable {s later : AdaptiveSystem} {log : ProbeLog} {timed : TimedEvent}

theorem countsAnswered (followed : Followed settings s log) :
    CountsAnswered (s, log) := by
  intro (arrived : log.arrived = true)
  cases followed with
  | untracked nothing silent => cases silent.symm.trans arrived
  | counted verdict => simp [verdict]
  | failed verdict silent => cases silent.symm.trans arrived
  | sending verdict written past probing ticked => simp [verdict, ticked]
  | pending verdict written stamped probing awaiting isSentAt position =>
      refine ⟨by simp [verdict], ?_⟩
      intro (ticked : log.ticked = true) (waiting : s.position = .waiting)
      rw [waiting] at position
      cases ticked.symm.trans position

/-- A probe is on its way, or one of the stable phase, which asks for no
answer. -/
theorem write (time : Int) (position : later.position = .storingLastSent)
    (sameLoop : later.loop = s.loop) :
    Followed settings later
      (noteProbe settings s ⟨time, .write⟩ later log) := by
  by_cases stable : s.loop.phase = .stable
  · exact .untracked (if_pos stable) rfl
  · exact .sending rfl (if_neg stable) (Int.le_refl _) (by rwa [sameLoop]) rfl
      (.inl position)

/-- The probe has got its verdict, so nothing but a new probe matters. -/
theorem decided {verdict : Bool} (isVerdict : log.verdict = some verdict)
    (notWrite : timed.event ≠ .write) :
    (noteProbe settings s timed later log).verdict = some verdict := by
  unfold noteProbe
  split <;> simp_all

theorem same_writtenAt (notWrite : timed.event ≠ .write) :
    (noteProbe settings s timed later log).writtenAt = log.writtenAt := by
  unfold noteProbe
  split <;> simp_all

theorem clock_noteProbe :
    (noteProbe settings s timed later log).clock = timed.time := by
  unfold noteProbe
  split <;> rfl

/-- Nothing that comes after the window counts as an arrival. -/
theorem still_silent (silent : log.arrived = false)
    (late : ∀ writtenAt, log.writtenAt = some writtenAt →
      writtenAt + settings.responseWindow ≤ timed.time) :
    (noteProbe settings s timed later log).arrived = false := by
  unfold noteProbe
  split
  · rfl
  · cases written : log.writtenAt with
    | none => simp [silent]
    | some writtenAt => simpa [silent] using late writtenAt written
  · exact silent
  · exact silent
  · exact silent

/-- The loop takes the probe for answered. -/
theorem decision_answered (probing : s.loop.phase ≠ .stable)
    (awaiting : s.loop.awaiting = true)
    (answered : later.loop = s.loop.answered settings)
    (waiting : later.position = .waiting) :
    decision settings s later = some true := by
  simp [decision, waiting, awaiting, answered,
    AdaptiveLoop.awaiting_answered probing]

section Pending

variable {writtenAt sentAt now time : Int} (verdict : log.verdict = none)
  (written : log.writtenAt = some writtenAt) (stamped : writtenAt ≤ sentAt)
  (probing : s.loop.phase ≠ .stable) (awaiting : s.loop.awaiting = true)
  (isSentAt : s.loop.sentAt = some sentAt)

include verdict written stamped probing awaiting isSentAt

theorem tick (waiting : s.position = .waiting) (onTime : now ≤ time)
    (seen : Seen (s, log) ⟨time, .tick now⟩) :
    Followed settings (s.tick settings now)
      (noteProbe settings s ⟨time, .tick now⟩ (s.tick settings now) log) := by
  rw [tick_of_awaiting probing awaiting isSentAt]
  split
  · have counts : decision settings s
        { s with loop := s.loop.answered settings } = some true :=
      decision_answered probing awaiting rfl waiting
    exact .counted (by simp [noteProbe, verdict, counts])
  · rename_i notAfter
    have undecided : decision settings s
        { s with position := .rechecking now } = none := by
      simp [decision, awaiting]
    refine .pending (by simp [noteProbe, verdict, undecided]) written stamped
      probing awaiting isSentAt ⟨onTime, ?_, ?_⟩
    · intro (arrived : log.arrived = true)
      have fresh := seen arrived verdict
      simp only [isSentAt, Option.all_some, decide_eq_true_eq] at fresh
      exact Int.le_antisymm fresh (Int.not_lt.mp notAfter)
    · intro (silent : log.arrived = false) (arrived : log.arrived = true)
      cases silent.symm.trans arrived

theorem recheck (rechecking : s.position = .rechecking now)
    (clock : log.clock ≤ time)
    (position : s.position.Undecided settings.responseWindow sentAt
      s.lastReceived log) :
    Followed settings (s.recheck settings now)
      (noteProbe settings s ⟨time, .recheck⟩ (s.recheck settings now) log) := by
  rw [rechecking] at position
  obtain ⟨past, found, early⟩ := position
  rw [recheck_of_sentAt isSentAt]
  split
  · have counts : decision settings s
        { s with loop := s.loop.answered settings, position := .waiting } =
          some true :=
      decision_answered probing awaiting rfl rfl
    exact .counted (by simp [noteProbe, verdict, counts])
  rename_i notFound
  have unticked : log.ticked = false := by
    by_contra ticked
    exact notFound (found (by simpa using ticked))
  split
  · rename_i windowOver
    have silent : log.arrived = false := by
      by_contra arrived
      have := early unticked (by simpa using arrived)
      omega
    have isOver : writtenAt + settings.responseWindow ≤ time := by omega
    have decides : ∀ later, decision settings s later = some false →
        Followed settings later (noteProbe settings s ⟨time, .recheck⟩ later log) := by
      intro later isFalse
      exact .failed (by simp [noteProbe, verdict, isFalse]) silent written isOver
    cases failed : s.loop.unanswered settings with
    | none => exact decides _ (by simp [decision])
    | some loop =>
        have settled := AdaptiveLoop.awaiting_unanswered probing failed
        by_cases same : loop = s.loop.answered settings
        · have counts : decision settings s { s with loop, position := .waiting } =
              some true :=
            decision_answered probing awaiting same rfl
          exact .counted (by simp [noteProbe, verdict, counts])
        · exact decides _ (by simp [decision, awaiting, settled, same])
  · have undecided : decision settings s { s with position := .waiting } = none := by
      simp [decision, awaiting]
    exact .pending (by simp [noteProbe, verdict, undecided]) written stamped
      probing awaiting isSentAt unticked

theorem receive (clock : log.clock ≤ time)
    (seen : Seen (s, log) ⟨time, .receive now⟩)
    (position : s.position.Undecided settings.responseWindow sentAt
      s.lastReceived log) :
    Followed settings { s with lastReceived := now }
      (noteProbe settings s ⟨time, .receive now⟩ { s with lastReceived := now }
        log) := by
  refine .pending verdict written stamped probing awaiting isSentAt ?_
  cases place : s.position with
  | waiting =>
      rw [place] at position
      exact position
  | rechecking tickTime =>
      rw [place] at position
      obtain ⟨past, found, early⟩ := position
      refine ⟨Int.le_trans past clock, ?_, ?_⟩
      · intro ticked
        have same := found ticked
        rw [seen ticked verdict (by simp [isSentAt, same])]
        exact same
      · intro unticked arrived
        simp only [noteProbe, written, Option.any_some, Bool.or_eq_true,
          decide_eq_true_eq] at arrived
        rcases arrived with arrived | inTime
        · exact early unticked arrived
        · omega
  | stopped => trivial
  | writing => rw [place] at position; cases position
  | storingLastSent => rw [place] at position; cases position
  | stamping => rw [place] at position; cases position
  | lost => rw [place] at position; cases position

end Pending

theorem next (followed : Followed settings s log)
    (onClock : OnClock (s, log) timed) (seen : Seen (s, log) timed)
    (stepTo : StepTo settings s timed.event later) :
    Followed settings later (noteProbe settings s timed later log) := by
  obtain ⟨time, event⟩ := timed
  obtain ⟨clock, reading⟩ := onClock
  by_cases isWrite : event = .write
  · subst isWrite
    cases stepTo
    exact write time rfl rfl
  cases followed with
  | untracked nothing silent =>
      refine .untracked (by rwa [same_writtenAt isWrite])
        (still_silent silent ?_)
      intro writtenAt written
      cases nothing.symm.trans written
  | counted verdict => exact .counted (decided verdict isWrite)
  | failed verdict silent written windowOver =>
      refine .failed (decided verdict isWrite) (still_silent silent ?_)
        (by rwa [same_writtenAt isWrite]) ?_
      · intro _ isWritten
        cases written.symm.trans isWritten
        exact Int.le_trans windowOver clock
      · rw [clock_noteProbe]
        exact Int.le_trans windowOver clock
  | sending verdict written past probing ticked position =>
      cases stepTo with
      | write writing => exact absurd rfl isWrite
      | storeLastSent storing =>
          exact .sending verdict written (Int.le_trans past clock) probing ticked
            (.inr rfl)
      | stamp stamping =>
          obtain rfl := reading
          exact .pending verdict written (Int.le_trans past clock) probing rfl rfl
            ticked
      | push =>
          exact .sending verdict written (Int.le_trans past clock) probing ticked
            position
      | receive =>
          exact .sending verdict written (Int.le_trans past clock) probing ticked
            position
      | tick waiting =>
          rcases position with place | place <;> cases waiting.symm.trans place
      | stop waiting =>
          rcases position with place | place <;> cases waiting.symm.trans place
      | recheck rechecking =>
          rcases position with place | place <;> cases rechecking.symm.trans place
  | pending verdict written stamped probing awaiting isSentAt position =>
      cases stepTo with
      | tick waiting =>
          exact tick verdict written stamped probing awaiting isSentAt waiting
            reading seen
      | recheck rechecking =>
          exact recheck verdict written stamped probing awaiting isSentAt
            rechecking clock position
      | receive =>
          exact receive verdict written stamped probing awaiting isSentAt clock
            seen position
      | stop waiting =>
          exact .pending verdict written stamped probing awaiting isSentAt trivial
      | push =>
          exact .pending verdict written stamped probing awaiting isSentAt
            (position.advance clock)
      | write writing => exact absurd rfl isWrite
      | storeLastSent storing => rw [storing] at position; cases position
      | stamp stamping => rw [stamping] at position; cases position

end Followed

namespace AdaptiveSystem

/-- In every run on a clock that does not go back, a probe that gets its answer
within the response window counts as answered, as long as the answer is seen. -/
theorem answered_probe_counts {lastSent lastReceived clock : Int}
    {events : List TimedEvent} {s : AdaptiveSystem × ProbeLog}
    (onClock : Meets (recorded (timedStep settings) (noteProbe settings)) OnClock
      (start settings lastSent lastReceived, untracked clock) events)
    (seen : Meets (recorded (timedStep settings) (noteProbe settings)) Seen
      (start settings lastSent lastReceived, untracked clock) events)
    (executed : run (recorded (timedStep settings) (noteProbe settings))
      (start settings lastSent lastReceived, untracked clock) events = some s) :
    CountsAnswered s := by
  have followed : Followed settings s.1 s.2 := by
    refine invariant_of_meets (fun s => Followed settings s.1 s.2) ?_
      (.untracked rfl rfl) (onClock.and seen) executed
    rintro ⟨state, log⟩ _ timed followed ⟨onClockNow, seenNow⟩ recordedStep
    obtain ⟨later, stepped, rfl⟩ := recorded_eq_some.mp recordedStep
    exact followed.next onClockNow seenNow (stepTo_of_step stepped)
  exact followed.countsAnswered

instance decidableOnClock (s : AdaptiveSystem × ProbeLog) :
    DecidablePred (OnClock s)
  | ⟨_, .tick _⟩ | ⟨_, .storeLastSent _⟩ | ⟨_, .stamp _⟩ | ⟨_, .push _⟩
  | ⟨_, .receive _⟩ => inferInstanceAs (Decidable (_ ∧ _))
  | ⟨_, .recheck⟩ | ⟨_, .write⟩ | ⟨_, .stop⟩ => inferInstanceAs (Decidable (_ ∧ True))

instance decidableSeen (s : AdaptiveSystem × ProbeLog) : DecidablePred (Seen s)
  | ⟨_, .tick _⟩ => inferInstanceAs (Decidable (_ → _ → _))
  | ⟨_, .receive _⟩ => inferInstanceAs (Decidable (_ → _ → _ → _))
  | ⟨_, .storeLastSent _⟩ | ⟨_, .stamp _⟩ | ⟨_, .push _⟩ | ⟨_, .recheck⟩
  | ⟨_, .write⟩ | ⟨_, .stop⟩ => inferInstanceAs (Decidable True)

/-- The answer comes in one nanosecond behind the stamp. -/
theorem answered_probe_counts_in_order :
    ∃ s, run (recorded (timedStep quickProbes) (noteProbe quickProbes))
          (start quickProbes 0 0, untracked 0)
          [⟨1000000000, .tick 1000000000⟩, ⟨1000000001, .write⟩,
            ⟨1000000002, .storeLastSent 1000000002⟩,
            ⟨1000000003, .stamp 1000000003⟩, ⟨1000000004, .receive 1000000004⟩,
            ⟨3250000000, .tick 3250000000⟩] = some s ∧
      s.2.arrived = true ∧ s.2.ticked = true ∧ s.1.position = .waiting ∧
      s.2.verdict = some true := by
  let events : List TimedEvent :=
    [⟨1000000000, .tick 1000000000⟩, ⟨1000000001, .write⟩,
      ⟨1000000002, .storeLastSent 1000000002⟩, ⟨1000000003, .stamp 1000000003⟩,
      ⟨1000000004, .receive 1000000004⟩, ⟨3250000000, .tick 3250000000⟩]
  have onClock : Meets (recorded (timedStep quickProbes) (noteProbe quickProbes))
      OnClock (start quickProbes 0 0, untracked 0) events := by decide +kernel
  have seen : Meets (recorded (timedStep quickProbes) (noteProbe quickProbes))
      Seen (start quickProbes 0 0, untracked 0) events := by decide +kernel
  have outcome : (run (recorded (timedStep quickProbes) (noteProbe quickProbes))
      (start quickProbes 0 0, untracked 0) events).map
        (fun s => (s.2.arrived, s.2.ticked, s.1.position)) =
      some (true, true, .waiting) := by decide +kernel
  obtain ⟨s, executed, facts⟩ := Option.map_eq_some_iff.mp outcome
  simp only [Prod.mk.injEq] at facts
  obtain ⟨arrived, ticked, waiting⟩ := facts
  exact ⟨s, executed, arrived, ticked, waiting,
    (answered_probe_counts onClock seen executed arrived).2 ticked waiting⟩

/-- The answer comes in between the write and the stamp: two seconds later the
connection is given up, although the server has answered at once. -/
theorem overtaken_stamp_gives_up :
    ∃ s, run (recorded (timedStep quickProbes) (noteProbe quickProbes))
          (start quickProbes 0 0, untracked 0)
          [⟨1000000000, .tick 1000000000⟩, ⟨1000000001, .write⟩,
            ⟨1000000002, .receive 1000000002⟩,
            ⟨1000000003, .storeLastSent 1000000003⟩,
            ⟨1000000004, .stamp 1000000004⟩, ⟨3250000000, .tick 3250000000⟩,
            ⟨3250000001, .recheck⟩] = some s ∧
      Meets (recorded (timedStep quickProbes) (noteProbe quickProbes)) OnClock
        (start quickProbes 0 0, untracked 0)
        [⟨1000000000, .tick 1000000000⟩, ⟨1000000001, .write⟩,
          ⟨1000000002, .receive 1000000002⟩,
          ⟨1000000003, .storeLastSent 1000000003⟩,
          ⟨1000000004, .stamp 1000000004⟩, ⟨3250000000, .tick 3250000000⟩,
          ⟨3250000001, .recheck⟩] ∧
      s.1.position = .lost ∧ ¬ CountsAnswered s := by
  let events : List TimedEvent :=
    [⟨1000000000, .tick 1000000000⟩, ⟨1000000001, .write⟩,
      ⟨1000000002, .receive 1000000002⟩,
      ⟨1000000003, .storeLastSent 1000000003⟩, ⟨1000000004, .stamp 1000000004⟩,
      ⟨3250000000, .tick 3250000000⟩, ⟨3250000001, .recheck⟩]
  have onClock : Meets (recorded (timedStep quickProbes) (noteProbe quickProbes))
      OnClock (start quickProbes 0 0, untracked 0) events := by decide +kernel
  have outcome : (run (recorded (timedStep quickProbes) (noteProbe quickProbes))
      (start quickProbes 0 0, untracked 0) events).map
        (fun s => (s.2.arrived, s.2.verdict, s.1.position)) =
      some (true, some false, .lost) := by decide +kernel
  obtain ⟨s, executed, facts⟩ := Option.map_eq_some_iff.mp outcome
  simp only [Prod.mk.injEq] at facts
  obtain ⟨arrived, verdict, lost⟩ := facts
  exact ⟨s, executed, onClock, lost, fun counts => (counts arrived).1 verdict⟩

end AdaptiveSystem

end Client

end RmttGo
