import Mathlib.Algebra.Ring.Int.Defs
import Mathlib.Algebra.Ring.Nat
import RmttGo.EventRuns

/-!
# The adaptive keepalive loop

`adaptiveKeepalive` probes for the longest heartbeat the network sustains.  The
loop reads two clocks that the sender and the receiver of packets set, so the
steps in which it reads and sets them are separate: a packet may come in between
any two of them.  Numbers are `int64` and durations are in nanoseconds.
-/

namespace RmttGo

namespace Client

/-- What an `int64` keeps of a number. -/
def int64 (number : Int) : Int :=
  number.bmod (2 ^ 64)

theorem int64_of_nonneg {number : Int} (nonnegative : 0 ≤ number)
    (small : number < 2 ^ 63) : int64 number = number := by
  rw [int64, Int.bmod_eq_emod_of_lt] <;> omega

/-- `time.Duration(millis) * time.Millisecond`. -/
def milliseconds (millis : Int) : Int :=
  int64 (millis * 1000000)

section Settings

/-- What the loop reads of `ClientOptions`; seconds, but for the window. -/
structure AdaptiveOptions where
  adaptiveShort : Int
  adaptiveMax : Int
  probeCount : Int
  responseWindow : Int
  fineStep : Int
  deriving DecidableEq, Repr

/-- The constants of a loop that is entered. -/
structure ProbeSettings where
  shortMillis : Int
  ceilingMillis : Int
  probeCount : Int
  responseWindow : Int
  fineStepMillis : Int
  short_ge : 1000 ≤ shortMillis
  room : shortMillis < ceilingMillis
  ceiling_le : ceilingMillis ≤ 65535000
  probeCount_pos : 1 ≤ probeCount
  responseWindow_pos : 0 < responseWindow
  fineStep_ge : 1000 ≤ fineStepMillis
  deriving DecidableEq

/-- A number of seconds in milliseconds, but no less than `least`. -/
def millisAtLeast (least seconds : Int) : Int :=
  let millis := int64 (seconds * 1000)
  if millis < least then least else millis

theorem le_millisAtLeast (least seconds : Int) :
    least ≤ millisAtLeast least seconds := by
  unfold millisAtLeast
  simp only
  split <;> omega

namespace AdaptiveOptions

def shortMillis (options : AdaptiveOptions) : Int :=
  millisAtLeast 1000 options.adaptiveShort

def maxMillis (options : AdaptiveOptions) : Int :=
  millisAtLeast options.shortMillis options.adaptiveMax

def ceilingMillis (options : AdaptiveOptions) (kp : Int) : Int :=
  let kpMs := int64 (kp * 1000)
  if kp > 0 ∧ kpMs < options.maxMillis then kpMs else options.maxMillis

def fineStepMillis (options : AdaptiveOptions) : Int :=
  millisAtLeast 1000 options.fineStep

theorem ceilingMillis_le (options : AdaptiveOptions) {serverKp : UInt16}
    (positive : ¬ (serverKp.toNat : Int) ≤ 0) :
    options.ceilingMillis serverKp.toNat ≤ serverKp.toNat * 1000 := by
  have bound := serverKp.toNat_lt
  have exact : int64 ((serverKp.toNat : Int) * 1000) = serverKp.toNat * 1000 :=
    int64_of_nonneg (by omega) (by omega)
  unfold ceilingMillis
  simp only [exact]
  split <;> omega

end AdaptiveOptions

inductive AdaptiveStart
  /-- No PINGREQ at all. -/
  | disabled
  /-- `fixedKeepalive` takes over. -/
  | fixed
  | probing (settings : ProbeSettings)
  deriving DecidableEq

/-- The set-up of `adaptiveKeepalive`. -/
def adaptiveKeepalive (options : AdaptiveOptions) (serverKp : UInt16) :
    AdaptiveStart :=
  let kp : Int := serverKp.toNat
  if disabled : kp ≤ 0 then
    .disabled
  else if noRoom : options.ceilingMillis kp ≤ options.shortMillis then
    .fixed
  else
    .probing
      { shortMillis := options.shortMillis
        ceilingMillis := options.ceilingMillis kp
        probeCount := if options.probeCount < 1 then 3 else options.probeCount
        responseWindow :=
          if options.responseWindow ≤ 0 then 2000000000
          else options.responseWindow
        fineStepMillis := options.fineStepMillis
        short_ge := le_millisAtLeast 1000 options.adaptiveShort
        room := Int.lt_of_not_ge noRoom
        ceiling_le := by
          have bound := serverKp.toNat_lt
          have ceiling : options.ceilingMillis kp ≤ kp * 1000 :=
            options.ceilingMillis_le disabled
          omega
        probeCount_pos := by split <;> omega
        responseWindow_pos := by split <;> omega
        fineStep_ge := le_millisAtLeast 1000 options.fineStep }

/-- One short probe, a second after the latest packet sent, two seconds for its
answer and a ceiling of two seconds. -/
def quickProbes : ProbeSettings :=
  ⟨1000, 2000, 1, 2000000000, 1000, by decide, by decide, by decide, by decide,
    by decide, by decide⟩

end Settings

section Loop

inductive AdaptivePhase
  | probeShort
  | probeDoubling
  | probeFine
  | stable
  deriving DecidableEq, Repr

/-- The variables of the loop; `sentAt` is `none` for the zero time. -/
structure AdaptiveLoop where
  phase : AdaptivePhase
  shortOk : Int
  intervalMillis : Int
  lastSuccessMillis : Int
  successHeartMillis : Int
  sentAt : Option Int
  awaiting : Bool
  deriving DecidableEq, Repr

namespace AdaptiveLoop

variable (settings : ProbeSettings)

def start : AdaptiveLoop :=
  ⟨.probeShort, 0, settings.shortMillis, 0, 0, none, false⟩

def enterStable (loop : AdaptiveLoop) : AdaptiveLoop :=
  let ninetyPercent := (int64 (loop.lastSuccessMillis * 9)).tdiv 10
  let successHeartMillis :=
    if loop.lastSuccessMillis > 0 then
      if ninetyPercent < settings.shortMillis then settings.shortMillis
      else ninetyPercent
    else
      settings.shortMillis
  { loop with
    successHeartMillis
    phase := .stable
    sentAt := none
    awaiting := false }

def shortAnswered (loop : AdaptiveLoop) : AdaptiveLoop :=
  let loop := { loop with awaiting := false, shortOk := loop.shortOk + 1 }
  if loop.shortOk ≥ settings.probeCount then
    { loop with
      phase := .probeDoubling
      intervalMillis := settings.shortMillis
      lastSuccessMillis := settings.shortMillis
      sentAt := none }
  else
    loop

/-- The interval to probe after an answered one. -/
def nextMillis (loop : AdaptiveLoop) : Int :=
  if loop.phase = .probeDoubling then
    let next := int64 (loop.intervalMillis * 2)
    if next > settings.ceilingMillis then settings.ceilingMillis else next
  else
    int64 (loop.intervalMillis + settings.fineStepMillis)

def probeAnswered (loop : AdaptiveLoop) : AdaptiveLoop :=
  let loop :=
    { loop with awaiting := false, lastSuccessMillis := loop.intervalMillis }
  if loop.nextMillis settings ≤ loop.intervalMillis then
    loop.enterStable settings
  else
    { loop with intervalMillis := loop.nextMillis settings }

/-- What the loop makes of a response to the probe it awaits. -/
def answered (loop : AdaptiveLoop) : AdaptiveLoop :=
  match loop.phase with
  | .probeShort => loop.shortAnswered settings
  | .probeDoubling | .probeFine => loop.probeAnswered settings
  | .stable => loop

/-- What the loop makes of a probe without a response; `none` if it gives the
connection up. -/
def unanswered (loop : AdaptiveLoop) : Option AdaptiveLoop :=
  match loop.phase with
  | .probeShort => none
  | .probeDoubling | .probeFine => some (loop.enterStable settings)
  | .stable => some loop

/-- Back to the short period. -/
def readapt : AdaptiveLoop :=
  start settings

def stamped (loop : AdaptiveLoop) (now : Int) : AdaptiveLoop :=
  { loop with sentAt := some now, awaiting := true }

end AdaptiveLoop

/-- Where the loop stands. -/
inductive AdaptivePosition
  | waiting
  /-- In `gotResponse`, between the two loads of `lastReceived`. -/
  | rechecking (now : Int)
  /-- In `sendProbe`, before the PINGREQ is written. -/
  | writing
  | storingLastSent
  | stamping
  /-- Returned, after `internalConnLost`. -/
  | lost
  | stopped
  deriving DecidableEq, Repr

structure AdaptiveSystem where
  loop : AdaptiveLoop
  position : AdaptivePosition
  lastSent : Int
  lastReceived : Int
  deriving DecidableEq, Repr

inductive AdaptiveEvent
  | tick (now : Int)
  | recheck
  | write
  | storeLastSent (now : Int)
  | stamp (now : Int)
  /-- `UpdateLastSent` for a packet of the application. -/
  | push (now : Int)
  /-- `UpdateLastReceived`. -/
  | receive (now : Int)
  | stop
  deriving DecidableEq, Repr

namespace AdaptiveSystem

variable (settings : ProbeSettings)

def start (lastSent lastReceived : Int) : AdaptiveSystem :=
  ⟨.start settings, .waiting, lastSent, lastReceived⟩

/-- The probe of a period that is over, on its way. -/
def probeAfter (s : AdaptiveSystem) (now millis : Int) : AdaptiveSystem :=
  if now - s.lastSent ≥ milliseconds millis then
    { s with position := .writing }
  else
    s

/-- The switch of the loop up to the second load of `lastReceived`, or to
`sendProbe`. -/
def tick (s : AdaptiveSystem) (now : Int) : AdaptiveSystem :=
  if s.loop.phase = .stable then
    if now - s.lastReceived ≥
        (int64 (milliseconds s.loop.successHeartMillis * 3)).tdiv 2 then
      { s with loop := .readapt settings }
    else
      s.probeAfter now s.loop.successHeartMillis
  else if s.loop.awaiting then
    -- The zero time lies before every other.
    if s.loop.sentAt.all (· < s.lastReceived) then
      { s with loop := s.loop.answered settings }
    else
      { s with position := .rechecking now }
  else
    s.probeAfter now s.loop.intervalMillis

/-- The switch from the second load of `lastReceived` on. -/
def recheck (s : AdaptiveSystem) (now : Int) : AdaptiveSystem :=
  if s.loop.sentAt = some s.lastReceived then
    { s with loop := s.loop.answered settings, position := .waiting }
  else if s.loop.sentAt.all (now - · ≥ settings.responseWindow) then
    match s.loop.unanswered settings with
    | some loop => { s with loop, position := .waiting }
    | none => { s with position := .lost }
  else
    { s with position := .waiting }

def step (s : AdaptiveSystem) (event : AdaptiveEvent) : Option AdaptiveSystem :=
  match event, s.position with
  | .tick now, .waiting => some (s.tick settings now)
  | .stop, .waiting => some { s with position := .stopped }
  | .recheck, .rechecking now => some (s.recheck settings now)
  | .write, .writing => some { s with position := .storingLastSent }
  | .storeLastSent now, .storingLastSent =>
      some { s with lastSent := now, position := .stamping }
  | .stamp now, .stamping =>
      some { s with loop := s.loop.stamped now, position := .waiting }
  | .push now, _ => some { s with lastSent := now }
  | .receive now, _ => some { s with lastReceived := now }
  | _, _ => none

end AdaptiveSystem

end Loop

section Steps

variable {settings : ProbeSettings}

/-- What a step does to the variables of the loop. -/
inductive AdaptiveLoop.Step (settings : ProbeSettings) (loop : AdaptiveLoop) :
    AdaptiveLoop → Prop
  | same : Step settings loop loop
  | stamped (now : Int) : Step settings loop (loop.stamped now)
  | answered : Step settings loop (loop.answered settings)
  | unanswered {after : AdaptiveLoop}
      (failed : loop.unanswered settings = some after) : Step settings loop after
  | readapted (stable : loop.phase = .stable) :
      Step settings loop (.readapt settings)

namespace AdaptiveSystem

open AdaptiveLoop

variable {s next : AdaptiveSystem} {event : AdaptiveEvent}

theorem loop_probeAfter (s : AdaptiveSystem) (now millis : Int) :
    (s.probeAfter now millis).loop = s.loop := by
  unfold probeAfter
  split <;> rfl

theorem loopStep_tick (s : AdaptiveSystem) (now : Int) :
    s.loop.Step settings (s.tick settings now).loop := by
  unfold tick
  by_cases stable : s.loop.phase = .stable
  · rw [if_pos stable]
    split
    · exact .readapted stable
    · rw [loop_probeAfter]
      exact .same
  · rw [if_neg stable]
    split
    · split
      · exact .answered
      · exact .same
    · rw [loop_probeAfter]
      exact .same

theorem loopStep_recheck (s : AdaptiveSystem) (now : Int) :
    s.loop.Step settings (s.recheck settings now).loop := by
  unfold recheck
  split
  · exact .answered
  split
  · cases failed : s.loop.unanswered settings with
    | some loop => exact .unanswered failed
    | none => exact .same
  · exact .same

inductive StepTo (settings : ProbeSettings) (s : AdaptiveSystem) :
    AdaptiveEvent → AdaptiveSystem → Prop
  | tick {now : Int} (waiting : s.position = .waiting) :
      StepTo settings s (.tick now) (s.tick settings now)
  | stop (waiting : s.position = .waiting) :
      StepTo settings s .stop { s with position := .stopped }
  | recheck {now : Int} (rechecking : s.position = .rechecking now) :
      StepTo settings s .recheck (s.recheck settings now)
  | write (writing : s.position = .writing) :
      StepTo settings s .write { s with position := .storingLastSent }
  | storeLastSent {now : Int} (storing : s.position = .storingLastSent) :
      StepTo settings s (.storeLastSent now)
        { s with lastSent := now, position := .stamping }
  | stamp {now : Int} (stamping : s.position = .stamping) :
      StepTo settings s (.stamp now)
        { s with loop := s.loop.stamped now, position := .waiting }
  | push {now : Int} : StepTo settings s (.push now) { s with lastSent := now }
  | receive {now : Int} :
      StepTo settings s (.receive now) { s with lastReceived := now }

theorem stepTo_of_step (stepped : step settings s event = some next) :
    StepTo settings s event next := by
  unfold step at stepped
  split at stepped
  case h_1 waiting => cases stepped; exact .tick waiting
  case h_2 waiting => cases stepped; exact .stop waiting
  case h_3 rechecking => cases stepped; exact .recheck rechecking
  case h_4 writing => cases stepped; exact .write writing
  case h_5 storing => cases stepped; exact .storeLastSent storing
  case h_6 stamping => cases stepped; exact .stamp stamping
  case h_7 => cases stepped; exact .push
  case h_8 => cases stepped; exact .receive
  case h_9 => cases stepped

theorem loopStep_of_step (stepped : step settings s event = some next) :
    s.loop.Step settings next.loop := by
  cases stepTo_of_step stepped with
  | tick waiting => exact loopStep_tick _ _
  | recheck rechecking => exact loopStep_recheck _ _
  | stamp stamping => exact .stamped _
  | _ => exact .same

section Probe

variable {now sentAt : Int} (probing : s.loop.phase ≠ .stable)

include probing in
theorem tick_of_awaiting (awaiting : s.loop.awaiting = true)
    (isSentAt : s.loop.sentAt = some sentAt) :
    s.tick settings now =
      if sentAt < s.lastReceived then { s with loop := s.loop.answered settings }
      else { s with position := .rechecking now } := by
  simp [tick, probing, awaiting, isSentAt]

theorem recheck_of_sentAt (isSentAt : s.loop.sentAt = some sentAt) :
    s.recheck settings now =
      if sentAt = s.lastReceived then
        { s with loop := s.loop.answered settings, position := .waiting }
      else if now - sentAt ≥ settings.responseWindow then
        match s.loop.unanswered settings with
        | some loop => { s with loop, position := .waiting }
        | none => { s with position := .lost }
      else
        { s with position := .waiting } := by
  simp [recheck, isSentAt]

theorem loop_recheck_of_stable (stable : s.loop.phase = .stable) :
    (s.recheck settings now).loop = s.loop := by
  unfold recheck
  simp only [AdaptiveLoop.answered, AdaptiveLoop.unanswered, stable]
  split
  · rfl
  · split <;> rfl

end Probe

end AdaptiveSystem

namespace AdaptiveLoop

variable {loop : AdaptiveLoop}

/-- A probing phase takes the probe off its mind once it is answered. -/
theorem awaiting_answered (probing : loop.phase ≠ .stable) :
    (loop.answered settings).awaiting = false := by
  unfold answered shortAnswered probeAnswered
  simp only
  split
  · split <;> rfl
  · split <;> rfl
  · split <;> rfl
  · rename_i stable
    exact absurd stable probing

theorem awaiting_unanswered {after : AdaptiveLoop}
    (probing : loop.phase ≠ .stable)
    (failed : loop.unanswered settings = some after) :
    after.awaiting = false := by
  unfold unanswered at failed
  split at failed
  · cases failed
  · cases failed; rfl
  · cases failed; rfl
  · rename_i stable
    exact absurd stable probing

end AdaptiveLoop

end Steps

end Client

end RmttGo
