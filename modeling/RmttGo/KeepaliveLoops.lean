import RmttGo.FloatRounding
import RmttGo.Transport

/-!
# The keepalive loops

`keepalive` and `fixedKeepalive` wake up at every check interval.  They send a
PINGREQ when nothing has been sent for a heartbeat, and give the connection up
when nothing has been received for one and a half.
-/

namespace RmttGo

namespace Client

section Durations

structure HeartbeatOptions where
  heartbeat : Int
  adaptiveHeartbeat : Bool
  /-- One and a half heartbeats are an `int64` of nanoseconds. -/
  fits : heartbeat ≤ 6148914691

/-- The guard of `UpdateLastSent` and `UpdateLastReceived`, and of starting
`keepalive` at all. -/
def HeartbeatOptions.Enabled (options : HeartbeatOptions) : Prop :=
  options.heartbeat ≠ 0 ∨ options.adaptiveHeartbeat = true

instance (options : HeartbeatOptions) : Decidable options.Enabled :=
  inferInstanceAs (Decidable (_ ∨ _))

def effectiveHeartbeat (options : HeartbeatOptions) (serverKp : UInt16) : Int :=
  if serverKp > 0 then serverKp.toNat else options.heartbeat

def checkInterval (heartbeat : Int) : Nat :=
  let interval := heartbeat.toNat * second / 4
  if interval < second then second else interval

/-- `time.Duration(heartbeat*int64(time.Second))`. -/
def pingAfter (heartbeat : Int) : Nat :=
  heartbeat.toNat * second

/-- `time.Duration(float64(heartbeat)*float64(time.Second)*1.5)`; the second
product is even, so half of it is a number of nanoseconds. -/
def timeOutAfter (heartbeat : Int) : Nat :=
  let float64 := FloatRounding.nearest 53
  float64 (float64 (float64 heartbeat.toNat * second) * 3 / 2)

theorem pingAfter_pos {heartbeat : Int} (positive : 0 < heartbeat) :
    0 < pingAfter heartbeat := by
  unfold pingAfter second
  omega

theorem timeOutAfter_of_le {heartbeat : Int} (exact : heartbeat ≤ 6004799) :
    timeOutAfter heartbeat = heartbeat.toNat * 1500000000 := by
  have bound : heartbeat.toNat ≤ 6004799 := by omega
  unfold timeOutAfter second
  simp only
  rw [FloatRounding.nearest_of_lt (n := heartbeat.toNat) (by omega)]
  rw [FloatRounding.nearest_of_lt (n := heartbeat.toNat * 1000000000) (by omega)]
  rw [FloatRounding.nearest_of_lt (by omega)]
  omega

theorem le_timeOutAfter (heartbeat : Int) :
    heartbeat.toNat * 1400000000 ≤ timeOutAfter heartbeat := by
  unfold timeOutAfter second
  simp only
  generalize heartbeat.toNat = n
  have first := @FloatRounding.le_nearest 53 n
  generalize FloatRounding.nearest 53 n = a at *
  have second := @FloatRounding.le_nearest 53 (a * 1000000000)
  generalize FloatRounding.nearest 53 (a * 1000000000) = b at *
  have third := @FloatRounding.le_nearest 53 (b * 3 / 2)
  generalize FloatRounding.nearest 53 (b * 3 / 2) = c at *
  omega

theorem timeOutAfter_pos {heartbeat : Int} (positive : 0 < heartbeat) :
    0 < timeOutAfter heartbeat := by
  apply Nat.lt_of_lt_of_le _ (le_timeOutAfter heartbeat)
  omega

theorem checkInterval_eq (heartbeat : Int) :
    checkInterval heartbeat = max 1000000000 (heartbeat.toNat * 250000000) := by
  unfold checkInterval second
  simp only
  split <;> omega

theorem checkInterval_pos (heartbeat : Int) : 0 < checkInterval heartbeat := by
  rw [checkInterval_eq]
  omega

/-- From two seconds on, a heartbeat and a check fit into the time-out. -/
theorem pingAfter_add_checkInterval_le {heartbeat : Int}
    (atLeast : 2 ≤ heartbeat) :
    pingAfter heartbeat + checkInterval heartbeat ≤ timeOutAfter heartbeat := by
  rw [checkInterval_eq]
  unfold pingAfter second
  by_cases exact : heartbeat ≤ 6004799
  · rw [timeOutAfter_of_le exact]
    omega
  · -- The quarter of a heartbeat that is left exceeds any rounding.
    rw [max_eq_right (by omega)]
    calc heartbeat.toNat * 1000000000 + heartbeat.toNat * 250000000
        = heartbeat.toNat * 1250000000 := by omega
      _ ≤ heartbeat.toNat * 1400000000 := Nat.mul_le_mul_left _ (by decide)
      _ ≤ timeOutAfter heartbeat := le_timeOutAfter heartbeat

end Durations

section Loops

structure Clocks where
  lastSent : Nat
  lastReceived : Nat
  deriving DecidableEq, Repr

def updateLastReceived (options : HeartbeatOptions) (clocks : Clocks)
    (now : Nat) : Clocks :=
  if options.Enabled then { clocks with lastReceived := now } else clocks

def updateLastSent (options : HeartbeatOptions) (clocks : Clocks)
    (now : Nat) : Clocks :=
  if options.Enabled then { clocks with lastSent := now } else clocks

/-- One round of a loop, with the server answering a PINGREQ at once.  The
result says whether the connection is given up; `answerSeen` says whether
`lastReceived` was loaded when the answer was already in. -/
def checkRound (options : HeartbeatOptions) (serverKp : UInt16) (clocks : Clocks)
    (now : Nat) (answerSeen : Bool) : Clocks × Bool :=
  let heartbeat := effectiveHeartbeat options serverKp
  if heartbeat ≤ 0 then
    (clocks, false)
  else
    -- The loop stores `lastSent` itself, without the guard of `UpdateLastSent`.
    let answered :=
      if now - clocks.lastSent ≥ pingAfter heartbeat then
        updateLastReceived options { clocks with lastSent := now } now
      else
        clocks
    let lastReceived :=
      if answerSeen then answered.lastReceived else clocks.lastReceived
    (answered, now - lastReceived ≥ timeOutAfter heartbeat)

/-- `keepalive` loads `lastReceived` before it sends a PINGREQ. -/
def keepaliveRound (options : HeartbeatOptions) (serverKp : UInt16)
    (clocks : Clocks) (now : Nat) : Clocks × Bool :=
  checkRound options serverKp clocks now false

/-- `fixedKeepalive` loads `lastReceived` after the PINGREQ; whether the answer
is `prompt` enough to be seen is up to the network. -/
def fixedKeepaliveRound (options : HeartbeatOptions) (serverKp : UInt16)
    (clocks : Clocks) (now : Nat) (prompt : Bool) : Clocks × Bool :=
  checkRound options serverKp clocks now prompt

inductive KeepaliveLoop
  | keepalive
  | fixedKeepalive
  deriving DecidableEq, Repr

def KeepaliveLoop.round (loop : KeepaliveLoop) (options : HeartbeatOptions)
    (serverKp : UInt16) (clocks : Clocks) (now : Nat) (prompt : Bool) :
    Clocks × Bool :=
  match loop with
  | .keepalive => keepaliveRound options serverKp clocks now
  | .fixedKeepalive => fixedKeepaliveRound options serverKp clocks now prompt

structure KeepaliveSystem where
  clocks : Clocks
  now : Nat
  lastTick : Nat
  running : Bool
  /-- `internalConnLost(errReceiveTimeout)` was called. -/
  timedOut : Bool
  deriving DecidableEq, Repr

inductive KeepaliveEvent
  | tick (now : Nat) (prompt : Bool)
  /-- An outgoing packet of the application. -/
  | push (now : Nat)
  /-- An incoming packet other than the answer to a PINGREQ. -/
  | receive (now : Nat)
  deriving DecidableEq, Repr

namespace KeepaliveSystem

/-- `startWorkers` sets both clocks and starts the loop if it is to run. -/
def start (options : HeartbeatOptions) (serverKp : UInt16) (now : Nat) :
    KeepaliveSystem where
  clocks := ⟨now, now⟩
  now := now
  lastTick := now
  running := options.Enabled ∧ effectiveHeartbeat options serverKp > 0
  timedOut := false

/-- Time does not go back, and ticks are handled at most a check interval
apart. -/
def step (options : HeartbeatOptions) (serverKp : UInt16) (loop : KeepaliveLoop)
    (s : KeepaliveSystem) : KeepaliveEvent → Option KeepaliveSystem
  | .tick now prompt =>
      if s.running ∧ s.now ≤ now ∧ now ≤ s.lastTick +
          checkInterval (effectiveHeartbeat options serverKp) then
        let checked := loop.round options serverKp s.clocks now prompt
        some ⟨checked.1, now, now, !checked.2, checked.2⟩
      else
        none
  | .push now =>
      if s.now ≤ now then
        some { s with clocks := updateLastSent options s.clocks now, now }
      else
        none
  | .receive now =>
      if s.now ≤ now then
        some { s with clocks := updateLastReceived options s.clocks now, now }
      else
        none

end KeepaliveSystem

end Loops

end Client

end RmttGo
