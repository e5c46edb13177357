import RmttGo.KeepaliveLoops
import RmttGo.PeriodicSampling

/-!
# The cadence of the client and the reaper of the server

While a keepalive loop runs, it samples the instant of the latest packet sent at
every check interval and sends a PINGREQ when a heartbeat has passed; pushes go
out at any time.  This is a sampler as in `PeriodicSampling`, and the server
reaps a connection that is silent for one and a half heartbeats.
-/

namespace RmttGo

namespace Server

/-- The timeout of the reaper in `handleDeviceConnection`, computed as the
client computes its own. -/
def keepaliveTimeout (serverKp : UInt16) : Nat :=
  Client.timeOutAfter serverKp.toNat

end Server

namespace Client

section Model

def KeepaliveEvent.instant : KeepaliveEvent → Nat
  | tick now _ => now
  | push now => now
  | receive now => now

structure CadenceSystem where
  clocks : Clocks
  now : Nat
  lastTick : Nat
  running : Bool
  /-- The instants at which the client sent a packet, latest first. -/
  sent : List Nat
  deriving DecidableEq, Repr

namespace CadenceSystem

/-- A packet is sent at time zero, and the loop starts if it is to run. -/
def start (options : HeartbeatOptions) (serverKp : UInt16) : CadenceSystem where
  clocks := ⟨0, 0⟩
  now := 0
  lastTick := 0
  running := options.Enabled ∧ effectiveHeartbeat options serverKp > 0
  sent := [0]

/-- A round of a loop.  Nothing is known about answers: `prompt` says whether a
packet comes in behind the PINGREQ.  `keepalive` has loaded `lastReceived`
before it, `fixedKeepalive` loads it then. -/
def tick (options : HeartbeatOptions) (period timeOut : Nat)
    (loop : KeepaliveLoop) (s : CadenceSystem) (now : Nat) (prompt : Bool) :
    CadenceSystem :=
  let pinged := now - s.clocks.lastSent ≥ period
  let sending := if pinged then { s.clocks with lastSent := now } else s.clocks
  let clocks := if prompt then updateLastReceived options sending now else sending
  let lastReceived :=
    match loop with
    | .keepalive => s.clocks.lastReceived
    | .fixedKeepalive => clocks.lastReceived
  { clocks
    now
    lastTick := now
    running := !(now - lastReceived ≥ timeOut)
    sent := if pinged then now :: s.sent else s.sent }

def handle (options : HeartbeatOptions) (heartbeat : Int) (loop : KeepaliveLoop)
    (s : CadenceSystem) : KeepaliveEvent → CadenceSystem
  | .tick now prompt =>
      s.tick options (pingAfter heartbeat) (timeOutAfter heartbeat) loop now prompt
  | .push now =>
      { s with
        clocks := updateLastSent options s.clocks now
        now
        sent := now :: s.sent }
  | .receive now =>
      { s with clocks := updateLastReceived options s.clocks now, now }

/-- The steps of a running loop: time does not go back, and a tick is handled
within a check interval of the one before. -/
def step (options : HeartbeatOptions) (serverKp : UInt16) (loop : KeepaliveLoop)
    (s : CadenceSystem) (event : KeepaliveEvent) : Option CadenceSystem :=
  let heartbeat := effectiveHeartbeat options serverKp
  if s.running ∧ s.now ≤ event.instant ∧
      event.instant ≤ s.lastTick + checkInterval heartbeat then
    some (s.handle options heartbeat loop event)
  else
    none

end CadenceSystem

theorem CadenceSystem.tick_answered (options : HeartbeatOptions)
    (period timeOut : Nat) (loop : KeepaliveLoop) (s : CadenceSystem) (now : Nat)
    (seen : Bool) :
    let pinged := now - s.clocks.lastSent ≥ period
    let answered :=
      if pinged then
        updateLastReceived options { s.clocks with lastSent := now } now
      else
        s.clocks
    let lastReceived :=
      if seen && loop = .fixedKeepalive then answered.lastReceived
      else s.clocks.lastReceived
    let ticked := s.tick options period timeOut loop now (seen && pinged)
    (if pinged then updateLastReceived options ticked.clocks now
      else ticked.clocks) = answered ∧
      (!ticked.running) = decide (now - lastReceived ≥ timeOut) := by
  by_cases pinged : now - s.clocks.lastSent ≥ period <;>
    by_cases enabled : options.Enabled <;> cases loop <;> cases seen <;>
    simp [tick, pinged, updateLastReceived, enabled]

/-- A round in which the PINGREQ is answered at once is one of these, with the
answer as the next packet received. -/
theorem round_eq_tick {options : HeartbeatOptions} {serverKp : UInt16}
    {loop : KeepaliveLoop}
    (positive : 0 < effectiveHeartbeat options serverKp) (s : CadenceSystem)
    (now : Nat) (seen : Bool) :
    let heartbeat := effectiveHeartbeat options serverKp
    let pinged := now - s.clocks.lastSent ≥ pingAfter heartbeat
    let ticked := s.tick options (pingAfter heartbeat) (timeOutAfter heartbeat)
      loop now (seen && pinged)
    loop.round options serverKp s.clocks now seen =
      (if pinged then updateLastReceived options ticked.clocks now
        else ticked.clocks, !ticked.running) := by
  have notDisabled : ¬ effectiveHeartbeat options serverKp ≤ 0 := by omega
  have ticks := s.tick_answered options
    (pingAfter (effectiveHeartbeat options serverKp))
    (timeOutAfter (effectiveHeartbeat options serverKp)) loop now seen
  intro heartbeat pinged ticked
  rw [ticks.1, ticks.2]
  cases loop with
  | keepalive =>
      rw [show (seen && decide (KeepaliveLoop.keepalive = .fixedKeepalive)) = false
        from Bool.and_false seen]
      exact if_neg notDisabled
  | fixedKeepalive =>
      rw [show (seen && decide (KeepaliveLoop.fixedKeepalive = .fixedKeepalive)) =
        seen from Bool.and_true seen]
      exact if_neg notDisabled

end Model

section Simulation

namespace CadenceSystem

variable {options : HeartbeatOptions} {serverKp : UInt16} {loop : KeepaliveLoop}
  {s : CadenceSystem} {now period timeOut : Nat} {heartbeat : Int}

/-- What a sampler sees of the client. -/
def sampled (s : CadenceSystem) : Sampler :=
  ⟨s.lastTick, s.clocks.lastSent, s.sent⟩

theorem updateLastReceived_lastSent (clocks : Clocks) :
    (updateLastReceived options clocks now).lastSent = clocks.lastSent := by
  unfold updateLastReceived
  split <;> rfl

theorem handle_push (enabled : options.Enabled) :
    s.handle options heartbeat loop (.push now) =
      ⟨⟨now, s.clocks.lastReceived⟩, now, s.lastTick, s.running,
        now :: s.sent⟩ := by
  rw [handle, updateLastSent, if_pos enabled]

theorem handle_receive (enabled : options.Enabled) :
    s.handle options heartbeat loop (.receive now) =
      ⟨⟨s.clocks.lastSent, now⟩, now, s.lastTick, s.running, s.sent⟩ := by
  rw [handle, updateLastReceived, if_pos enabled]

theorem tick_lastSent (s : CadenceSystem) (prompt : Bool) :
    (s.tick options period timeOut loop now prompt).clocks.lastSent =
      if now - s.clocks.lastSent ≥ period then now else s.clocks.lastSent := by
  by_cases pinged : now - s.clocks.lastSent ≥ period <;>
    cases prompt <;> simp [tick, pinged, updateLastReceived_lastSent]

theorem tick_sampled (s : CadenceSystem) (prompt : Bool) :
    (s.tick options period timeOut loop now prompt).sampled =
      s.sampled.look period now := by
  rw [sampled, tick_lastSent]
  by_cases pinged : now - s.clocks.lastSent ≥ period <;>
    simp [tick, sampled, Sampler.look, Sampler.act, pinged]

/-- The client is a sampler that looks at every tick, as long as it runs. -/
def Samples (s : CadenceSystem) (sampler : Sampler) : Prop :=
  s.sampled = sampler ∧ s.lastTick ≤ s.now ∧ s.clocks.lastSent ≤ s.now

theorem Samples.admits {sampler : Sampler} {interval : Nat}
    (samples : s.Samples sampler) (later : s.now ≤ now)
    (inTime : now ≤ s.lastTick + interval) : sampler.Admits interval now := by
  obtain ⟨rfl, ticked, sent⟩ := samples
  exact ⟨ticked.trans later, sent.trans later, inTime⟩

theorem Samples.step {sampler : Sampler} {event : KeepaliveEvent}
    {next : CadenceSystem} (enabled : options.Enabled)
    (samples : s.Samples sampler)
    (stepped : step options serverKp loop s event = some next) :
    ∃ events after,
      EventRun.run (Sampler.step (pingAfter (effectiveHeartbeat options serverKp))
        (checkInterval (effectiveHeartbeat options serverKp))) sampler events =
          some after ∧ next.Samples after := by
  obtain ⟨⟨-, later, inTime⟩, ⟨⟩⟩ := Option.ite_none_right_eq_some.mp stepped
  have admitted := samples.admits later inTime
  obtain ⟨rfl, ticked, sent⟩ := samples
  cases event with
  | tick now prompt =>
      refine ⟨[.look now], _, ?_, tick_sampled s prompt, Nat.le_refl now, ?_⟩
      · exact Option.bind_eq_some_iff.mpr ⟨_, if_pos admitted, rfl⟩
      · change (s.tick options _ _ loop now prompt).clocks.lastSent ≤ now
        rw [tick_lastSent]
        split
        · exact Nat.le_refl now
        · exact sent.trans later
  | push now =>
      rw [handle_push enabled]
      refine ⟨[.act now], _, ?_, rfl, ticked.trans later, Nat.le_refl now⟩
      exact Option.bind_eq_some_iff.mpr ⟨_, if_pos admitted, rfl⟩
  | receive now =>
      rw [handle_receive enabled]
      exact ⟨[], _, rfl, rfl, ticked.trans later, sent.trans later⟩

/-- The client can do what the sampler does, and go on. -/
def Follows (sampler : Sampler) (s : CadenceSystem) : Prop :=
  s.sampled = sampler ∧ s.running = true ∧
    ∀ now, sampler.looked ≤ now → sampler.acted ≤ now → s.now ≤ now

/-- A round right behind a packet received does not give up. -/
theorem tick_running (positive : 0 < timeOut)
    (received : s.clocks.lastReceived = now) :
    (s.tick options period timeOut loop now false).running = true := by
  by_cases pinged : now - s.clocks.lastSent ≥ period <;> cases loop <;>
    simp [tick, pinged, received, Nat.ne_of_gt positive]

theorem Follows.step {sampler next : Sampler} {event : Sampler.Event}
    (enabled : options.Enabled)
    (positive : 0 < effectiveHeartbeat options serverKp)
    (follows : Follows sampler s)
    (stepped : Sampler.step (pingAfter (effectiveHeartbeat options serverKp))
      (checkInterval (effectiveHeartbeat options serverKp)) sampler event =
        some next) :
    ∃ events after,
      EventRun.run (CadenceSystem.step options serverKp loop) s events =
        some after ∧ Follows next after := by
  obtain ⟨rfl, running, notLate⟩ := follows
  cases event with
  | act now =>
      obtain ⟨⟨looked, acted, inTime⟩, ⟨⟩⟩ :=
        Option.ite_none_right_eq_some.mp stepped
      have pushed : CadenceSystem.step options serverKp loop s (.push now) = _ :=
        if_pos ⟨running, notLate now looked acted, inTime⟩
      rw [handle_push enabled] at pushed
      refine ⟨[.push now], _, Option.bind_eq_some_iff.mpr ⟨_, pushed, rfl⟩, rfl,
        running, ?_⟩
      intro later _ acted
      exact acted
  | look now =>
      obtain ⟨⟨looked, acted, inTime⟩, ⟨⟩⟩ :=
        Option.ite_none_right_eq_some.mp stepped
      have received :
          CadenceSystem.step options serverKp loop s (.receive now) = _ :=
        if_pos ⟨running, notLate now looked acted, inTime⟩
      rw [handle_receive enabled] at received
      have ticked : CadenceSystem.step options serverKp loop
          ⟨⟨s.clocks.lastSent, now⟩, now, s.lastTick, s.running, s.sent⟩
          (.tick now false) = _ :=
        if_pos ⟨running, Nat.le_refl now, inTime⟩
      refine ⟨[.receive now, .tick now false], _,
        EventRun.run_cons_eq_some.mpr ⟨_, received,
          Option.bind_eq_some_iff.mpr ⟨_, ticked, rfl⟩⟩,
        tick_sampled _ false, tick_running (timeOutAfter_pos positive) rfl, ?_⟩
      intro later looked _
      rw [Sampler.look_looked] at looked
      exact looked

end CadenceSystem

end Simulation

section Guarantee

namespace CadenceSystem

variable {options : HeartbeatOptions} {serverKp : UInt16}

theorem room_iff (negotiated : 1 ≤ serverKp.toNat) :
    pingAfter serverKp.toNat + checkInterval serverKp.toNat ≤
        Server.keepaliveTimeout serverKp ↔
      2 ≤ serverKp.toNat := by
  have bound := serverKp.toNat_lt
  unfold Server.keepaliveTimeout
  rw [timeOutAfter_of_le (by omega), checkInterval_eq]
  unfold pingAfter second
  constructor
  · intro room
    omega
  · intro atLeast
    omega

/-- The client is never silent for the timeout of the reaper, whatever the
schedule of ticks, pushes and packets received, if and only if the keepalive is
at least two seconds. -/
theorem gaps_below_timeout_iff (loop : KeepaliveLoop) (enabled : options.Enabled)
    (negotiated : 1 ≤ serverKp.toNat) :
    (∀ events s,
      EventRun.run (step options serverKp loop) (start options serverKp) events =
          some s →
        Sampler.GapsBelow (Server.keepaliveTimeout serverKp) s.sent) ↔
      2 ≤ serverKp.toNat := by
  have isPositive : serverKp > 0 := UInt16.lt_iff_toNat_lt.mpr negotiated
  have heartbeat : effectiveHeartbeat options serverKp = serverKp.toNat :=
    if_pos isPositive
  have positive : 0 < effectiveHeartbeat options serverKp := by omega
  rw [← room_iff negotiated, ← heartbeat,
    ← Sampler.gapsBelow_iff (pingAfter_pos positive) (checkInterval_pos _)]
  constructor
  · intro below events sampler ran
    have follows : Follows Sampler.start (start options serverKp) :=
      ⟨rfl, decide_eq_true ⟨enabled, positive⟩, fun now _ _ => Nat.zero_le now⟩
    obtain ⟨others, s, ranAlso, rfl, -⟩ :=
      EventRun.simulation Follows
        (fun follows stepped => follows.step enabled positive stepped) follows ran
    exact below others s ranAlso
  · intro below events s ran
    have samples : (start options serverKp).Samples Sampler.start :=
      ⟨rfl, Nat.le_refl 0, Nat.le_refl 0⟩
    obtain ⟨others, sampler, ranAlso, rfl, -⟩ :=
      EventRun.simulation Samples
        (fun samples stepped => samples.step enabled stepped) samples ran
    exact below others s.sampled ranAlso

/-- Thirty seconds, with a fixed heartbeat and with an adaptive one. -/
theorem gaps_below_timeout_iff_thirty :
    (∀ events s, EventRun.run (step ⟨10, false, by decide⟩ 30 .keepalive)
        (start ⟨10, false, by decide⟩ 30) events = some s →
      Sampler.GapsBelow 45000000000 s.sent) ∧
    ∀ events s, EventRun.run (step ⟨10, true, by decide⟩ 30 .fixedKeepalive)
        (start ⟨10, true, by decide⟩ 30) events = some s →
      Sampler.GapsBelow 45000000000 s.sent := by
  have timeout : Server.keepaliveTimeout 30 = 45000000000 :=
    timeOutAfter_of_le (by decide)
  rw [← timeout]
  exact ⟨(gaps_below_timeout_iff .keepalive (by decide) (by decide)).mpr (by decide),
    (gaps_below_timeout_iff .fixedKeepalive (by decide) (by decide)).mpr
      (by decide)⟩

end CadenceSystem

end Guarantee

end Client

end RmttGo
