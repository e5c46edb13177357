import RmttGo.EventRuns
import RmttGo.KeepaliveLoops

/-!
# Surviving one's own keepalive

Pushes move the clock that decides on a PINGREQ, but not the one that decides
on the time-out.  A client outlives its keepalive as long as each push leaves
room for a whole heartbeat and a check before the time-out.
-/

namespace RmttGo

namespace Client

section Survival

namespace KeepaliveSystem

variable {options : HeartbeatOptions} {serverKp : UInt16} {loop : KeepaliveLoop}
  {s next : KeepaliveSystem} {event : KeepaliveEvent}

/-- A push that starts a fresh heartbeat comes early enough after the latest
packet received for the connection to outlive that heartbeat and a check. -/
def TimelyPush (options : HeartbeatOptions) (serverKp : UInt16)
    (s : KeepaliveSystem) : KeepaliveEvent → Prop
  | .push now =>
      let heartbeat := effectiveHeartbeat options serverKp
      now + pingAfter heartbeat + checkInterval heartbeat ≤
        s.clocks.lastReceived + timeOutAfter heartbeat
  | _ => True

instance : (event : KeepaliveEvent) →
    Decidable (TimelyPush options serverKp s event)
  | .tick _ _ => inferInstanceAs (Decidable True)
  | .push _ => inferInstanceAs (Decidable (_ ≤ _))
  | .receive _ => inferInstanceAs (Decidable True)

/-- What a running loop can rely on: it looked less than a heartbeat after the
latest packet sent, and may look once more after a heartbeat from there. -/
structure Beating (heartbeat : Int) (s : KeepaliveSystem) : Prop where
  ticked : s.lastTick ≤ s.now
  received : s.clocks.lastReceived ≤ s.now
  recent : s.lastTick < s.clocks.lastSent + pingAfter heartbeat
  slack : s.clocks.lastSent + pingAfter heartbeat + checkInterval heartbeat ≤
    s.clocks.lastReceived + timeOutAfter heartbeat

structure Alive (options : HeartbeatOptions) (serverKp : UInt16)
    (s : KeepaliveSystem) : Prop where
  notTimedOut : s.timedOut = false
  enabled : s.running = true → options.Enabled
  beating : s.running = true → Beating (effectiveHeartbeat options serverKp) s

theorem Beating.restarted {heartbeat : Int} (atLeast : 2 ≤ heartbeat)
    (clocks : s.clocks = ⟨s.now, s.now⟩) (ticked : s.lastTick = s.now) :
    Beating heartbeat s := by
  have room := pingAfter_add_checkInterval_le atLeast
  have positive := pingAfter_pos (by omega : 0 < heartbeat)
  constructor
  · rw [ticked]
  · rw [clocks]
  · rw [clocks, ticked]
    change s.now < s.now + pingAfter heartbeat
    omega
  · rw [clocks]
    change s.now + pingAfter heartbeat + checkInterval heartbeat ≤
      s.now + timeOutAfter heartbeat
    omega

theorem start_alive (atLeast : 2 ≤ effectiveHeartbeat options serverKp)
    (now : Nat) : Alive options serverKp (start options serverKp now) where
  notTimedOut := rfl
  enabled := by
    intro running
    exact (of_decide_eq_true running).1
  beating := fun _ => .restarted atLeast rfl rfl

/-- A round in time finds the connection alive, and either sends nothing or
restarts both clocks. -/
theorem Beating.round (enabled : options.Enabled)
    (beating : Beating (effectiveHeartbeat options serverKp) s)
    (positive : 0 < effectiveHeartbeat options serverKp) {now : Nat}
    (inTime : now ≤ s.lastTick +
      checkInterval (effectiveHeartbeat options serverKp)) (answerSeen : Bool) :
    checkRound options serverKp s.clocks now answerSeen = (⟨now, now⟩, false) ∨
      checkRound options serverKp s.clocks now answerSeen = (s.clocks, false) ∧
        now < s.clocks.lastSent +
          pingAfter (effectiveHeartbeat options serverKp) := by
  have timeOut := timeOutAfter_pos positive
  have alive : ¬ now - s.clocks.lastReceived ≥
      timeOutAfter (effectiveHeartbeat options serverKp) := by
    have recent := beating.recent
    have slack := beating.slack
    omega
  have answeredNow : ¬ now - now ≥
      timeOutAfter (effectiveHeartbeat options serverKp) := by
    omega
  simp only [checkRound, if_neg (not_le.mpr positive)]
  by_cases pinged : now - s.clocks.lastSent ≥
      pingAfter (effectiveHeartbeat options serverKp)
  · rw [if_pos pinged, updateLastReceived, if_pos enabled]
    cases answerSeen with
    | false => exact .inl (Prod.ext rfl (decide_eq_false alive))
    | true => exact .inl (Prod.ext rfl (decide_eq_false answeredNow))
  · rw [if_neg pinged, ite_self]
    exact .inr ⟨Prod.ext rfl (decide_eq_false alive), by omega⟩

theorem Alive.tick (alive : Alive options serverKp s)
    (atLeast : 2 ≤ effectiveHeartbeat options serverKp) {now : Nat} {prompt : Bool}
    (stepped : step options serverKp loop s (.tick now prompt) = some next) :
    Alive options serverKp next := by
  obtain ⟨⟨running, later, inTime⟩, ⟨⟩⟩ :=
    Option.ite_none_right_eq_some.mp stepped
  have enabled := alive.enabled running
  have beating := alive.beating running
  obtain ⟨answerSeen, sameRound⟩ : ∃ answerSeen,
      loop.round options serverKp s.clocks now prompt =
        checkRound options serverKp s.clocks now answerSeen := by
    cases loop with
    | keepalive => exact ⟨false, rfl⟩
    | fixedKeepalive => exact ⟨prompt, rfl⟩
  rw [sameRound]
  have positive : 0 < effectiveHeartbeat options serverKp := by omega
  rcases beating.round enabled positive inTime answerSeen with
    pinged | ⟨quiet, recent⟩
  · rw [pinged]
    exact ⟨rfl, fun _ => enabled, fun _ => .restarted atLeast rfl rfl⟩
  · rw [quiet]
    exact ⟨rfl, fun _ => enabled, fun _ =>
      ⟨le_rfl, beating.received.trans later, recent, beating.slack⟩⟩

theorem Alive.step (alive : Alive options serverKp s)
    (atLeast : 2 ≤ effectiveHeartbeat options serverKp)
    (timely : TimelyPush options serverKp s event)
    (stepped : step options serverKp loop s event = some next) :
    Alive options serverKp next := by
  cases event with
  | tick now prompt => exact alive.tick atLeast stepped
  | push now =>
      obtain ⟨later, ⟨⟩⟩ := Option.ite_none_right_eq_some.mp stepped
      refine ⟨alive.notTimedOut, alive.enabled, fun running => ?_⟩
      have beating := alive.beating running
      have := pingAfter_pos (by omega : 0 < effectiveHeartbeat options serverKp)
      have ticked := beating.ticked
      rw [updateLastSent, if_pos (alive.enabled running)]
      refine ⟨ticked.trans later, beating.received.trans later, ?_, timely⟩
      change s.lastTick < now + pingAfter _
      omega
  | receive now =>
      obtain ⟨later, ⟨⟩⟩ := Option.ite_none_right_eq_some.mp stepped
      refine ⟨alive.notTimedOut, alive.enabled, fun running => ?_⟩
      have beating := alive.beating running
      have received := beating.received
      have slack := beating.slack
      rw [updateLastReceived, if_pos (alive.enabled running)]
      refine ⟨beating.ticked.trans later, le_rfl, beating.recent, ?_⟩
      change s.clocks.lastSent + pingAfter _ + checkInterval _ ≤
        now + timeOutAfter _
      omega

/-- A client whose pushes are all timely is never dropped by its keepalive. -/
theorem never_timed_out {start : Nat} {events : List KeepaliveEvent}
    (atLeast : 2 ≤ effectiveHeartbeat options serverKp)
    (timely : EventRun.Meets (KeepaliveSystem.step options serverKp loop)
      (TimelyPush options serverKp)
      (KeepaliveSystem.start options serverKp start) events)
    (executed : EventRun.run (KeepaliveSystem.step options serverKp loop)
      (KeepaliveSystem.start options serverKp start) events = some s) :
    s.timedOut = false := by
  have alive : Alive options serverKp s :=
    EventRun.invariant_of_meets (Alive options serverKp)
      (fun alive timely stepped => alive.step atLeast timely stepped)
      (start_alive atLeast start) timely executed
  exact alive.notTimedOut

/-- A push at the last timely moment, and a heartbeat later the PINGREQ. -/
theorem never_timed_out_pushing_once :
    let options : HeartbeatOptions := ⟨10, false, by decide⟩
    let events : List KeepaliveEvent :=
      [.tick 2500000000 false, .push 2500000000, .tick 5000000000 false,
        .tick 7500000000 false, .tick 10000000000 false,
        .tick 12500000000 false, .tick 15000000000 false]
    ∃ s, EventRun.run (KeepaliveSystem.step options 0 .keepalive)
        (KeepaliveSystem.start options 0 0) events = some s ∧
      s.clocks.lastReceived = 12500000000 ∧ s.timedOut = false := by
  intro options events
  have outcome : (EventRun.run (KeepaliveSystem.step ⟨10, false, by decide⟩ 0
      .keepalive) (KeepaliveSystem.start ⟨10, false, by decide⟩ 0 0)
        [.tick 2500000000 false, .push 2500000000, .tick 5000000000 false,
          .tick 7500000000 false, .tick 10000000000 false,
          .tick 12500000000 false, .tick 15000000000 false]).map
        (fun s => s.clocks.lastReceived) = some 12500000000 := by
    decide +kernel
  obtain ⟨s, executed, received⟩ := Option.map_eq_some_iff.mp outcome
  exact ⟨s, executed, received,
    never_timed_out (by decide) (by decide +kernel) executed⟩

/-- A push nine seconds into a heartbeat of ten puts the PINGREQ off beyond the
time-out, although the server would have answered it. -/
theorem push_hides_silence :
    let events : List KeepaliveEvent :=
      [.tick 2500000000 false, .tick 5000000000 false, .tick 7500000000 false,
        .push 9000000000, .tick 10000000000 false, .tick 12500000000 false,
        .tick 15000000000 false]
    let timesOut (adaptive : Bool) (loop : KeepaliveLoop) : Prop :=
      (EventRun.run (KeepaliveSystem.step ⟨10, adaptive, by decide⟩ 10 loop)
        (KeepaliveSystem.start ⟨10, adaptive, by decide⟩ 10 0) events).map
          timedOut = some true
    timesOut false .keepalive ∧ timesOut true .fixedKeepalive := by
  decide +kernel

end KeepaliveSystem

end Survival

section Sharpness

namespace KeepaliveSystem

variable {options : HeartbeatOptions} {serverKp : UInt16} {loop : KeepaliveLoop}
  {s : KeepaliveSystem}

theorem round_unanswered (clocks : Clocks) (now : Nat) :
    loop.round options serverKp clocks now false =
      checkRound options serverKp clocks now false := by
  cases loop <;> rfl

theorem step_tick {now : Nat} (running : s.running = true) (later : s.now ≤ now)
    (inTime : now ≤ s.lastTick +
      checkInterval (effectiveHeartbeat options serverKp)) :
    step options serverKp loop s (.tick now false) =
      some ⟨(checkRound options serverKp s.clocks now false).1, now, now,
        !(checkRound options serverKp s.clocks now false).2,
        (checkRound options serverKp s.clocks now false).2⟩ := by
  simp only [step, if_pos (And.intro running (And.intro later inTime)),
    round_unanswered]

theorem exists_late_tick (positive : 0 < effectiveHeartbeat options serverKp)
    (running : s.running = true)
    (due : s.now ≤ s.lastTick +
      checkInterval (effectiveHeartbeat options serverKp))
    (late : timeOutAfter (effectiveHeartbeat options serverKp) ≤
      s.lastTick + checkInterval (effectiveHeartbeat options serverKp) -
        s.clocks.lastReceived) :
    ∃ next, step options serverKp loop s (.tick (s.lastTick +
        checkInterval (effectiveHeartbeat options serverKp)) false) = some next ∧
      next.timedOut = true := by
  refine ⟨_, step_tick running due le_rfl, ?_⟩
  simp only [checkRound, if_neg (not_le.mpr positive)]
  exact decide_eq_true late

theorem checkRound_sends_nothing {clocks : Clocks} {now : Nat}
    (recent : now < clocks.lastSent +
      pingAfter (effectiveHeartbeat options serverKp))
    (sent : clocks.lastSent ≤ now) :
    (checkRound options serverKp clocks now false).1 = clocks := by
  unfold checkRound
  simp only
  split
  · rfl
  · rw [if_neg (by omega)]

def lookedAt (s : KeepaliveSystem) (moment : Nat) : KeepaliveSystem :=
  { s with now := moment, lastTick := moment, timedOut := false }

theorem lookedAt_lastTick (moment : Nat) :
    (s.lookedAt moment).lastTick = moment :=
  rfl

theorem exists_tick {moment : Nat} (running : s.running = true)
    (sent : s.clocks.lastSent ≤ s.now) (later : s.now ≤ moment)
    (inTime : moment ≤ s.lastTick +
      checkInterval (effectiveHeartbeat options serverKp))
    (recent : moment < s.clocks.lastSent +
      pingAfter (effectiveHeartbeat options serverKp)) :
    ∃ next, EventRun.run (step options serverKp loop) s [.tick moment false] =
        some next ∧
      (next.timedOut = true ∨ next = s.lookedAt moment) := by
  refine ⟨_, EventRun.run_cons_eq_some.mpr
    ⟨_, step_tick running later inTime, rfl⟩, ?_⟩
  rw [checkRound_sends_nothing recent (sent.trans later)]
  cases (checkRound options serverKp s.clocks moment false).2 with
  | false =>
      right
      simp [lookedAt, running]
  | true => exact .inl rfl

/-- While the heartbeat lasts, the loop can be made to look at any moment: it
gives up on the way or has changed nothing. -/
theorem exists_ticks_to {moment : Nat} (running : s.running = true)
    (sent : s.clocks.lastSent ≤ s.now)
    (due : s.now ≤ s.lastTick +
      checkInterval (effectiveHeartbeat options serverKp))
    (later : s.now ≤ moment)
    (recent : moment < s.clocks.lastSent +
      pingAfter (effectiveHeartbeat options serverKp)) :
    ∃ events finish, EventRun.run (step options serverKp loop) s events =
        some finish ∧
      (finish.timedOut = true ∨ finish = s.lookedAt moment) := by
  have positive := checkInterval_pos (effectiveHeartbeat options serverKp)
  obtain ⟨interval, intervalIs⟩ : ∃ interval,
      checkInterval (effectiveHeartbeat options serverKp) = interval := ⟨_, rfl⟩
  rw [intervalIs] at due positive
  -- The number of intervals up to the moment bounds the ticks on the way.
  obtain ⟨count, bound⟩ : ∃ count, moment ≤ s.lastTick + count * interval :=
    ⟨moment, Nat.le_add_left_of_le (Nat.le_mul_of_pos_right moment positive)⟩
  induction count generalizing s with
  | zero =>
      exact ⟨_, exists_tick running sent later (by omega) recent⟩
  | succ count ih =>
      rcases Nat.lt_or_ge (s.lastTick + interval) moment with far | near
      · obtain ⟨next, ticked, timedOut | rfl⟩ := @exists_tick options serverKp
          loop s (s.lastTick + interval) running sent due (by omega) (by omega)
        · exact ⟨_, next, ticked, .inl timedOut⟩
        · rw [Nat.succ_mul] at bound
          obtain ⟨events, finish, executed, result⟩ := @ih
            (s.lookedAt (s.lastTick + interval)) running (sent.trans due) far.le
            recent (Nat.le_add_right _ _) (by rw [lookedAt_lastTick]; omega)
          refine ⟨[.tick (s.lastTick + interval) false] ++ events, finish, ?_,
            result⟩
          rw [EventRun.run_append, ticked]
          exact executed
      · exact ⟨_, exists_tick running sent later (by omega) recent⟩

/-- After a push that is not timely the server's silence alone can end the
connection. -/
theorem untimely_push_can_time_out {now : Nat} (enabled : options.Enabled)
    (positive : 0 < effectiveHeartbeat options serverKp)
    (running : s.running = true) (later : s.now ≤ now)
    (due : now ≤ s.lastTick +
      checkInterval (effectiveHeartbeat options serverKp))
    (untimely : ¬ TimelyPush options serverKp s (.push now)) :
    ∃ events finish, EventRun.run (step options serverKp loop) s
        (.push now :: events) = some finish ∧ finish.timedOut = true := by
  have pingPositive := pingAfter_pos positive
  have intervalPositive := checkInterval_pos (effectiveHeartbeat options serverKp)
  have pushed : step options serverKp loop s (.push now) =
      some { s with clocks := { s.clocks with lastSent := now }, now } := by
    simp [step, later, updateLastSent, enabled]
  -- The loop looks just before the heartbeat ends, and again an interval later.
  obtain ⟨last, lastIs⟩ : ∃ last, last + 1 =
      now + pingAfter (effectiveHeartbeat options serverKp) :=
    ⟨now + pingAfter (effectiveHeartbeat options serverKp) - 1, by omega⟩
  obtain ⟨events, looked, executed, result⟩ := @exists_ticks_to options serverKp
    loop { s with clocks := { s.clocks with lastSent := now }, now } last running
    le_rfl due (by simp only; omega) (by simp only; omega)
  rcases result with timedOut | rfl
  · exact ⟨events, looked, EventRun.run_cons_eq_some.mpr ⟨_, pushed, executed⟩,
      timedOut⟩
  · have late : timeOutAfter (effectiveHeartbeat options serverKp) ≤
        last + checkInterval (effectiveHeartbeat options serverKp) -
          s.clocks.lastReceived := by
      simp only [TimelyPush] at untimely
      omega
    obtain ⟨finish, ticked, timedOut⟩ := @exists_late_tick options serverKp loop
      (KeepaliveSystem.lookedAt { s with
        clocks := { s.clocks with lastSent := now }, now } last)
      positive running (Nat.le_add_right _ _) late
    refine ⟨events ++ [.tick
      (last + checkInterval (effectiveHeartbeat options serverKp)) false], finish,
      EventRun.run_cons_eq_some.mpr ⟨_, pushed, ?_⟩, timedOut⟩
    exact EventRun.run_concat executed ticked

end KeepaliveSystem

end Sharpness

end Client

end RmttGo
