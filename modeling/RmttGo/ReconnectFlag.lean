import RmttGo.StatusPhases

/-!
# The reconnect flag

`ConnectionLost` records in `willReconnect` whether the client wants the
connection back, and `Disconnecting` clears the flag when it finds a teardown
under way.  The flag outlives the reconnect it was set for, so a later
`Disconnecting` can start a teardown under a flag that belongs to an earlier
one.  This file says exactly when that happens, and when a reconnect can count
on the flag.
-/

namespace RmttGo

namespace Client

open EventRun StatusSystem

section Held

/-- A reconnect, and a disconnect that interrupted one, run with the flag
set. -/
structure FlagHeld (s : StatusSystem) : Prop where
  reconnecting : s.shared.status = .reconnecting → s.shared.willReconnect = true
  disconnect : ∀ {goroutine connectDone},
    s.calls goroutine = .awaitConnect connectDone .reconnecting →
      s.shared.willReconnect = true

theorem FlagHeld.record {s : StatusSystem} {goroutine : Nat} {call : Call}
    {c : ConnectionStatus}
    (reconnecting : c.status = .reconnecting → c.willReconnect = true)
    (kept : ∀ other connectDone,
      s.calls other = .awaitConnect connectDone .reconnecting →
        c.willReconnect = true)
    (disconnect : ∀ connectDone,
      call = .awaitConnect connectDone .reconnecting → c.willReconnect = true) :
    FlagHeld (s.record goroutine (call, c)) where
  reconnecting := reconnecting
  disconnect := by
    intro other connectDone waits
    by_cases same : other = goroutine
    · subst same
      exact disconnect _ (by simpa [StatusSystem.record] using waits)
    · exact kept other _ (by simpa [StatusSystem.record, same] using waits)

theorem FlagHeld.record_of_kept {s : StatusSystem} {goroutine : Nat}
    {call : Call} {c : ConnectionStatus} (held : FlagHeld s)
    (notWaiting : call.awaited = none)
    (kept : c.willReconnect = s.shared.willReconnect)
    (reconnecting : c.status = .reconnecting → s.shared.willReconnect = true) :
    FlagHeld (s.record goroutine (call, c)) := by
  apply FlagHeld.record
  · rwa [kept]
  · intro other connectDone waits
    rw [kept]
    exact held.disconnect waits
  · rintro connectDone rfl
    cases notWaiting

/-- Where nobody drives, a step may set the flag as it likes. -/
theorem InPhase.flagHeld_record {s : StatusSystem} {phase : Phase}
    {goroutine : Nat} {call : Call} {c : ConnectionStatus}
    (inPhase : InPhase s phase) (noDriver : phase.driver = none)
    (notReconnecting : c.status ≠ .reconnecting)
    (notInterrupting : ∀ connectDone,
      call ≠ .awaitConnect connectDone .reconnecting) :
    FlagHeld (s.record goroutine (call, c)) := by
  refine FlagHeld.record (fun status => absurd status notReconnecting) ?_
    (fun connectDone waits => absurd waits (notInterrupting connectDone))
  intro other connectDone waits
  have driving : (s.calls other).Driving := by
    rw [waits]
    trivial
  cases noDriver.symm.trans ((inPhase.driving other).mp driving)

theorem FlagHeld.next {s later : StatusSystem} {phase : Phase}
    {event : StatusEvent} (held : FlagHeld s) (inPhase : InPhase s phase)
    (notOvertaken : ∀ goroutine, event = .disconnecting goroutine →
      s.shared.status = .disconnecting → ∀ other connectDone,
        s.calls other ≠ .awaitConnect connectDone .reconnecting)
    (stepTo : s.StepTo event later) : FlagHeld later := by
  cases stepTo with
  | connecting ready =>
      by_cases disconnected : s.shared.status = .disconnected
      · rw [ConnectionStatus.connecting_of_disconnected disconnected]
        exact held.record_of_kept rfl rfl (by rintro ⟨⟩)
      · obtain ⟨error, refused⟩ :=
          ConnectionStatus.connecting_of_ne_disconnected disconnected
        rw [refused]
        exact held.record_of_kept rfl rfl held.reconnecting
  | @disconnecting goroutine ready =>
      rcases s.shared.status.down_or_trying_or_connected with
        (disconnected | underWay) | trying | isConnected
      · rw [ConnectionStatus.disconnecting_of_disconnected disconnected]
        exact held.record_of_kept rfl rfl held.reconnecting
      · rw [ConnectionStatus.disconnecting_of_disconnecting underWay]
        refine FlagHeld.record ?_ ?_ (by rintro _ ⟨⟩)
        · intro reconnecting
          cases underWay.symm.trans reconnecting
        · intro other connectDone waits
          exact absurd waits (notOvertaken goroutine rfl underWay other connectDone)
      · rw [ConnectionStatus.disconnecting_of_trying trying]
        refine FlagHeld.record (by rintro ⟨⟩) (fun _ _ => held.disconnect) ?_
        intro connectDone waits
        injection waits with _ reconnecting
        exact held.reconnecting reconnecting
      · rw [ConnectionStatus.disconnecting_of_connected isConnected]
        exact held.record_of_kept rfl rfl (by rintro ⟨⟩)
  | @connectionLost goroutine willReconnect ready =>
      rcases s.shared.status.down_or_trying_or_connected with
        down | trying | isConnected
      · obtain ⟨error, refused⟩ := ConnectionStatus.connectionLost_of_down down
        rw [refused]
        exact held.record_of_kept rfl rfl held.reconnecting
      · obtain rfl := Phase.eq_attempting_of_allows inPhase.allowed trying
        rw [ConnectionStatus.connectionLost_of_trying trying]
        exact inPhase.flagHeld_record rfl (by rintro ⟨⟩) (by rintro _ ⟨⟩)
      · obtain rfl :=
          Phase.eq_settled_of_allows inPhase.allowed (.inr isConnected)
        rw [ConnectionStatus.connectionLost_of_connected isConnected]
        exact inPhase.flagHeld_record rfl (by rintro ⟨⟩) (by rintro _ ⟨⟩)
  | @resume goroutine outcome resumed =>
      generalize s.calls goroutine = call at resumed
      cases ConnectionStatus.resumed_of_resume resumed <;>
        exact held.record_of_kept rfl rfl held.reconnecting
  | @complete goroutine function argument outcome ready available completed =>
      have used : FlagHeld (s.use function) :=
        ⟨held.reconnecting, held.disconnect⟩
      obtain ⟨result, c⟩ := outcome
      cases ConnectionStatus.completed_of_complete completed with
      | aborted underWay =>
          exact used.record_of_kept rfl rfl held.reconnecting
      | ended undecided =>
          refine used.record_of_kept rfl rfl ?_
          cases argument <;> rintro ⟨⟩
      | disconnected => exact used.record_of_kept rfl rfl (by rintro ⟨⟩)
      | stopped => exact used.record_of_kept rfl rfl (by rintro ⟨⟩)
      | reconnecting wanted =>
          exact used.record_of_kept rfl rfl (fun _ => wanted)
  | panic ready available completed =>
      exact ⟨held.reconnecting, held.disconnect⟩

end Held

section Starter

/-- The operation that started the teardown in progress. -/
def noteStarter (s : StatusSystem) (event : StatusEvent) (later : StatusSystem)
    (starter : Option StatusEvent) : Option StatusEvent :=
  if later.shared.status ≠ .disconnecting then none
  else if s.shared.status = .disconnecting then starter
  else some event

/-- A teardown with the reconnect flag set was started by a loss of the
connection that asked for the reconnect. -/
def FlagOfStarter (s : StatusSystem × Option StatusEvent) : Prop :=
  s.1.shared.status = .disconnecting → s.1.shared.willReconnect = true →
    ∃ goroutine, s.2 = some (.connectionLost goroutine true)

/-- No disconnect interrupts an attempt or a connection while the flag of an
earlier loss is still set. -/
def FlagCleared (s : StatusSystem) : StatusEvent → Prop
  | .disconnecting _ =>
      s.shared.status = .connecting ∨ s.shared.status = .reconnecting ∨
        s.shared.status = .connected → s.shared.willReconnect = false
  | _ => True

/-- What a step can do that leaves a teardown with the flag set. -/
inductive FlaggedStep (s : StatusSystem) : StatusEvent → Prop
  | goesOn {event : StatusEvent} (underWay : s.shared.status = .disconnecting)
      (flag : s.shared.willReconnect = true) : FlaggedStep s event
  | lost {goroutine : Nat} (starts : s.shared.status ≠ .disconnecting) :
      FlaggedStep s (.connectionLost goroutine true)
  | stale {goroutine : Nat}
      (interrupted : s.shared.status = .connecting ∨
        s.shared.status = .reconnecting ∨ s.shared.status = .connected)
      (flag : s.shared.willReconnect = true) :
      FlaggedStep s (.disconnecting goroutine)

theorem ConnectionStatus.disconnecting_interrupts {c : ConnectionStatus}
    (interrupted : c.status = .connecting ∨ c.status = .reconnecting ∨
      c.status = .connected) :
    c.disconnecting.2.status = .disconnecting ∧
      c.disconnecting.2.willReconnect = c.willReconnect := by
  rcases or_assoc.mpr interrupted with trying | isConnected
  · simp [disconnecting_of_trying trying]
  · simp [disconnecting_of_connected isConnected, makeActionCompleted]

theorem flaggedStep {s later : StatusSystem} {event : StatusEvent}
    (stepTo : s.StepTo event later)
    (underWay : later.shared.status = .disconnecting)
    (flag : later.shared.willReconnect = true) : FlaggedStep s event := by
  cases stepTo with
  | connecting ready =>
      by_cases disconnected : s.shared.status = .disconnected
      · rw [ConnectionStatus.connecting_of_disconnected disconnected] at underWay
        cases underWay
      · obtain ⟨error, refused⟩ :=
          ConnectionStatus.connecting_of_ne_disconnected disconnected
        rw [refused] at underWay flag
        exact .goesOn underWay flag
  | disconnecting ready =>
      rcases s.shared.status.down_or_trying_or_connected with
        (disconnected | alreadyUnderWay) | trying | isConnected
      · rw [ConnectionStatus.disconnecting_of_disconnected disconnected]
          at underWay
        cases disconnected.symm.trans underWay
      · rw [ConnectionStatus.disconnecting_of_disconnecting alreadyUnderWay]
          at flag
        cases flag
      · rw [ConnectionStatus.disconnecting_of_trying trying] at flag
        exact .stale (trying.imp_right .inl) flag
      · rw [ConnectionStatus.disconnecting_of_connected isConnected] at flag
        exact .stale (.inr (.inr isConnected)) flag
  | connectionLost ready =>
      rcases s.shared.status.down_or_trying_or_connected with
        down | trying | isConnected
      · obtain ⟨error, refused⟩ := ConnectionStatus.connectionLost_of_down down
        rw [refused] at underWay flag
        exact .goesOn underWay flag
      · rw [ConnectionStatus.connectionLost_of_trying trying] at flag
        cases flag
        apply FlaggedStep.lost
        rcases trying with trying | trying <;> simp [trying]
      · rw [ConnectionStatus.connectionLost_of_connected isConnected] at flag
        cases flag
        apply FlaggedStep.lost
        simp [isConnected]
  | @resume goroutine outcome resumed =>
      generalize s.calls goroutine = call at resumed
      cases ConnectionStatus.resumed_of_resume resumed <;>
        exact .goesOn underWay flag
  | @complete goroutine function argument outcome ready available completed =>
      obtain ⟨result, shared⟩ := outcome
      cases ConnectionStatus.completed_of_complete completed with
      | aborted alreadyUnderWay => exact .goesOn alreadyUnderWay flag
      | ended undecided => cases argument <;> cases underWay
      | disconnected => cases underWay
      | stopped stopped => cases underWay
      | reconnecting wanted proceed => cases underWay
  | panic ready available completed => exact .goesOn underWay flag

/-- The flag of a teardown belongs to the loss that started it exactly in the
runs that clear the flag before a disconnect starts a teardown. -/
theorem flag_of_starter_iff (events : List StatusEvent) :
    Always (recorded step noteStarter) FlagOfStarter (.initial, none) events ↔
      Meets step FlagCleared .initial events := by
  rw [← meets_recorded]
  refine always_iff_meets FlagOfStarter id ?_ ?_ ?_
  · rintro ⟨s, starter⟩ _ event started cleared recordedStep
    obtain ⟨later, stepped, rfl⟩ := recorded_eq_some.mp recordedStep
    intro (underWay : later.shared.status = .disconnecting)
      (flag : later.shared.willReconnect = true)
    cases flaggedStep (stepTo_of_step stepped) underWay flag with
    | goesOn alreadyUnderWay wasSet =>
        simpa [noteStarter, underWay, alreadyUnderWay] using
          started alreadyUnderWay wasSet
    | @lost goroutine starts =>
        exact ⟨goroutine, by simp [noteStarter, underWay, starts]⟩
    | stale interrupted wasSet =>
        cases wasSet.symm.trans (cleared interrupted)
  · rintro ⟨s, starter⟩ _ event - stale recordedStep
    dsimp only at stale
    obtain ⟨later, stepped, rfl⟩ := recorded_eq_some.mp recordedStep
    cases event with
    | disconnecting goroutine =>
        obtain ⟨interrupted, isSet⟩ := Classical.not_imp.mp stale
        have starts : s.shared.status ≠ .disconnecting := by
          rcases interrupted with status | status | status <;> simp [status]
        obtain ⟨underWay, kept⟩ :=
          ConnectionStatus.disconnecting_interrupts interrupted
        cases stepTo_of_step stepped
        intro started
        obtain ⟨loser, isLoss⟩ :=
          started underWay (kept.trans (by simpa using isSet))
        simp [noteStarter, record, underWay, starts] at isLoss
    | connecting goroutine => exact absurd trivial stale
    | connectionLost goroutine willReconnect => exact absurd trivial stale
    | resume goroutine => exact absurd trivial stale
    | complete goroutine function argument => exact absurd trivial stale
  · rintro ⟨⟩

/-- A connection is lost and comes back.  The disconnect of goroutine 1 then
runs under the flag of the loss. -/
theorem disconnect_after_reconnect_is_flagged :
    ∃ s, run (recorded step noteStarter) (.initial, none)
          [.connecting 0, .complete 0 .connected true, .connectionLost 0 true,
            .complete 0 (.connectionLostHandler true) true,
            .complete 0 .connected true, .disconnecting 1] = some s ∧
      s.1.shared.status = .disconnecting ∧ s.1.shared.willReconnect = true ∧
      s.2 = some (.disconnecting 1) ∧ ¬ FlagOfStarter s := by
  refine ⟨_, rfl, rfl, rfl, rfl, ?_⟩
  intro started
  obtain ⟨goroutine, isLoss⟩ := started rfl rfl
  cases isLoss

end Starter

end Client

end RmttGo
