import RmttGo.StatusPhases

/-!
# A requested disconnect is final

Once a `Disconnecting` has taken the lock, the status does not come up again
until a new `Connecting` succeeds.
-/

namespace RmttGo

namespace Client

open StatusSystem EventRun

section Finality

/-- The connection will not come back by itself: the status is on the way
down, and whoever still handles a loss will not ask for a reconnect. -/
structure Ending (s : StatusSystem) : Prop where
  down : s.shared.status = .disconnected ∨ s.shared.status = .disconnecting
  noReturn : s.shared.willReconnect = false ∨
    (∀ reconnectRequested,
      .connectionLostHandler reconnectRequested ∉ s.outstanding) ∧
    ∀ goroutine connectDone willReconnect,
      s.calls goroutine ≠ .awaitLost connectDone willReconnect

/-- The step is not a `Connecting` that succeeds. -/
def NoNewConnection (s : StatusSystem) : StatusEvent → Prop
  | .connecting _ => s.shared.status ≠ .disconnected
  | _ => True

theorem Ending.record_of_cancelled {s : StatusSystem} {goroutine : Nat}
    {call : Call} {c : ConnectionStatus}
    (down : c.status = .disconnected ∨ c.status = .disconnecting)
    (cancelled : c.willReconnect = false) :
    Ending (s.record goroutine (call, c)) :=
  ⟨down, .inl cancelled⟩

/-- Nobody handles a loss, and the call that is recorded does not begin to. -/
theorem Ending.record_of_none_lost {s : StatusSystem} {goroutine : Nat}
    {call : Call} {c : ConnectionStatus}
    (down : c.status = .disconnected ∨ c.status = .disconnecting)
    (noneOutstanding : ∀ reconnectRequested,
      .connectionLostHandler reconnectRequested ∉ s.outstanding)
    (noneWaiting : ∀ other connectDone willReconnect,
      s.calls other ≠ .awaitLost connectDone willReconnect)
    (notLost : ∀ connectDone willReconnect,
      call ≠ .awaitLost connectDone willReconnect)
    (noHandler : ∀ reconnectRequested,
      .connectionLostHandler reconnectRequested ∉ call.handedOut) :
    Ending (s.record goroutine (call, c)) := by
  refine ⟨down, .inr ⟨?_, ?_⟩⟩
  · intro reconnectRequested member
    rcases List.mem_append.mp member with member | member
    · exact noHandler _ member
    · exact noneOutstanding _ member
  · intro other connectDone willReconnect
    by_cases same : other = goroutine
    · subst same
      simpa [StatusSystem.record] using notLost connectDone willReconnect
    · simpa [StatusSystem.record, same] using
        noneWaiting other connectDone willReconnect

theorem Ending.record_of_kept {s : StatusSystem} {goroutine : Nat} {call : Call}
    {c : ConnectionStatus} (ending : Ending s)
    (down : c.status = .disconnected ∨ c.status = .disconnecting)
    (kept : c.willReconnect = s.shared.willReconnect)
    (notLost : ∀ connectDone willReconnect,
      call ≠ .awaitLost connectDone willReconnect)
    (noHandler : ∀ reconnectRequested,
      .connectionLostHandler reconnectRequested ∉ call.handedOut) :
    Ending (s.record goroutine (call, c)) := by
  rcases ending.noReturn with cancelled | ⟨noneOutstanding, noneWaiting⟩
  · exact .record_of_cancelled down (kept.trans cancelled)
  · exact .record_of_none_lost down noneOutstanding noneWaiting notLost noHandler

theorem Ending.use {s : StatusSystem} (ending : Ending s)
    (function : Completion) : Ending (s.use function) where
  down := ending.down
  noReturn := by
    rcases ending.noReturn with cancelled | ⟨noneOutstanding, noneWaiting⟩
    · exact .inl cancelled
    · refine .inr ⟨?_, noneWaiting⟩
      intro reconnectRequested member
      exact noneOutstanding _ (List.mem_of_mem_erase member)

/-- A `Disconnecting` that takes the lock while there is a connection, or an
attempt at one, begins the end. -/
theorem Ending.of_disconnecting {s : StatusSystem} {phase : Phase}
    {goroutine : Nat} (inPhase : InPhase s phase)
    (notDisconnected : s.shared.status ≠ .disconnected) :
    Ending (s.record goroutine s.shared.disconnecting) := by
  have noneWaiting : phase.driver = none → ∀ other connectDone willReconnect,
      s.calls other ≠ .awaitLost connectDone willReconnect := by
    intro noDriver other connectDone willReconnect waits
    have driving := inPhase.driving other
    simp [waits, noDriver, Call.Driving] at driving
  rcases s.shared.status.down_or_trying_or_connected with
    (disconnected | underWay) | trying | isConnected
  · exact absurd disconnected notDisconnected
  · rw [ConnectionStatus.disconnecting_of_disconnecting underWay]
    exact .record_of_cancelled (.inr underWay) rfl
  · obtain rfl := Phase.eq_attempting_of_allows inPhase.allowed trying
    rw [ConnectionStatus.disconnecting_of_trying trying]
    refine .record_of_none_lost (.inr rfl) ?_ (noneWaiting rfl) ?_ ?_
    · simp [inPhase.outstanding, Phase.outstanding]
    · rintro _ _ ⟨⟩
    · simp [Call.handedOut]
  · obtain rfl := Phase.eq_settled_of_allows inPhase.allowed (.inr isConnected)
    rw [ConnectionStatus.disconnecting_of_connected isConnected]
    refine .record_of_none_lost (.inr rfl) ?_ (noneWaiting rfl) ?_ ?_
    · simp [inPhase.outstanding, Phase.outstanding]
    · rintro _ _ ⟨⟩
    · simp [Call.handedOut]

theorem Ending.next {s later : StatusSystem} {phase : Phase}
    {event : StatusEvent} (ending : Ending s) (inPhase : InPhase s phase)
    (noNew : NoNewConnection s event) (stepTo : s.StepTo event later) :
    Ending later := by
  cases stepTo with
  | connecting ready =>
      obtain ⟨error, refused⟩ :=
        ConnectionStatus.connecting_of_ne_disconnected noNew
      rw [refused]
      exact ending.record_of_kept ending.down rfl (by rintro _ _ ⟨⟩)
        (by rintro _ ⟨⟩)
  | disconnecting ready =>
      rcases ending.down with disconnected | underWay
      · rw [ConnectionStatus.disconnecting_of_disconnected disconnected]
        exact ending.record_of_kept ending.down rfl (by rintro _ _ ⟨⟩)
          (by rintro _ ⟨⟩)
      · rw [ConnectionStatus.disconnecting_of_disconnecting underWay]
        exact .record_of_cancelled (.inr underWay) rfl
  | connectionLost ready =>
      obtain ⟨error, refused⟩ :=
        ConnectionStatus.connectionLost_of_down ending.down
      rw [refused]
      exact ending.record_of_kept ending.down rfl (by rintro _ _ ⟨⟩)
        (by rintro _ ⟨⟩)
  | @resume goroutine outcome resumed =>
      generalize current : s.calls goroutine = call at resumed
      rcases ending.noReturn with cancelled | ⟨-, noneWaiting⟩
      · cases ConnectionStatus.resumed_of_resume resumed <;>
          exact .record_of_cancelled ending.down cancelled
      · cases ConnectionStatus.resumed_of_resume resumed with
        | lostForGood | lost => exact absurd current (noneWaiting _ _ _)
        | relocked =>
            exact ending.record_of_kept ending.down rfl (by rintro _ _ ⟨⟩)
              (by simp [Call.handedOut])
        | _ =>
            exact ending.record_of_kept ending.down rfl (by rintro _ _ ⟨⟩)
              (by rintro _ ⟨⟩)
  | @complete goroutine function argument outcome ready available completed =>
      have used := ending.use function
      obtain ⟨result, c⟩ := outcome
      cases ConnectionStatus.completed_of_complete completed with
      | aborted underWay =>
          exact used.record_of_kept (.inr underWay) rfl (by rintro _ _ ⟨⟩)
            (by rintro _ ⟨⟩)
      | ended undecided =>
          have disconnected := ending.down.resolve_right undecided
          obtain rfl :=
            Phase.eq_settled_of_allows inPhase.allowed (.inl disconnected)
          rw [inPhase.outstanding] at available
          cases available
      | disconnected =>
          exact used.record_of_kept (.inl rfl) rfl (by rintro _ _ ⟨⟩)
            (by rintro _ ⟨⟩)
      | stopped =>
          refine used.record_of_kept (.inl rfl) rfl (by rintro _ _ ⟨⟩) ?_
          split <;> rintro _ ⟨⟩
      | reconnecting wanted =>
          rcases ending.noReturn with cancelled | ⟨noneOutstanding, -⟩
          · cases cancelled.symm.trans wanted
          · exact absurd available (noneOutstanding _)
  | panic ready available completed =>
      exact ⟨ending.down, ending.noReturn⟩

/-- A requested disconnect is final: after a `Disconnecting` that took the lock
with the status not disconnected, the status is not connected, connecting or
reconnecting until a later `Connecting` succeeds. -/
theorem requested_disconnect_is_final {before after : List StatusEvent}
    {s requested later : StatusSystem} {goroutine : Nat}
    (reached : run step .initial before = some s)
    (notDisconnected : s.shared.status ≠ .disconnected)
    (taken : step s (.disconnecting goroutine) = some requested)
    (noNew : Meets step NoNewConnection requested after)
    (executed : run step requested after = some later) :
    later.shared.status ≠ .connected ∧ later.shared.status ≠ .connecting ∧
      later.shared.status ≠ .reconnecting := by
  obtain ⟨ending, -⟩ : Ending later ∧ ∃ phase, InPhase later phase := by
    refine invariant_of_meets (fun s => Ending s ∧ ∃ phase, InPhase s phase)
      ?_ ?_ noNew executed
    · rintro state next event ⟨ending, phase, inPhase⟩ noNew stepped
      have stepTo := stepTo_of_step stepped
      obtain ⟨target, -, inTarget⟩ := inPhase.next stepTo
      exact ⟨ending.next inPhase noNew stepTo, target, inTarget⟩
    · obtain ⟨phase, inPhase⟩ := exists_inPhase reached
      have stepTo := stepTo_of_step taken
      obtain ⟨target, -, inTarget⟩ := inPhase.next stepTo
      cases stepTo with
      | disconnecting ready =>
          exact ⟨.of_disconnecting inPhase notDisconnected, target, inTarget⟩
  rcases ending.down with status | status <;> simp [status]

/-- A disconnect during a reconnect whose attempt succeeds afterwards. -/
theorem requested_disconnect_is_final_during_reconnect :
    ∃ s requested later,
      run step .initial
          [.connecting 0, .complete 0 .connected true, .connectionLost 1 true,
            .complete 1 (.connectionLostHandler true) true] = some s ∧
      s.shared.status = .reconnecting ∧
      step s (.disconnecting 2) = some requested ∧
      run step requested [.complete 1 .connected true, .resume 2] = some later ∧
      later.shared.status ≠ .connected ∧ later.shared.status ≠ .connecting ∧
      later.shared.status ≠ .reconnecting := by
  obtain ⟨s, reached⟩ : ∃ s, run step .initial
      [.connecting 0, .complete 0 .connected true, .connectionLost 1 true,
        .complete 1 (.connectionLostHandler true) true] = some s := ⟨_, rfl⟩
  obtain ⟨requested, taken⟩ :
      ∃ requested, step s (.disconnecting 2) = some requested := by
    cases reached
    exact ⟨_, rfl⟩
  obtain ⟨later, executed⟩ : ∃ later,
      run step requested [.complete 1 .connected true, .resume 2] =
        some later := by
    cases reached
    cases taken
    exact ⟨_, rfl⟩
  have status : s.shared.status = .reconnecting := by
    cases reached
    rfl
  refine ⟨s, requested, later, reached, status, taken, executed, ?_⟩
  refine requested_disconnect_is_final reached (by simp [status]) taken ?_
    executed
  simp [Meets, NoNewConnection]

end Finality

end Client

end RmttGo
