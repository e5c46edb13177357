import RmttGo.ChunkingIndependence
import RmttGo.NetworkProgress

/-!
# A connection is torn down in bounded time

Every step of a goroutine brings what it handles closer to its end.  The numbers
below count the steps that are still to come; only a message that is taken over
and a tick add to them.
-/

namespace RmttGo

namespace Client

open Codec

section Remaining

/-! The steps a goroutine may still take, with those of others that its values
lead to. -/

def Reader.remaining : Reader → Nat
  | .finished => 0
  | .closing => 1
  | .sending (.err _) => 6
  | .failed _ => 7
  | .reading => 8
  | .sending (.cp _) => 14

def Sorter.remaining : Sorter → Nat
  | .finished => 0
  | .selecting => 1
  | .disconnecting _ => 2
  | .sending _ => 5
  | .sorting _ => 6

def Forwarder.remaining : Forwarder → Nat
  | .finished => 0
  | .leaving => 1
  | .closingPublish => 2
  | .closingOutbound => 3
  | .ranging => 4
  | .forwarding _ => 7

def ErrorSource.remaining : ErrorSource → Nat
  | .finished => 0
  | .writing => 1
  | .sending _ => 4

def ErrorForwarder.remaining : ErrorForwarder → Nat
  | .finished => 0
  | .leaving => 1
  | .ranging => 2
  | .forwarding _ => 4

def Comms.remaining : Comms → Nat
  | .finished => 0
  | .selecting => 1
  | .losing _ none => 2
  | .sendingPub _ => 3
  | .losing _ (some _) => 4

def Dispatcher.remaining : Dispatcher → Nat
  | .finished => 0
  | .ranging => 1
  | .handling _ => 2

def KeepaliveGoroutine.remaining : KeepaliveGoroutine → Nat
  | .absent | .finished => 0
  | .leaving => 1
  | .waiting | .losing => 2
  | .checking | .starting => 3
  | .pinging => 4
  | .locking => 5

def OutputRedirector.remaining : OutputRedirector → Nat
  | .finished => 0
  | .leaving => 1
  | .closingPush => 2
  | .closingPriority => 3
  | .draining => 4
  | .selecting => 5
  | .passing _ => 12

def OutgoingGoroutine.remaining : OutgoingGoroutine → Nat
  | .selecting => 0
  | .settling _ _ => 4
  | .writing _ => 5
  | .received _ => 6

def AckCopier.remaining : AckCopier → Nat
  | .finished => 0
  | .dropping => 1
  | .copying => 2

def DispatchEnd.remaining : DispatchEnd → Nat
  | .notReached => 2
  | .awaitingCopier => 1
  | .ackOutClosed => 0

def StopWaiter.remaining : StopWaiter → Nat
  | .absent => 3
  | .awaitingWorkers => 2
  | .awaitingComms => 1
  | .done => 0

/-- A packet takes at least one byte off the connection. -/
def IncomingPipeline.remaining (s : IncomingPipeline) : Nat :=
  7 * s.unread.unread.length + s.reader.remaining + s.sorter.remaining +
    s.forwarder.remaining + s.errorSource.remaining + s.errorForwarder.remaining +
    s.comms.remaining + s.dispatcher.remaining + (!s.storeClosed).toNat +
    s.inboundFromStore.toNat + s.ibound.toNat + (!s.outErrorClosed).toNat +
    s.commsIncomingPub.toNat + s.commsErrors.toNat

def CommsNetwork.remaining (s : CommsNetwork) : Nat :=
  s.incoming.remaining + s.keepalive.remaining + s.redirector.remaining +
    s.outgoing.remaining + s.copier.remaining + s.dispatchEnd.remaining +
    (!s.goRoutinesDone).toNat + s.waiter.remaining + s.ackOut.toNat +
    s.obound.toNat + s.oboundp.toNat + s.oboundFromIncoming.toNat

end Remaining

section Steps

theorem IncomingPipeline.remaining_sort (packet : ControlPacket) :
    (IncomingPipeline.sort packet).remaining ≤ 5 := by
  cases packet <;> simp [IncomingPipeline.sort, Sorter.remaining]

theorem Comms.remaining_losing {comms : Comms} (goesOn : comms.remaining ≠ 0)
    (error : CommsError) : (Comms.losing error comms.holds).remaining ≤
      comms.remaining + 1 := by
  cases comms with
  | selecting => rfl
  | sendingPub packet => rfl
  | losing error pub => cases pub <;> simp [Comms.holds, Comms.remaining]
  | finished => exact absurd rfl goesOn

theorem IncomingPipeline.remaining_receiveError {s next : IncomingPipeline}
    {error : CommsError} (received : s.receiveError error = some next) :
    next.remaining ≤ s.remaining + 1 := by
  have isNext := receiveError_eq_some received
  have goesOn : s.comms.remaining ≠ 0 := by
    unfold receiveError at received
    split at received
    · split at received
      case h_1 position => simp [position, Comms.remaining]
      case h_2 position => simp [position, Comms.remaining]
      case h_3 => cases received
    · cases received
  have losing := Comms.remaining_losing goesOn error
  rw [isNext]
  simp only [IncomingPipeline.remaining]
  omega

theorem IncomingPipeline.remaining_lt_of_step {s next : IncomingPipeline}
    {event : PipelineEvent} (notFailing : ∀ message, event ≠ .writeFails message)
    (stepped : s.step event = some next) : next.remaining < s.remaining := by
  cases event with
  | writeFails message => exact absurd rfl (notFailing message)
  | read =>
      simp only [IncomingPipeline.step] at stepped
      split at stepped
      case h_1 position isRead =>
        have shorter := length_lt_of_readPacket isRead
        cases stepped
        simp only [IncomingPipeline.remaining, position, Reader.remaining]
        omega
      case h_2 position _ =>
        cases stepped
        simp only [IncomingPipeline.remaining, position, Reader.remaining]
        omega
      case h_3 => cases stepped
  | handleFailure =>
      simp only [IncomingPipeline.step] at stepped
      split at stepped
      case h_1 failure position =>
        cases stepped
        simp only [IncomingPipeline.remaining, position]
        split <;> simp only [Reader.remaining] <;> omega
      case h_2 => cases stepped
  | sort =>
      simp only [IncomingPipeline.step] at stepped
      split at stepped
      case h_1 packet position =>
        have sorted := remaining_sort packet
        have before : (Sorter.sorting packet).remaining = 6 := rfl
        cases stepped
        simp only [IncomingPipeline.remaining, position]
        omega
      case h_2 => cases stepped
  | closeStore =>
      obtain ⟨isOpen, ⟨⟩⟩ := Option.ite_none_left_eq_some.mp stepped
      simp [IncomingPipeline.remaining, isOpen]
  | sendReadError =>
      simp only [IncomingPipeline.step] at stepped
      split at stepped
      case h_1 failure position =>
        have received := remaining_receiveError stepped
        simp only [IncomingPipeline.remaining, position, Forwarder.remaining] at *
        omega
      case h_2 => cases stepped
  | forwardWriteError =>
      simp only [IncomingPipeline.step] at stepped
      split at stepped
      case h_1 failure position =>
        have received := remaining_receiveError stepped
        simp only [IncomingPipeline.remaining, position, ErrorForwarder.remaining] at *
        omega
      case h_2 => cases stepped
  | _ =>
      simp only [IncomingPipeline.step] at stepped
      split at stepped
      all_goals cases stepped
      all_goals
        simp only [IncomingPipeline.remaining, *, Reader.remaining, Sorter.remaining,
          Forwarder.remaining, ErrorSource.remaining, ErrorForwarder.remaining,
          Comms.remaining, Dispatcher.remaining, Bool.not_true, Bool.not_false,
          Bool.toNat_true, Bool.toNat_false]
        omega

namespace CommsNetwork

variable {s next : CommsNetwork} {event : NetworkEvent}

theorem remaining_settled (writing : s.incoming.errorSource = .writing)
    (message : Outbound) (failure : Option String) :
    (s.settled message failure).remaining ≤ s.remaining + 3 := by
  have reported (failure : String) : (s.report failure).remaining = s.remaining + 3 := by
    simp only [CommsNetwork.remaining, IncomingPipeline.remaining, report, writing,
      ErrorSource.remaining]
    omega
  cases message with
  | push call payload =>
      cases failure with
      | none => exact Nat.le_add_right _ _
      | some failure =>
          simp only [settled]
          split
          · exact Nat.le_add_right _ _
          · exact (reported failure).le
  | control packet =>
      cases failure with
      | none => exact Nat.le_add_right _ _
      | some failure => exact (reported failure).le

theorem remaining_setKeepalive {keepalive : KeepaliveGoroutine} {workers : Nat}
    {added : Nat} (less : keepalive.remaining + 1 ≤ s.keepalive.remaining + added) :
    { s with keepalive, workers }.remaining + 1 ≤ s.remaining + added := by
  simp only [CommsNetwork.remaining]
  omega

theorem remaining_setRedirector {redirector : OutputRedirector} {workers : Nat}
    {added : Nat} (less : redirector.remaining + 1 ≤ s.redirector.remaining + added) :
    { s with redirector, workers }.remaining + 1 ≤ s.remaining + added := by
  simp only [CommsNetwork.remaining]
  omega

theorem remaining_setOutgoing {outgoing : OutgoingGoroutine}
    (less : outgoing.remaining < s.outgoing.remaining) :
    { s with outgoing }.remaining < s.remaining := by
  simp only [CommsNetwork.remaining]
  omega

theorem remaining_step (consistent : s.Consistent) (stopped : s.stopped = true)
    (stepped : s.step event = some next) :
    next.remaining + 1 ≤ s.remaining + if event.external then 8 else 0 := by
  cases event with
  | incoming event =>
      obtain ⟨own, stepped⟩ := Option.ite_none_left_eq_some.mp stepped
      obtain ⟨incoming, taken, rfl⟩ := Option.map_eq_some_iff.mp stepped
      have less := IncomingPipeline.remaining_lt_of_step
        (by rintro message rfl; exact own rfl) taken
      simp only [CommsNetwork.remaining]
      omega
  | handle handlers =>
      obtain ⟨incoming, taken, rfl⟩ := Option.map_eq_some_iff.mp stepped
      have less := IncomingPipeline.remaining_lt_of_step (by simp) taken
      simp only [CommsNetwork.remaining]
      omega
  | handlerReturns =>
      obtain ⟨-, ⟨⟩⟩ := Option.ite_none_left_eq_some.mp stepped
      exact Nat.add_le_add_left (by decide) s.remaining
  | closeErrChan =>
      obtain ⟨-, stepped⟩ := Option.ite_none_right_eq_some.mp stepped
      obtain ⟨incoming, taken, rfl⟩ := Option.map_eq_some_iff.mp stepped
      have less := IncomingPipeline.remaining_lt_of_step (by simp) taken
      simp only [CommsNetwork.remaining]
      omega
  | settle =>
      simp only [step] at stepped
      split at stepped
      case h_1 message failure settling =>
        cases stepped
        have writing := consistent.outgoing (by simp [settling])
        have after : { s with outgoing := .selecting }.remaining + 4 = s.remaining := by
          simp only [CommsNetwork.remaining, settling, OutgoingGoroutine.remaining]
          omega
        have settled := remaining_settled (s := { s with outgoing := .selecting })
          writing message failure
        omega
      case h_2 => cases stepped
  | pass =>
      simp only [step] at stepped
      split at stepped
      case h_1 message passing =>
        obtain ⟨⟨⟨ready, -⟩, -⟩, ⟨⟩⟩ := Option.ite_none_right_eq_some.mp stepped
        simp only [CommsNetwork.remaining, passing, ready, OutputRedirector.remaining,
          OutgoingGoroutine.remaining]
        omega
      case h_2 => cases stepped
  | lock =>
      simp only [step] at stepped
      split at stepped
      case h_1 message received =>
        obtain ⟨-, ⟨⟩⟩ := Option.ite_none_left_eq_some.mp stepped
        exact remaining_setOutgoing (by rw [received]; exact Nat.lt_succ_self 5)
      case h_2 => cases stepped
  | write failure =>
      simp only [step] at stepped
      split at stepped
      case h_1 message writing =>
        obtain ⟨-, ⟨⟩⟩ := Option.ite_none_left_eq_some.mp stepped
        exact remaining_setOutgoing (by rw [writing]; exact Nat.lt_succ_self 4)
      case h_2 => cases stepped
  | lockPing =>
      simp only [step] at stepped
      split at stepped
      all_goals cases stepped
      rename_i locking _
      exact remaining_setKeepalive (by rw [locking]; decide)
  | enterLoop runs =>
      obtain ⟨starting, ⟨⟩⟩ := Option.ite_none_right_eq_some.mp stepped
      exact remaining_setKeepalive (by rw [starting]; cases runs <;> decide)
  | tick pings =>
      obtain ⟨waiting, ⟨⟩⟩ := Option.ite_none_right_eq_some.mp stepped
      exact remaining_setKeepalive (by rw [waiting]; cases pings <;> decide)
  | check givesUp =>
      obtain ⟨checking, ⟨⟩⟩ := Option.ite_none_right_eq_some.mp stepped
      exact remaining_setKeepalive (by rw [checking]; cases givesUp <;> decide)
  | ping | keepaliveLost | leaveKeepalive =>
      obtain ⟨position, ⟨⟩⟩ := Option.ite_none_right_eq_some.mp stepped
      exact remaining_setKeepalive (s := s) (by rw [position]; decide)
  | seeStop =>
      obtain ⟨⟨waiting, -⟩, ⟨⟩⟩ := Option.ite_none_right_eq_some.mp stepped
      exact remaining_setKeepalive (by rw [waiting]; decide)
  | takePush call payload =>
      obtain ⟨selecting, ⟨⟩⟩ := Option.ite_none_right_eq_some.mp stepped
      exact remaining_setRedirector (by rw [selecting]; exact Nat.le_refl 13)
  | takeDisconnect | closePriority | closePush | leaveRedirector =>
      obtain ⟨position, ⟨⟩⟩ := Option.ite_none_right_eq_some.mp stepped
      exact remaining_setRedirector (s := s) (by rw [position]; decide)
  | redirectorStops =>
      obtain ⟨⟨selecting, -⟩, ⟨⟩⟩ := Option.ite_none_right_eq_some.mp stepped
      exact remaining_setRedirector (by rw [selecting]; cases s.ackOut <;> decide)
  | drained =>
      obtain ⟨⟨draining, -⟩, ⟨⟩⟩ := Option.ite_none_right_eq_some.mp stepped
      exact remaining_setRedirector (s := s) (by rw [draining]; decide)
  | stop => exact absurd stopped (Option.ite_none_left_eq_some.mp stepped).1
  | seeAckOutClosed | seePushClosed | seePriorityClosed | seeOutboundClosed =>
      obtain ⟨⟨-, watched, -⟩, ⟨⟩⟩ := Option.ite_none_right_eq_some.mp stepped
      simp only [CommsNetwork.remaining, workerDone, watched, Bool.toNat_true, Bool.toNat_false]
      omega
  | closeStopAckCopy =>
      obtain ⟨⟨-, notReached⟩, ⟨⟩⟩ := Option.ite_none_right_eq_some.mp stepped
      simp only [CommsNetwork.remaining, notReached, DispatchEnd.remaining]
      omega
  | stopCopier | closeAckOut | closeGoRoutinesDone | endCopier | workersDone
  | commsStopped =>
      obtain ⟨⟨position, -⟩, ⟨⟩⟩ := Option.ite_none_right_eq_some.mp stepped
      simp only [CommsNetwork.remaining, position, AckCopier.remaining,
        DispatchEnd.remaining, StopWaiter.remaining, Bool.not_true, Bool.not_false,
        Bool.toNat_true, Bool.toNat_false]
      omega

theorem stopped_settled (message : Outbound) (failure : Option String) :
    (s.settled message failure).stopped = s.stopped := by
  unfold settled report
  split <;> first | rfl | split <;> rfl

theorem stopped_of_step (stopped : s.stopped = true) (stepped : s.step event = some next) :
    next.stopped = true := by
  cases event <;> grind [step, workerDone, stopped_settled, Option.map_eq_some_iff]

/-- The number is that of a connection with every channel watched and a packet
in every goroutine. -/
theorem remaining_le (s : CommsNetwork) :
    s.remaining ≤ 82 + 7 * s.incoming.unread.unread.length := by
  have reader : s.incoming.reader.remaining ≤ 14 := by
    unfold Reader.remaining
    split <;> decide
  have sorter : s.incoming.sorter.remaining ≤ 6 := by
    unfold Sorter.remaining
    split <;> decide
  have forwarder : s.incoming.forwarder.remaining ≤ 7 := by
    unfold Forwarder.remaining
    split <;> decide
  have errorSource : s.incoming.errorSource.remaining ≤ 4 := by
    unfold ErrorSource.remaining
    split <;> decide
  have errorForwarder : s.incoming.errorForwarder.remaining ≤ 4 := by
    unfold ErrorForwarder.remaining
    split <;> decide
  have comms : s.incoming.comms.remaining ≤ 4 := by
    unfold Comms.remaining
    split <;> decide
  have dispatcher : s.incoming.dispatcher.remaining ≤ 2 := by
    unfold Dispatcher.remaining
    split <;> decide
  have keepalive : s.keepalive.remaining ≤ 5 := by
    unfold KeepaliveGoroutine.remaining
    split <;> decide
  have redirector : s.redirector.remaining ≤ 12 := by
    unfold OutputRedirector.remaining
    split <;> decide
  have outgoing : s.outgoing.remaining ≤ 6 := by
    unfold OutgoingGoroutine.remaining
    split <;> decide
  have copier : s.copier.remaining ≤ 2 := by
    unfold AckCopier.remaining
    split <;> decide
  have dispatchEnd : s.dispatchEnd.remaining ≤ 2 := by
    unfold DispatchEnd.remaining
    split <;> decide
  have waiter : s.waiter.remaining ≤ 3 := by
    unfold StopWaiter.remaining
    split <;> decide
  have flag := Bool.toNat_le
  have := flag (!s.incoming.storeClosed)
  have := flag s.incoming.inboundFromStore
  have := flag s.incoming.ibound
  have := flag (!s.incoming.outErrorClosed)
  have := flag s.incoming.commsIncomingPub
  have := flag s.incoming.commsErrors
  have := flag (!s.goRoutinesDone)
  have := flag s.ackOut
  have := flag s.obound
  have := flag s.oboundp
  have := flag s.oboundFromIncoming
  unfold CommsNetwork.remaining IncomingPipeline.remaining
  omega

end CommsNetwork

end Steps

section Teardown

namespace CommsNetwork

theorem consistent_of_run {keepsAlive : Bool} {stream : Bytes} {s : CommsNetwork}
    {events : List NetworkEvent}
    (executed : EventRun.run step (initial keepsAlive stream) events = some s) :
    s.Consistent :=
  EventRun.invariant _ (fun consistent stepped => consistent.step stepped)
    (initial_consistent keepsAlive stream) executed

/-- What holds from the closing of `c.stop` on. -/
def Stopping (s : CommsNetwork) : Prop := s.Consistent ∧ s.stopped = true

theorem Stopping.step {s next : CommsNetwork} {event : NetworkEvent}
    (stopping : s.Stopping) (stepped : s.step event = some next) : next.Stopping :=
  ⟨stopping.1.step stepped, stopped_of_step stopping.2 stepped⟩

theorem Stopping.canReach_tornDown {s : CommsNetwork} (stopping : s.Stopping) :
    EventRun.CanReach CommsNetwork.step (fun _ event => event.external = false)
      TornDown s := by
  refine EventRun.canReach_of_decreasing Stopping CommsNetwork.remaining ?_ stopping
  intro s stopping goesOn
  have notStuck : ¬ s.Stuck := fun stuck =>
    goesOn (stuck.tornDown stopping.1 stopping.2)
  simp only [Stuck, not_forall] at notStuck
  obtain ⟨event, own, enabled⟩ := notStuck
  obtain ⟨next, stepped⟩ := Option.ne_none_iff_exists'.mp enabled
  have less := remaining_step stopping.1 stopping.2 stepped
  rw [own] at less
  exact ⟨event, next, own, stepped, stopping.step stepped, less⟩

/-- `stopCommsWorkers` always comes to its end: whatever messages and ticks are
still to come, the goroutines can bring the connection down on their own, they
stop only when it is down, and they take a bounded number of steps to it.  The
handlers may go on for as long as they like; the ack copier ends behind them. -/
theorem teardown_completes {keepsAlive : Bool} {stream : Bytes} {s t : CommsNetwork}
    {events later : List NetworkEvent}
    (executed : EventRun.run step (initial keepsAlive stream) events = some s)
    (stopped : s.stopped = true) (goesOn : EventRun.run step s later = some t) :
    EventRun.CanReach step (fun _ event => event.external = false) TornDown t ∧
      (t.Stuck → t.TornDown) ∧
      later.length ≤ 82 + 7 * s.incoming.unread.unread.length +
        8 * later.countP NetworkEvent.external := by
  have stopping : s.Stopping := ⟨consistent_of_run executed, stopped⟩
  have after := EventRun.invariant Stopping Stopping.step stopping goesOn
  have steps := EventRun.length_add_potential_le Stopping CommsNetwork.remaining
    NetworkEvent.external 8 Stopping.step
    (fun kept stepped => remaining_step kept.1 kept.2 stepped) stopping goesOn
  have most := remaining_le s
  exact ⟨after.canReach_tornDown, fun stuck => stuck.tornDown after.1 after.2, by omega⟩

/-- The connection is stopped while a message is on its way and `keepalive` is
in its loop. -/
theorem teardown_completes_amid_push :
    ∃ s t, EventRun.run step (initial true [])
        [.enterLoop true, .takePush 0 [104], .stop] = some s ∧
      EventRun.run step s [.pass, .lock] = some t ∧
      EventRun.CanReach step (fun _ event => event.external = false) TornDown t :=
  ⟨_, _, rfl, rfl, (teardown_completes
    (rfl : EventRun.run step (initial true [])
      [.enterLoop true, .takePush 0 [104], .stop] = some _) rfl
    (rfl : EventRun.run step _ [.pass, .lock] = some _)).1⟩

end CommsNetwork

end Teardown

end Client

end RmttGo
