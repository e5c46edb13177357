import RmttGo.CommsNetwork
import RmttGo.IncomingShutdown

/-!
# How the goroutines of a connection end

The goroutines of a connection end one behind the other: a channel is closed by
the goroutine that sends on it, and nobody lets a channel go before it is closed.
The wait group counts those that `stopCommsWorkers` has to wait for.
-/

namespace RmttGo

namespace Client

open Codec

section Ends

namespace IncomingPipeline

/-- How the error channels and the goroutines behind them end. -/
structure EndsInOrder (s : IncomingPipeline) : Prop where
  sorter : ∀ packet, s.sorter ≠ .sending (.outbound packet)
  forwarder : ∀ packet, s.forwarder ≠ .forwarding (.outbound packet)
  errorForwarder : s.errorForwarder = .leaving ∨ s.errorForwarder = .finished →
    s.errorSource = .finished
  outError : s.outErrorClosed = true →
    s.forwarder = .finished ∧ s.errorForwarder = .finished
  commsErrors : s.commsErrors = false → s.outErrorClosed = true
  comms : s.comms = .finished →
    s.commsIncomingPub = false ∧ s.commsErrors = false
  dispatcher : s.dispatcher = .finished → s.incomingPubChanClosed = true

theorem initial_endsInOrder (stream : Bytes) : (initial stream).EndsInOrder := by
  constructor <;> simp [initial]

variable {s next : IncomingPipeline} {event : PipelineEvent}

section Updates

variable (inOrder : s.EndsInOrder)

include inOrder

theorem EndsInOrder.setForwarder (notFinished : s.forwarder ≠ .finished)
    {forwarder : Forwarder}
    (noOutbound : ∀ packet, forwarder ≠ .forwarding (.outbound packet)) :
    { s with forwarder }.EndsInOrder :=
  { inOrder with
    forwarder := noOutbound
    outError := fun closed => absurd (inOrder.outError closed).1 notFinished }

theorem EndsInOrder.setErrorSource (notFinished : s.errorSource ≠ .finished)
    (errorSource : ErrorSource) : { s with errorSource }.EndsInOrder :=
  { inOrder with
    errorForwarder := fun ended =>
      absurd (inOrder.errorForwarder ended) notFinished }

theorem EndsInOrder.setErrorForwarder
    (notFinished : s.errorForwarder ≠ .finished) {errorForwarder : ErrorForwarder}
    (ended : errorForwarder = .leaving ∨ errorForwarder = .finished →
      s.errorSource = .finished) :
    { s with errorForwarder }.EndsInOrder :=
  { inOrder with
    errorForwarder := ended
    outError := fun closed => absurd (inOrder.outError closed).2 notFinished }

theorem EndsInOrder.setComms {comms : Comms} (goesOn : comms ≠ .finished) :
    { s with comms }.EndsInOrder :=
  { inOrder with comms := fun finished => absurd finished goesOn }

end Updates

theorem sort_ne_outbound (packet outbound : ControlPacket) :
    IncomingPipeline.sort packet ≠ .sending (.outbound outbound) := by
  cases packet <;> simp [IncomingPipeline.sort]

theorem EndsInOrder.step (inOrder : s.EndsInOrder)
    (stepped : IncomingPipeline.step s event = some next) : next.EndsInOrder := by
  cases event with
  | closeStore =>
      obtain ⟨-, ⟨⟩⟩ := Option.ite_none_left_eq_some.mp stepped
      exact { inOrder with }
  | sendReadError =>
      simp only [IncomingPipeline.step] at stepped
      split at stepped
      case h_1 failure forwarding =>
        cases receiveError_eq_some stepped
        have ranging : { s with forwarder := .ranging }.EndsInOrder :=
          inOrder.setForwarder (by simp [forwarding]) (by simp)
        exact ranging.setComms (by simp)
      case h_2 => cases stepped
  | forwardWriteError =>
      simp only [IncomingPipeline.step] at stepped
      split at stepped
      case h_1 message forwarding =>
        cases receiveError_eq_some stepped
        have ranging : { s with errorForwarder := .ranging }.EndsInOrder :=
          inOrder.setErrorForwarder (by simp [forwarding]) (by simp)
        exact ranging.setComms (by simp)
      case h_2 => cases stepped
  | sendInbound =>
      simp only [IncomingPipeline.step] at stepped
      split at stepped
      all_goals cases stepped
      all_goals exact { inOrder with sorter := by simp }
  | sort =>
      simp only [IncomingPipeline.step] at stepped
      split at stepped
      all_goals cases stepped
      exact { inOrder with sorter := sort_ne_outbound _ }
  | disconnected | closeIncoming =>
      simp only [IncomingPipeline.step] at stepped
      split at stepped
      all_goals cases stepped
      exact { inOrder with sorter := by simp }
  | sendIncoming =>
      simp only [IncomingPipeline.step] at stepped
      split at stepped
      case h_1 message sending ranging =>
        cases stepped
        have selecting : { s with sorter := .selecting }.EndsInOrder :=
          { inOrder with sorter := by simp }
        apply selecting.setForwarder (by simp [ranging])
        rintro packet ⟨⟩
        exact inOrder.sorter packet sending
      case h_2 => cases stepped
  | seeIncomingClosed | sendOutbound =>
      simp only [IncomingPipeline.step] at stepped
      split at stepped
      all_goals cases stepped
      rename_i position _
      exact inOrder.setForwarder (by simp [position]) (by simp)
  | closeOutbound | closePublish | leaveForwarder =>
      simp only [IncomingPipeline.step] at stepped
      split at stepped
      all_goals cases stepped
      rename_i position
      exact inOrder.setForwarder (by simp [position]) (by simp)
  | sendPublish =>
      simp only [IncomingPipeline.step] at stepped
      split at stepped
      case h_1 packet forwarding selecting watched =>
        cases stepped
        have ranging : { s with forwarder := .ranging }.EndsInOrder :=
          inOrder.setForwarder (by simp [forwarding]) (by simp)
        exact ranging.setComms (by simp)
      case h_2 => cases stepped
  | writeFails message =>
      simp only [IncomingPipeline.step] at stepped
      split at stepped
      all_goals cases stepped
      rename_i writing
      exact inOrder.setErrorSource (by simp [writing]) _
  | closeWriteErrors =>
      simp only [IncomingPipeline.step] at stepped
      split at stepped
      case h_4 => cases stepped
      all_goals
        rename_i writing _
        cases stepped
        exact inOrder.setErrorSource (by simp [writing]) _
  | sendWriteError =>
      simp only [IncomingPipeline.step] at stepped
      split at stepped
      case h_1 message sending ranging =>
        cases stepped
        have writing : { s with errorSource := .writing }.EndsInOrder :=
          inOrder.setErrorSource (by simp [sending]) _
        exact writing.setErrorForwarder (by simp [ranging]) (by simp)
      case h_2 => cases stepped
  | seeWriteErrorsClosed =>
      simp only [IncomingPipeline.step] at stepped
      split at stepped
      case h_1 ranging finished =>
        cases stepped
        exact inOrder.setErrorForwarder (by simp [ranging]) fun _ => finished
      case h_2 => cases stepped
  | leaveErrorForwarder =>
      simp only [IncomingPipeline.step] at stepped
      split at stepped
      case h_1 leaving =>
        cases stepped
        exact inOrder.setErrorForwarder (by simp [leaving]) fun _ =>
          inOrder.errorForwarder (.inl leaving)
      case h_2 => cases stepped
  | closeErrors =>
      simp only [IncomingPipeline.step] at stepped
      split at stepped
      case h_1 forwarder errorForwarder _ =>
        cases stepped
        exact { inOrder with
          outError := fun _ => ⟨forwarder, errorForwarder⟩
          commsErrors := fun _ => rfl }
      case h_2 => cases stepped
  | seeErrorsClosed =>
      simp only [IncomingPipeline.step] at stepped
      split at stepped
      case h_3 => cases stepped
      all_goals
        rename_i closed position
        cases stepped
        exact { inOrder with
          commsErrors := fun _ => closed
          comms := fun finished => by cases position.symm.trans finished }
  | lost =>
      simp only [IncomingPipeline.step] at stepped
      split at stepped
      all_goals cases stepped
      all_goals exact inOrder.setComms (by simp)
  | seePublishClosed =>
      simp only [IncomingPipeline.step] at stepped
      split at stepped
      case h_3 => cases stepped
      all_goals
        rename_i selecting _
        cases stepped
        exact { inOrder with
          comms := fun finished => by cases selecting.symm.trans finished
          dispatcher := fun _ => rfl }
  | sendPub =>
      simp only [IncomingPipeline.step] at stepped
      split at stepped
      case h_1 packet sending ranging =>
        cases stepped
        exact { inOrder with comms := by simp, dispatcher := by simp }
      case h_2 => cases stepped
  | handle =>
      simp only [IncomingPipeline.step] at stepped
      split at stepped
      all_goals cases stepped
      exact { inOrder with dispatcher := by simp }
  | seePubClosed =>
      simp only [IncomingPipeline.step] at stepped
      split at stepped
      case h_1 ranging closed =>
        cases stepped
        exact { inOrder with dispatcher := fun _ => closed }
      case h_2 => cases stepped
  | finishComms =>
      simp only [IncomingPipeline.step] at stepped
      split at stepped
      case h_1 selecting noPub noErrors =>
        cases stepped
        exact { inOrder with comms := fun _ => ⟨noPub, noErrors⟩ }
      case h_2 => cases stepped
  | _ =>
      -- The reader and the variables of the sorter are not concerned.
      simp only [IncomingPipeline.step] at stepped
      split at stepped
      all_goals cases stepped
      all_goals exact { inOrder with }

end IncomingPipeline

end Ends

section Consistency

/-- What the goroutine counts for in `c.workers`. -/
def KeepaliveGoroutine.counted : KeepaliveGoroutine → Nat
  | .absent | .finished => 0
  | _ => 1

def OutputRedirector.counted : OutputRedirector → Nat
  | .finished => 0
  | _ => 1

/-- The redirector has not yet called `workers.Done()` for `ackOut`. -/
def OutputRedirector.awaitsAcks : OutputRedirector → Bool
  | .selecting | .passing _ | .draining => true
  | _ => false

namespace OutputRedirector

variable {redirector : OutputRedirector} (awaits : redirector.awaitsAcks = true)

include awaits

theorem counted_of_awaitsAcks : redirector.counted = 1 := by
  cases redirector <;> first | rfl | cases awaits

theorem pushClosed_of_awaitsAcks : redirector.pushClosed = false := by
  cases redirector <;> first | rfl | cases awaits

theorem priorityClosed_of_awaitsAcks : redirector.priorityClosed = false := by
  cases redirector <;> first | rfl | cases awaits

end OutputRedirector

namespace CommsNetwork

variable {s next : CommsNetwork} {event : NetworkEvent}

def ackCounted (s : CommsNetwork) : Nat :=
  if s.ackOut && s.redirector.awaitsAcks then 1 else 0

structure Consistent (s : CommsNetwork) : Prop where
  closes : s.incoming.ClosesInOrder
  ends : s.incoming.EndsInOrder
  outgoing : s.outgoing ≠ .selecting → s.incoming.errorSource = .writing
  errChan : s.incoming.errorSource = .finished →
    s.obound = false ∧ s.oboundp = false
  obound : s.obound = false → s.redirector.pushClosed = true
  oboundp : s.oboundp = false → s.redirector.priorityClosed = true
  draining : s.redirector = .draining → s.ackOut = true
  goRoutinesDone : s.goRoutinesDone = true → s.dispatchEnd = .ackOutClosed
  copier : s.copier = .finished → s.goRoutinesDone = true
  workers : s.workers =
    s.keepalive.counted + s.ackCounted + s.redirector.counted
  waiter : s.stopped = true → s.waiter ≠ .absent

theorem initial_consistent (keepsAlive : Bool) (stream : Bytes) :
    (initial keepsAlive stream).Consistent where
  closes := IncomingPipeline.initial_closesInOrder stream
  ends := IncomingPipeline.initial_endsInOrder stream
  outgoing := fun busy => absurd rfl busy
  errChan := by simp [initial, IncomingPipeline.initial]
  obound := by simp [initial]
  oboundp := by simp [initial]
  draining := by simp [initial]
  goRoutinesDone := by simp [initial]
  copier := by simp [initial]
  workers := by cases keepsAlive <;> rfl
  waiter := by simp [initial]

section Updates

variable (consistent : s.Consistent)

include consistent

/-- The incoming pipeline takes a step that leaves the outgoing goroutine where
it is, or lets it go on from `errChan`. -/
theorem Consistent.setIncoming {pipelineEvent : PipelineEvent}
    {incoming : IncomingPipeline}
    (stepped : s.incoming.step pipelineEvent = some incoming)
    (keeps : incoming.errorSource = s.incoming.errorSource ∨
      incoming.errorSource = .writing) :
    { s with incoming }.Consistent :=
  { consistent with
    closes := consistent.closes.step stepped
    ends := consistent.ends.step stepped
    outgoing := fun busy => by
      rcases keeps with same | writing
      · exact same.trans (consistent.outgoing busy)
      · exact writing
    errChan := fun finished => by
      rcases keeps with same | writing
      · exact consistent.errChan (same.symm.trans finished)
      · cases writing.symm.trans finished }

/-- `keepalive` goes on. -/
theorem Consistent.setKeepalive {keepalive : KeepaliveGoroutine}
    (same : keepalive.counted = s.keepalive.counted) :
    { s with keepalive }.Consistent :=
  { consistent with
    workers := by
      rw [consistent.workers, same]
      rfl }

/-- The redirector goes on, in front of its closing of the channels. -/
theorem Consistent.setRedirector {redirector : OutputRedirector}
    (before : s.redirector.awaitsAcks = true)
    (after : redirector.awaitsAcks = true)
    (draining : redirector = .draining → s.ackOut = true) :
    { s with redirector }.Consistent :=
  { consistent with
    obound := fun closed => by
      cases (consistent.obound closed).symm.trans
        (OutputRedirector.pushClosed_of_awaitsAcks before)
    oboundp := fun closed => by
      cases (consistent.oboundp closed).symm.trans
        (OutputRedirector.priorityClosed_of_awaitsAcks before)
    draining
    workers := by
      rw [consistent.workers]
      simp only [ackCounted, before, after,
        OutputRedirector.counted_of_awaitsAcks before,
        OutputRedirector.counted_of_awaitsAcks after] }

/-- The redirector goes on, behind its wait for `ackOut`. -/
theorem Consistent.closeChannels {redirector : OutputRedirector} {workers : Nat}
    (after : redirector.awaitsAcks = false)
    (pushes : s.redirector.pushClosed = true → redirector.pushClosed = true)
    (priority : s.redirector.priorityClosed = true →
      redirector.priorityClosed = true)
    (counts : workers + s.redirector.counted + s.ackCounted =
      s.workers + redirector.counted) :
    { s with redirector, workers }.Consistent :=
  { consistent with
    obound := fun closed => pushes (consistent.obound closed)
    oboundp := fun closed => priority (consistent.oboundp closed)
    draining := by
      rintro ⟨⟩
      cases after
    workers := by
      have before := consistent.workers
      have noAcks : ackCounted { s with redirector, workers } = 0 := by
        simp [ackCounted, after]
      rw [noAcks]
      change workers = s.keepalive.counted + 0 + redirector.counted
      omega }

theorem Consistent.settled (writing : s.incoming.errorSource = .writing)
    (message : Outbound) (failure : Option String) :
    ({ s with outgoing := .selecting }.settled message failure).Consistent := by
  have selecting : { s with outgoing := .selecting }.Consistent :=
    { consistent with outgoing := fun busy => absurd rfl busy }
  have reported (failure : String) :
      ({ s with outgoing := .selecting }.report failure).Consistent :=
    { selecting with
      closes := { consistent.closes with }
      ends := consistent.ends.setErrorSource (by simp [writing]) _
      outgoing := fun busy => absurd rfl busy
      errChan := by simp [report] }
  cases message with
  | push call payload =>
      cases failure with
      | none => exact selecting
      | some failure =>
          unfold CommsNetwork.settled
          simp only
          split
          · exact selecting
          · exact reported failure
  | control packet =>
      cases failure with
      | none => exact { selecting with }
      | some failure => exact reported failure

end Updates

theorem errorSource_of_step {s next : IncomingPipeline} {event : PipelineEvent}
    (notLeft : ¬ leftToOthers event) (stepped : s.step event = some next) :
    next.errorSource = s.errorSource ∨ next.errorSource = .writing := by
  cases event with
  | writeFails message => exact absurd rfl notLeft
  | closeWriteErrors => exact absurd rfl notLeft
  | sendOutbound => exact absurd rfl notLeft
  | handle => exact absurd rfl notLeft
  | sendWriteError =>
      simp only [IncomingPipeline.step] at stepped
      split at stepped
      all_goals cases stepped
      exact .inr rfl
  | closeStore =>
      obtain ⟨-, ⟨⟩⟩ := Option.ite_none_left_eq_some.mp stepped
      exact .inl rfl
  | sendReadError | forwardWriteError =>
      simp only [IncomingPipeline.step] at stepped
      split at stepped
      · cases IncomingPipeline.receiveError_eq_some stepped
        exact .inl rfl
      · cases stepped
  | _ =>
      simp only [IncomingPipeline.step] at stepped
      split at stepped
      all_goals cases stepped
      all_goals exact .inl rfl

theorem Consistent.step (consistent : s.Consistent)
    (stepped : CommsNetwork.step s event = some next) : next.Consistent := by
  have workers := consistent.workers
  cases event with
  | incoming event =>
      obtain ⟨notLeft, mapped⟩ := Option.ite_none_left_eq_some.mp stepped
      obtain ⟨incoming, steps, ⟨⟩⟩ := Option.map_eq_some_iff.mp mapped
      exact consistent.setIncoming steps (errorSource_of_step notLeft steps)
  | enterLoop runs =>
      obtain ⟨position, ⟨⟩⟩ := Option.ite_none_right_eq_some.mp stepped
      apply consistent.setKeepalive
      rw [position]
      cases runs <;> rfl
  | tick pings =>
      obtain ⟨position, ⟨⟩⟩ := Option.ite_none_right_eq_some.mp stepped
      apply consistent.setKeepalive
      rw [position]
      cases pings <;> rfl
  | check givesUp =>
      obtain ⟨position, ⟨⟩⟩ := Option.ite_none_right_eq_some.mp stepped
      apply consistent.setKeepalive
      rw [position]
      cases givesUp <;> rfl
  | lockPing =>
      simp only [CommsNetwork.step] at stepped
      split at stepped
      case h_2 position _ =>
        cases stepped
        apply consistent.setKeepalive
        rw [position]
        rfl
      all_goals cases stepped
  | ping | keepaliveLost =>
      obtain ⟨position, ⟨⟩⟩ := Option.ite_none_right_eq_some.mp stepped
      apply consistent.setKeepalive
      rw [position]
      rfl
  | seeStop =>
      obtain ⟨⟨position, -⟩, ⟨⟩⟩ := Option.ite_none_right_eq_some.mp stepped
      apply consistent.setKeepalive
      rw [position]
      rfl
  | leaveKeepalive =>
      obtain ⟨position, ⟨⟩⟩ := Option.ite_none_right_eq_some.mp stepped
      refine { consistent with workers := ?_ }
      rw [position] at workers
      change s.workers - 1 = 0 + s.ackCounted + s.redirector.counted
      rw [workers]
      simp only [KeepaliveGoroutine.counted]
      omega
  | takePush call payload =>
      obtain ⟨position, ⟨⟩⟩ := Option.ite_none_right_eq_some.mp stepped
      exact consistent.setRedirector (by rw [position]; rfl) rfl (by simp)
  | takeDisconnect =>
      obtain ⟨position, ⟨⟩⟩ := Option.ite_none_right_eq_some.mp stepped
      exact consistent.setRedirector (by rw [position]; rfl) rfl (by simp)
  | seeAckOutClosed =>
      obtain ⟨⟨position, watched, -⟩, ⟨⟩⟩ :=
        Option.ite_none_right_eq_some.mp stepped
      refine { consistent with draining := ?_, workers := ?_ }
      · intro draining
        cases position.symm.trans draining
      · simp [ackCounted, position, watched, OutputRedirector.awaitsAcks] at workers
        simp [ackCounted, workerDone, position]
        omega
  | redirectorStops =>
      obtain ⟨⟨position, -⟩, ⟨⟩⟩ := Option.ite_none_right_eq_some.mp stepped
      by_cases watched : s.ackOut = true
      · rw [if_pos watched]
        exact consistent.setRedirector (by rw [position]; rfl) rfl fun _ => watched
      · rw [if_neg watched]
        refine consistent.closeChannels rfl ?_ ?_ ?_
        · simp [position, OutputRedirector.pushClosed]
        · simp [position, OutputRedirector.priorityClosed]
        · simp [position, ackCounted, watched, OutputRedirector.counted]
  | drained =>
      obtain ⟨⟨position, -⟩, ⟨⟩⟩ := Option.ite_none_right_eq_some.mp stepped
      have watched := consistent.draining position
      refine consistent.closeChannels rfl ?_ ?_ ?_
      · simp [position, OutputRedirector.pushClosed]
      · simp [position, OutputRedirector.priorityClosed]
      · simp [position, watched, ackCounted, OutputRedirector.awaitsAcks,
          OutputRedirector.counted] at workers ⊢
        simp only [workerDone]
        omega
  | closePriority =>
      obtain ⟨position, ⟨⟩⟩ := Option.ite_none_right_eq_some.mp stepped
      refine consistent.closeChannels rfl ?_ (fun _ => rfl) ?_
      · simp [position, OutputRedirector.pushClosed]
      · simp [position, ackCounted, OutputRedirector.awaitsAcks,
          OutputRedirector.counted]
  | closePush =>
      obtain ⟨position, ⟨⟩⟩ := Option.ite_none_right_eq_some.mp stepped
      refine consistent.closeChannels rfl (fun _ => rfl) (fun _ => rfl) ?_
      simp [position, ackCounted, OutputRedirector.awaitsAcks,
        OutputRedirector.counted]
  | leaveRedirector =>
      obtain ⟨position, ⟨⟩⟩ := Option.ite_none_right_eq_some.mp stepped
      refine consistent.closeChannels rfl (fun _ => rfl) (fun _ => rfl) ?_
      simp [position, ackCounted, OutputRedirector.awaitsAcks,
        OutputRedirector.counted] at workers ⊢
      simp only [workerDone]
      omega
  | pass =>
      simp only [CommsNetwork.step] at stepped
      split at stepped
      case h_2 => cases stepped
      case h_1 message position =>
        obtain ⟨⟨ready, watched⟩, ⟨⟩⟩ := Option.ite_none_right_eq_some.mp stepped
        have selecting : { s with redirector := .selecting }.Consistent :=
          consistent.setRedirector (by rw [position]; rfl) rfl (by simp)
        exact { selecting with outgoing := fun _ => ready.2 }
  | lock =>
      simp only [CommsNetwork.step] at stepped
      split at stepped
      case h_2 => cases stepped
      case h_1 message position =>
        obtain ⟨-, ⟨⟩⟩ := Option.ite_none_left_eq_some.mp stepped
        exact { consistent with
          outgoing := fun _ => consistent.outgoing (by simp [position]) }
  | write failure =>
      simp only [CommsNetwork.step] at stepped
      split at stepped
      case h_2 => cases stepped
      case h_1 message position =>
        obtain ⟨-, ⟨⟩⟩ := Option.ite_none_left_eq_some.mp stepped
        exact { consistent with
          outgoing := fun _ => consistent.outgoing (by simp [position]) }
  | settle =>
      simp only [CommsNetwork.step] at stepped
      split at stepped
      case h_2 => cases stepped
      case h_1 message failure position =>
        cases stepped
        exact consistent.settled (consistent.outgoing (by simp [position])) _ _
  | seePushClosed =>
      obtain ⟨⟨ready, -, closed⟩, ⟨⟩⟩ := Option.ite_none_right_eq_some.mp stepped
      exact { consistent with
        errChan := fun finished => by cases ready.2.symm.trans finished
        obound := fun _ => closed }
  | seePriorityClosed =>
      obtain ⟨⟨ready, -, closed⟩, ⟨⟩⟩ := Option.ite_none_right_eq_some.mp stepped
      exact { consistent with
        errChan := fun finished => by cases ready.2.symm.trans finished
        oboundp := fun _ => closed }
  | seeOutboundClosed =>
      obtain ⟨-, ⟨⟩⟩ := Option.ite_none_right_eq_some.mp stepped
      exact { consistent with }
  | closeErrChan =>
      obtain ⟨⟨ready, noPush, noPriority, -⟩, mapped⟩ :=
        Option.ite_none_right_eq_some.mp stepped
      obtain ⟨incoming, steps, ⟨⟩⟩ := Option.map_eq_some_iff.mp mapped
      exact { consistent with
        closes := consistent.closes.step steps
        ends := consistent.ends.step steps
        outgoing := fun busy => absurd ready.1 busy
        errChan := fun _ => ⟨eq_false_of_ne_true noPush, eq_false_of_ne_true noPriority⟩ }
  | handle handlers =>
      obtain ⟨incoming, handled, ⟨⟩⟩ := Option.map_eq_some_iff.mp stepped
      have same : incoming.errorSource = s.incoming.errorSource := by
        simp only [IncomingPipeline.step] at handled
        split at handled
        all_goals cases handled
        rfl
      have ranging := consistent.setIncoming handled (.inl same)
      exact { ranging with }
  | handlerReturns =>
      obtain ⟨-, ⟨⟩⟩ := Option.ite_none_left_eq_some.mp stepped
      exact { consistent with }
  | closeStopAckCopy =>
      obtain ⟨⟨-, notReached⟩, ⟨⟩⟩ := Option.ite_none_right_eq_some.mp stepped
      refine { consistent with goRoutinesDone := ?_ }
      intro done
      cases notReached.symm.trans (consistent.goRoutinesDone done)
  | stopCopier =>
      obtain ⟨-, ⟨⟩⟩ := Option.ite_none_right_eq_some.mp stepped
      exact { consistent with copier := by simp }
  | closeAckOut =>
      obtain ⟨-, ⟨⟩⟩ := Option.ite_none_right_eq_some.mp stepped
      exact { consistent with goRoutinesDone := fun _ => rfl }
  | closeGoRoutinesDone =>
      obtain ⟨⟨-, closed, -⟩, ⟨⟩⟩ := Option.ite_none_right_eq_some.mp stepped
      exact { consistent with
        goRoutinesDone := fun _ => closed
        copier := fun _ => rfl }
  | endCopier =>
      obtain ⟨⟨-, done⟩, ⟨⟩⟩ := Option.ite_none_right_eq_some.mp stepped
      exact { consistent with copier := fun _ => done }
  | stop =>
      obtain ⟨-, ⟨⟩⟩ := Option.ite_none_left_eq_some.mp stepped
      exact { consistent with waiter := by simp }
  | workersDone | commsStopped =>
      obtain ⟨-, ⟨⟩⟩ := Option.ite_none_right_eq_some.mp stepped
      exact { consistent with waiter := by simp }

end CommsNetwork

end Consistency

end Client

end RmttGo
