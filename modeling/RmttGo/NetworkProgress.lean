import RmttGo.NetworkConsistency

/-!
# A stopped connection does not hang

Once `stopCommsWorkers` has closed `c.stop`, some goroutine of the connection can
go on until all of them have ended.  A goroutine waits for another one only to
hand something over, to see a channel closed, or for `connWriteMu`; these waits
follow the way of the packets and of the closing channels, and so have no cycle.
Only the ack copier waits for code of the user, behind everything else.
-/

namespace RmttGo

namespace Client

open Codec

section Progress

/-- What is up to the users of the client and the clock: a message, the return of
a handler, or a tick. -/
def NetworkEvent.external : NetworkEvent → Bool
  | .takePush _ _ | .takeDisconnect | .handlerReturns | .tick _ => true
  | _ => false

namespace CommsNetwork

variable {s : CommsNetwork}

/-- No goroutine of the connection can go on by itself. -/
def Stuck (s : CommsNetwork) : Prop :=
  ∀ event, event.external = false → s.step event = none

/-- `stopCommsWorkers` reports that everything has stopped, and it has, but for
the handlers and the ack copier that waits for them. -/
structure TornDown (s : CommsNetwork) : Prop where
  waiter : s.waiter = .done
  workers : s.workers = 0
  keepalive : s.keepalive = .absent ∨ s.keepalive = .finished
  redirector : s.redirector = .finished
  reader : s.incoming.reader = .finished
  sorter : s.incoming.sorter = .finished
  forwarder : s.incoming.forwarder = .finished
  errorSource : s.incoming.errorSource = .finished
  errorForwarder : s.incoming.errorForwarder = .finished
  comms : s.incoming.comms = .finished
  dispatcher : s.incoming.dispatcher = .finished
  dispatchEnd : s.dispatchEnd = .ackOutClosed
  copier : s.handlers = 0 → s.copier = .finished

section Stuck

variable (stuck : s.Stuck)

include stuck

theorem Stuck.incoming {event : PipelineEvent}
    (notLeft : leftToOthers event = false) : s.incoming.step event = none := by
  have disabled := stuck (.incoming event) rfl
  simpa [step, notLeft] using disabled

theorem Stuck.handle : s.incoming.step .handle = none := by
  have disabled := stuck (.handle 0) rfl
  simpa [step] using disabled

variable (consistent : s.Consistent)

include consistent

/-- The comms goroutine waits in its `select` for something to come or end. -/
theorem Stuck.comms :
    s.incoming.comms = .selecting ∨ s.incoming.comms = .finished := by
  have lost : s.incoming.step .lost = none := stuck.incoming rfl
  have sendPub : s.incoming.step .sendPub = none := stuck.incoming rfl
  have handle := stuck.handle
  cases position : s.incoming.comms with
  | selecting => exact .inl rfl
  | finished => exact .inr rfl
  | losing error pub =>
      cases pub <;> simp [IncomingPipeline.step, position] at lost
  | sendingPub packet =>
      cases dispatcher : s.incoming.dispatcher with
      | ranging => simp [IncomingPipeline.step, position, dispatcher] at sendPub
      | handling other => simp [IncomingPipeline.step, dispatcher] at handle
      | finished =>
          have closed := consistent.ends.dispatcher dispatcher
          have order := consistent.closes.incomingPubChan
          have holds := (consistent.closes.comms (by simpa [closed] using order)).1
          simp [position, Comms.holds] at holds

/-- An error that somebody has to hand over would be taken. -/
theorem Stuck.outErrorClosed {error : CommsError} {forwarder : Forwarder}
    {errorForwarder : ErrorForwarder}
    (refused : { s.incoming with forwarder, errorForwarder }.receiveError error =
      none) :
    s.incoming.outErrorClosed = true := by
  apply consistent.ends.commsErrors
  rcases stuck.comms consistent with selecting | finished
  · simpa [IncomingPipeline.receiveError, selecting] using refused
  · exact (consistent.ends.comms finished).2

theorem Stuck.forwarder :
    s.incoming.forwarder = .ranging ∨ s.incoming.forwarder = .finished := by
  have closeOutbound : s.incoming.step .closeOutbound = none := stuck.incoming rfl
  have closePublish : s.incoming.step .closePublish = none := stuck.incoming rfl
  have leave : s.incoming.step .leaveForwarder = none := stuck.incoming rfl
  have sendReadError : s.incoming.step .sendReadError = none := stuck.incoming rfl
  have sendPublish : s.incoming.step .sendPublish = none := stuck.incoming rfl
  cases position : s.incoming.forwarder with
  | ranging => exact .inl rfl
  | finished => exact .inr rfl
  | closingOutbound => simp [IncomingPipeline.step, position] at closeOutbound
  | closingPublish => simp [IncomingPipeline.step, position] at closePublish
  | leaving => simp [IncomingPipeline.step, position] at leave
  | forwarding message =>
      cases message with
      | outbound packet => exact absurd position (consistent.ends.forwarder packet)
      | err failure =>
          simp only [IncomingPipeline.step, position] at sendReadError
          have closed := stuck.outErrorClosed consistent sendReadError
          cases position.symm.trans (consistent.ends.outError closed).1
      | incomingPub packet =>
          have watched : s.incoming.commsIncomingPub = true := by
            by_contra closed
            have published :=
              (consistent.closes.comms (eq_false_of_ne_true closed)).2
            simp [position, Forwarder.publishClosed] at published
          rcases stuck.comms consistent with selecting | finished
          · simp [IncomingPipeline.step, position, selecting, watched] at sendPublish
          · cases watched.symm.trans (consistent.ends.comms finished).1

theorem Stuck.sorter :
    s.incoming.sorter = .selecting ∨ s.incoming.sorter = .finished := by
  have sort : s.incoming.step .sort = none := stuck.incoming rfl
  have disconnected : s.incoming.step .disconnected = none := stuck.incoming rfl
  have sendIncoming : s.incoming.step .sendIncoming = none := stuck.incoming rfl
  cases position : s.incoming.sorter with
  | selecting => exact .inl rfl
  | finished => exact .inr rfl
  | sorting packet => simp [IncomingPipeline.step, position] at sort
  | disconnecting returnCode => simp [IncomingPipeline.step, position] at disconnected
  | sending message =>
      rcases stuck.forwarder consistent with ranging | finished
      · simp [IncomingPipeline.step, position, ranging] at sendIncoming
      · have ended := consistent.closes.forwarder (by simp [finished, Forwarder.hasRanged])
        cases position.symm.trans ended

theorem Stuck.reader : s.incoming.reader = .finished := by
  have readFails : s.incoming.step (.readFails "") = none := stuck.incoming rfl
  have handleFailure : s.incoming.step .handleFailure = none := stuck.incoming rfl
  have sendInbound : s.incoming.step .sendInbound = none := stuck.incoming rfl
  have closeInbound : s.incoming.step .closeInbound = none := stuck.incoming rfl
  cases position : s.incoming.reader with
  | finished => rfl
  | reading => simp [IncomingPipeline.step, position] at readFails
  | failed failure => simp [IncomingPipeline.step, position] at handleFailure
  | closing => simp [IncomingPipeline.step, position] at closeInbound
  | sending message =>
      have watched : s.incoming.ibound = true := by
        by_contra closed
        cases position.symm.trans (consistent.closes.reader (eq_false_of_ne_true closed))
      rcases stuck.sorter consistent with selecting | finished
      · cases message <;>
          simp [IncomingPipeline.step, position, selecting, watched] at sendInbound
      · cases watched.symm.trans (consistent.closes.sorter finished)

theorem Stuck.sorter_finished : s.incoming.sorter = .finished := by
  have closeStore : s.incoming.step .closeStore = none := stuck.incoming rfl
  have seeStore : s.incoming.step .seeStoreClosed = none := stuck.incoming rfl
  have seeInbound : s.incoming.step .seeInboundClosed = none := stuck.incoming rfl
  have close : s.incoming.step .closeIncoming = none := stuck.incoming rfl
  have reader := stuck.reader consistent
  refine (stuck.sorter consistent).resolve_left fun selecting => ?_
  have storeClosed : s.incoming.storeClosed = true := by
    simpa [IncomingPipeline.step] using closeStore
  have noStore : s.incoming.inboundFromStore = false := by
    by_contra isWatched
    have watched := eq_true_of_ne_false isWatched
    simp [IncomingPipeline.step, selecting, storeClosed, watched] at seeStore
  have noInbound : s.incoming.ibound = false := by
    by_contra isWatched
    have watched := eq_true_of_ne_false isWatched
    simp [IncomingPipeline.step, selecting, reader, watched] at seeInbound
  simp [IncomingPipeline.step, selecting, noStore, noInbound] at close

theorem Stuck.forwarder_finished : s.incoming.forwarder = .finished := by
  have see : s.incoming.step .seeIncomingClosed = none := stuck.incoming rfl
  refine (stuck.forwarder consistent).resolve_left fun ranging => ?_
  simp [IncomingPipeline.step, ranging, stuck.sorter_finished consistent] at see

theorem Stuck.commsIncomingPub : s.incoming.commsIncomingPub = false := by
  have see : s.incoming.step .seePublishClosed = none := stuck.incoming rfl
  rcases stuck.comms consistent with selecting | finished
  · by_contra isWatched
    have watched := eq_true_of_ne_false isWatched
    simp [IncomingPipeline.step, stuck.forwarder_finished consistent, selecting,
      watched] at see
  · exact (consistent.ends.comms finished).1

theorem Stuck.dispatcher : s.incoming.dispatcher = .finished := by
  have handle := stuck.handle
  have see : s.incoming.step .seePubClosed = none := stuck.incoming rfl
  have closed : s.incoming.incomingPubChanClosed = true := by
    rw [consistent.closes.incomingPubChan, stuck.commsIncomingPub consistent]
    rfl
  cases position : s.incoming.dispatcher with
  | finished => rfl
  | handling packet => simp [IncomingPipeline.step, position] at handle
  | ranging => simp [IncomingPipeline.step, position, closed] at see

theorem Stuck.dispatchEnd : s.dispatchEnd = .ackOutClosed := by
  have closeStop := stuck .closeStopAckCopy rfl
  have stopCopier := stuck .stopCopier rfl
  have closeAckOut := stuck .closeAckOut rfl
  have dispatcher := stuck.dispatcher consistent
  cases position : s.dispatchEnd with
  | ackOutClosed => rfl
  | notReached => simp [step, dispatcher, position] at closeStop
  | awaitingCopier =>
      cases copier : s.copier with
      | copying => simp [step, copier, position] at stopCopier
      | dropping => simp [step, copier, position] at closeAckOut
      | finished =>
          have closed := consistent.goRoutinesDone (consistent.copier copier)
          cases position.symm.trans closed

/-- The ack copier waits for the handlers only. -/
theorem Stuck.copier (returned : s.handlers = 0) : s.copier = .finished := by
  have stopCopier := stuck .stopCopier rfl
  have closeDone := stuck .closeGoRoutinesDone rfl
  have endCopier := stuck .endCopier rfl
  have closed := stuck.dispatchEnd consistent
  have done : s.goRoutinesDone = true := by
    simpa [step, closed, returned] using closeDone
  cases position : s.copier with
  | finished => rfl
  | copying => simp [step, position, closed] at stopCopier
  | dropping => simp [step, position, done] at endCopier

theorem Stuck.errorForwarder : s.incoming.errorForwarder = .ranging ∨
    s.incoming.errorForwarder = .finished := by
  have forward : s.incoming.step .forwardWriteError = none := stuck.incoming rfl
  have leave : s.incoming.step .leaveErrorForwarder = none := stuck.incoming rfl
  cases position : s.incoming.errorForwarder with
  | ranging => exact .inl rfl
  | finished => exact .inr rfl
  | leaving => simp [IncomingPipeline.step, position] at leave
  | forwarding message =>
      simp only [IncomingPipeline.step, position] at forward
      have closed := stuck.outErrorClosed consistent forward
      cases position.symm.trans (consistent.ends.outError closed).2

theorem Stuck.errorSource : s.incoming.errorSource = .writing ∨
    s.incoming.errorSource = .finished := by
  have send : s.incoming.step .sendWriteError = none := stuck.incoming rfl
  cases position : s.incoming.errorSource with
  | writing => exact .inl rfl
  | finished => exact .inr rfl
  | sending message =>
      rcases stuck.errorForwarder consistent with ranging | finished
      · simp [IncomingPipeline.step, position, ranging] at send
      · cases position.symm.trans (consistent.ends.errorForwarder (.inr finished))

omit consistent in
/-- Who holds `connWriteMu` can go on, and who wants it gets it. -/
theorem Stuck.not_writing (message : Outbound) : s.outgoing ≠ .writing message := by
  intro position
  have write := stuck (.write (some "")) rfl
  simp [step, position] at write

omit consistent in
theorem Stuck.keepalive (stopped : s.stopped = true) :
    s.keepalive = .absent ∨ s.keepalive = .finished := by
  have enter := stuck (.enterLoop true) rfl
  have lockPing := stuck .lockPing rfl
  have ping := stuck .ping rfl
  have check := stuck (.check true) rfl
  have lost := stuck .keepaliveLost rfl
  have seeStop := stuck .seeStop rfl
  have leave := stuck .leaveKeepalive rfl
  cases position : s.keepalive with
  | absent => exact .inl rfl
  | finished => exact .inr rfl
  | starting => simp [step, position] at enter
  | waiting => simp [step, position, stopped] at seeStop
  | locking =>
      cases outgoing : s.outgoing with
      | writing message => exact absurd outgoing (stuck.not_writing message)
      | _ => simp [step, position, outgoing] at lockPing
  | pinging => simp [step, position] at ping
  | checking => simp [step, position] at check
  | losing => simp [step, position] at lost
  | leaving => simp [step, position] at leave

omit consistent in
theorem Stuck.outgoing (stopped : s.stopped = true) : s.outgoing = .selecting := by
  have lock := stuck .lock rfl
  have settle := stuck .settle rfl
  cases position : s.outgoing with
  | selecting => rfl
  | writing message => exact absurd position (stuck.not_writing message)
  | settling message failure => simp [step, position] at settle
  | received message =>
      rcases stuck.keepalive stopped with keepalive | keepalive
      · simp [step, position, keepalive] at lock
      · simp [step, position, keepalive] at lock

theorem Stuck.redirector (stopped : s.stopped = true) : s.redirector = .finished := by
  have stops := stuck .redirectorStops rfl
  have drained := stuck .drained rfl
  have closePriority := stuck .closePriority rfl
  have closePush := stuck .closePush rfl
  have leave := stuck .leaveRedirector rfl
  have pass := stuck .pass rfl
  cases position : s.redirector with
  | finished => rfl
  | selecting => simp [step, position, stopped] at stops
  | draining => simp [step, position, stuck.dispatchEnd consistent] at drained
  | closingPriority => simp [step, position] at closePriority
  | closingPush => simp [step, position] at closePush
  | leaving => simp [step, position] at leave
  | passing message =>
      have awaits : s.redirector.awaitsAcks = true := by
        rw [position]
        rfl
      have push : s.obound = true := by
        by_contra closed
        cases (consistent.obound (eq_false_of_ne_true closed)).symm.trans
          (OutputRedirector.pushClosed_of_awaitsAcks awaits)
      have priority : s.oboundp = true := by
        by_contra closed
        cases (consistent.oboundp (eq_false_of_ne_true closed)).symm.trans
          (OutputRedirector.priorityClosed_of_awaitsAcks awaits)
      have writing : s.incoming.errorSource = .writing := by
        refine (stuck.errorSource consistent).resolve_right fun finished => ?_
        cases push.symm.trans (consistent.errChan finished).1
      cases message <;>
        simp [step, position, OutgoingReady, stuck.outgoing stopped, writing,
          watches, push, priority] at pass

theorem Stuck.errorSource_finished (stopped : s.stopped = true) :
    s.incoming.errorSource = .finished := by
  have seePush := stuck .seePushClosed rfl
  have seePriority := stuck .seePriorityClosed rfl
  have seeOutbound := stuck .seeOutboundClosed rfl
  have close := stuck .closeErrChan rfl
  have redirector := stuck.redirector consistent stopped
  have forwarder := stuck.forwarder_finished consistent
  refine (stuck.errorSource consistent).resolve_left fun writing => ?_
  have ready : s.OutgoingReady := ⟨stuck.outgoing stopped, writing⟩
  have push : s.obound = false := by
    simpa [step, ready, redirector, OutputRedirector.pushClosed] using seePush
  have priority : s.oboundp = false := by
    simpa [step, ready, redirector, OutputRedirector.priorityClosed] using seePriority
  have outbound : s.oboundFromIncoming = false := by
    simpa [step, ready, forwarder, Forwarder.outboundClosed] using seeOutbound
  simp [step, ready, push, priority, outbound, IncomingPipeline.step, writing,
    forwarder] at close

theorem Stuck.errorForwarder_finished (stopped : s.stopped = true) :
    s.incoming.errorForwarder = .finished := by
  have see : s.incoming.step .seeWriteErrorsClosed = none := stuck.incoming rfl
  refine (stuck.errorForwarder consistent).resolve_left fun ranging => ?_
  simp [IncomingPipeline.step, ranging,
    stuck.errorSource_finished consistent stopped] at see

theorem Stuck.comms_finished (stopped : s.stopped = true) :
    s.incoming.comms = .finished := by
  have close : s.incoming.step .closeErrors = none := stuck.incoming rfl
  have see : s.incoming.step .seeErrorsClosed = none := stuck.incoming rfl
  have finish : s.incoming.step .finishComms = none := stuck.incoming rfl
  have noPub := stuck.commsIncomingPub consistent
  refine (stuck.comms consistent).resolve_left fun selecting => ?_
  have closed : s.incoming.outErrorClosed = true := by
    by_contra isOpen
    simp [IncomingPipeline.step, stuck.forwarder_finished consistent,
      stuck.errorForwarder_finished consistent stopped,
      eq_false_of_ne_true isOpen] at close
  have noErrors : s.incoming.commsErrors = false := by
    by_contra isWatched
    simp [IncomingPipeline.step, closed, selecting,
      eq_true_of_ne_false isWatched] at see
  simp [IncomingPipeline.step, selecting, noPub, noErrors] at finish

/-- A stopped connection in which nothing goes on has been torn down. -/
theorem Stuck.tornDown (stopped : s.stopped = true) : s.TornDown := by
  have keepalive := stuck.keepalive stopped
  have redirector := stuck.redirector consistent stopped
  have comms := stuck.comms_finished consistent stopped
  have workers : s.workers = 0 := by
    rw [consistent.workers, redirector]
    rcases keepalive with position | position
    · simp [position, ackCounted, redirector, KeepaliveGoroutine.counted,
        OutputRedirector.counted, OutputRedirector.awaitsAcks]
    · simp [position, ackCounted, redirector, KeepaliveGoroutine.counted,
        OutputRedirector.counted, OutputRedirector.awaitsAcks]
  have waiter : s.waiter = .done := by
    have workersDone := stuck .workersDone rfl
    have commsStopped := stuck .commsStopped rfl
    cases position : s.waiter with
    | done => rfl
    | absent => exact absurd position (consistent.waiter stopped)
    | awaitingWorkers => simp [step, position, workers] at workersDone
    | awaitingComms => simp [step, position, comms] at commsStopped
  exact {
    waiter
    workers
    keepalive
    redirector
    reader := stuck.reader consistent
    sorter := stuck.sorter_finished consistent
    forwarder := stuck.forwarder_finished consistent
    errorSource := stuck.errorSource_finished consistent stopped
    errorForwarder := stuck.errorForwarder_finished consistent stopped
    comms
    dispatcher := stuck.dispatcher consistent
    dispatchEnd := stuck.dispatchEnd consistent
    copier := stuck.copier consistent }

end Stuck

end CommsNetwork

end Progress

end Client

end RmttGo
