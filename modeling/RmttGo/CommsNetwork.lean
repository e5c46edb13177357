import RmttGo.IncomingPipeline
import RmttGo.PushPipeline

/-!
# The goroutines of a connection

What `startWorkers` starts for a connection, and `stopCommsWorkers` waits for:
`keepalive`, the output redirector, the outgoing goroutine, the incoming
pipeline and the goroutines of `dispatch` with the handlers they start.  The
incoming pipeline is the one of `IncomingPipeline`, in which the outgoing
goroutine stands for the source of write errors; here it has its own steps.
`connWriteMu` is held by the goroutine that is writing.
-/

namespace RmttGo

namespace Client

open Codec

/-- The goroutine `keepalive`, for each of its loops. -/
inductive KeepaliveGoroutine
  | absent
  /-- In front of the loop. -/
  | starting
  | waiting
  /-- In `writePingReq`, without `connWriteMu`. -/
  | locking
  /-- Writing the PINGREQ, with `connWriteMu`. -/
  | pinging
  /-- A tick has been handled, but for the decision to give up. -/
  | checking
  /-- In `internalConnLost`. -/
  | losing
  /-- `workers.Done()` comes next. -/
  | leaving
  | finished
  deriving DecidableEq, Repr

/-- The redirector goroutine of `startWorkers`. -/
inductive OutputRedirector
  | selecting
  /-- Sending a PUSH on `commsobound`, another packet on `commsoboundP`. -/
  | passing (message : Outbound)
  /-- Behind `c.stop`, ranging over `ackOut`. -/
  | draining
  | closingPriority
  | closingPush
  /-- `workers.Done()` comes next. -/
  | leaving
  | finished
  deriving DecidableEq, Repr

/-- `commsoboundP` is closed. -/
def OutputRedirector.priorityClosed : OutputRedirector → Bool
  | .closingPush | .leaving | .finished => true
  | _ => false

/-- `commsobound` is closed. -/
def OutputRedirector.pushClosed : OutputRedirector → Bool
  | .leaving | .finished => true
  | _ => false

/-- `outboundFromIncoming` is closed. -/
def Forwarder.outboundClosed : Forwarder → Bool
  | .closingPublish | .leaving | .finished => true
  | _ => false

/-- The goroutine of `startOutgoingComms`, as long as it has no error to send
on `errChan`. -/
inductive OutgoingGoroutine
  | selecting
  /-- A message without `connWriteMu`. -/
  | received (message : Outbound)
  /-- Writing the message, with `connWriteMu`. -/
  | writing (message : Outbound)
  | settling (message : Outbound) (failure : Option String)
  deriving DecidableEq, Repr

/-- The goroutine of `dispatch` that copies acknowledgements; nobody sends one
on `ackInChan`. -/
inductive AckCopier
  | copying
  /-- `ackCopyStopped` is closed. -/
  | dropping
  /-- `goRoutinesDone` was closed, and `ackInChan` is. -/
  | finished
  deriving DecidableEq, Repr

/-- The other goroutine of `dispatch`, behind its loop. -/
inductive DispatchEnd
  | notReached
  /-- `stopAckCopy` is closed. -/
  | awaitingCopier
  | ackOutClosed
  deriving DecidableEq, Repr

/-- The goroutine that `stopCommsWorkers` leaves behind. -/
inductive StopWaiter
  | absent
  | awaitingWorkers
  | awaitingComms
  /-- `doneChan` is closed. -/
  | done
  deriving DecidableEq, Repr

structure CommsNetwork where
  incoming : IncomingPipeline
  /-- `c.stop` is closed. -/
  stopped : Bool
  connClosed : Bool
  keepalive : KeepaliveGoroutine
  redirector : OutputRedirector
  /-- The variable of the redirector: the channel is still watched. -/
  ackOut : Bool
  outgoing : OutgoingGoroutine
  /-- The variables of the outgoing goroutine: the channel is still watched. -/
  obound : Bool
  oboundp : Bool
  oboundFromIncoming : Bool
  copier : AckCopier
  dispatchEnd : DispatchEnd
  /-- The wait group of `dispatch`: the handlers that have not returned. -/
  handlers : Nat
  /-- The goroutine that `dispatch` leaves behind has waited for the handlers and
  closed the channel. -/
  goRoutinesDone : Bool
  /-- The wait group `c.workers`. -/
  workers : Nat
  waiter : StopWaiter
  deriving DecidableEq, Repr

inductive NetworkEvent
  | incoming (event : PipelineEvent)
  | enterLoop (runs : Bool)
  | tick (pings : Bool)
  | lockPing
  | ping
  | check (givesUp : Bool)
  /-- `internalConnLost` returns in `keepalive`. -/
  | keepaliveLost
  | seeStop
  | leaveKeepalive
  /-- A message of `Push` on `c.obound`. -/
  | takePush (call : Nat) (payload : Bytes)
  /-- The DISCONNECT of `Disconnect` on `c.oboundP`. -/
  | takeDisconnect
  | seeAckOutClosed
  | redirectorStops
  | drained
  | closePriority
  | closePush
  | leaveRedirector
  | pass
  | lock
  | write (failure : Option String)
  | settle
  | seePushClosed
  | seePriorityClosed
  | seeOutboundClosed
  | closeErrChan
  /-- A message is handled: each handler is started in a goroutine. -/
  | handle (handlers : Nat)
  | handlerReturns
  | closeStopAckCopy
  | stopCopier
  | closeAckOut
  | closeGoRoutinesDone
  | endCopier
  /-- `stopCommsWorkers` closes `c.stop` and the connection. -/
  | stop
  | workersDone
  | commsStopped
  deriving DecidableEq, Repr

namespace CommsNetwork

/-- Behind `startWorkers`. -/
def initial (keepsAlive : Bool) (stream : Bytes) : CommsNetwork where
  incoming := .initial stream
  stopped := false
  connClosed := false
  keepalive := if keepsAlive then .starting else .absent
  redirector := .selecting
  ackOut := true
  outgoing := .selecting
  obound := true
  oboundp := true
  oboundFromIncoming := true
  copier := .copying
  dispatchEnd := .notReached
  handlers := 0
  goRoutinesDone := false
  workers := if keepsAlive then 3 else 2
  waiter := .absent

/-- The incoming pipeline leaves these steps to the outgoing goroutine and to
`handle`; nobody sets the field `outbound` of an `incomingComms`. -/
def leftToOthers : PipelineEvent → Bool
  | .writeFails _ | .closeWriteErrors | .sendOutbound | .handle => true
  | _ => false

def workerDone (s : CommsNetwork) : CommsNetwork :=
  { s with workers := s.workers - 1 }

/-- The outgoing goroutine is in its `select`, and not behind it with an error
to send. -/
def OutgoingReady (s : CommsNetwork) : Prop :=
  s.outgoing = .selecting ∧ s.incoming.errorSource = .writing

instance (s : CommsNetwork) : Decidable s.OutgoingReady :=
  inferInstanceAs (Decidable (_ ∧ _))

/-- The channel the redirector passes the message on is still watched. -/
def watches (s : CommsNetwork) : Outbound → Bool
  | .push _ _ => s.obound
  | .control _ => s.oboundp

/-- `errChan <- writeErr`. -/
def report (s : CommsNetwork) (failure : String) : CommsNetwork :=
  { s with incoming := { s.incoming with errorSource := .sending failure } }

/-- Behind a write: a failure is reported, but for a PUSH on a connection closed
on this side; a DISCONNECT that was written closes the connection. -/
def settled (s : CommsNetwork) : Outbound → Option String → CommsNetwork
  | .push _ _, none => s
  | .push _ _, some failure =>
      if closedNetConnErrorText <:+: failure.toList then s else s.report failure
  | .control _, none => { s with connClosed := true }
  | .control _, some failure => s.report failure

def step (s : CommsNetwork) : NetworkEvent → Option CommsNetwork
  | .incoming event =>
      if leftToOthers event then none
      else (s.incoming.step event).map fun incoming => { s with incoming }
  | .enterLoop runs =>
      if s.keepalive = .starting then
        some { s with keepalive := if runs then .waiting else .leaving }
      else
        none
  | .tick pings =>
      if s.keepalive = .waiting then
        some { s with keepalive := if pings then .locking else .checking }
      else
        none
  | .lockPing =>
      match s.keepalive, s.outgoing with
      | .locking, .writing _ => none
      | .locking, _ => some { s with keepalive := .pinging }
      | _, _ => none
  | .ping =>
      if s.keepalive = .pinging then some { s with keepalive := .checking } else none
  | .check givesUp =>
      if s.keepalive = .checking then
        some { s with keepalive := if givesUp then .losing else .waiting }
      else
        none
  | .keepaliveLost =>
      if s.keepalive = .losing then some { s with keepalive := .leaving } else none
  | .seeStop =>
      if s.keepalive = .waiting ∧ s.stopped then
        some { s with keepalive := .leaving }
      else
        none
  | .leaveKeepalive =>
      if s.keepalive = .leaving then
        some { s.workerDone with keepalive := .finished }
      else
        none
  | .takePush call payload =>
      if s.redirector = .selecting then
        some { s with redirector := .passing (.push call payload) }
      else
        none
  | .takeDisconnect =>
      if s.redirector = .selecting then
        some { s with
          redirector := .passing (.control (disconnectPacket Reason.normalDisconnect)) }
      else
        none
  | .seeAckOutClosed =>
      if s.redirector = .selecting ∧ s.ackOut ∧ s.dispatchEnd = .ackOutClosed then
        some { s.workerDone with ackOut := false }
      else
        none
  | .redirectorStops =>
      if s.redirector = .selecting ∧ s.stopped then
        some { s with redirector := if s.ackOut then .draining else .closingPriority }
      else
        none
  | .drained =>
      if s.redirector = .draining ∧ s.dispatchEnd = .ackOutClosed then
        some { s.workerDone with redirector := .closingPriority }
      else
        none
  | .closePriority =>
      if s.redirector = .closingPriority then
        some { s with redirector := .closingPush }
      else
        none
  | .closePush =>
      if s.redirector = .closingPush then
        some { s with redirector := .leaving }
      else
        none
  | .leaveRedirector =>
      if s.redirector = .leaving then
        some { s.workerDone with redirector := .finished }
      else
        none
  | .pass =>
      match s.redirector with
      | .passing message =>
          if s.OutgoingReady ∧ s.watches message then
            some { s with redirector := .selecting, outgoing := .received message }
          else
            none
      | _ => none
  | .lock =>
      match s.outgoing with
      | .received message =>
          if s.keepalive = .pinging then none
          else some { s with outgoing := .writing message }
      | _ => none
  | .write failure =>
      match s.outgoing with
      | .writing message =>
          if s.connClosed ∧ failure = none then none
          else some { s with outgoing := .settling message failure }
      | _ => none
  | .settle =>
      match s.outgoing with
      | .settling message failure =>
          some ({ s with outgoing := .selecting }.settled message failure)
      | _ => none
  | .seePushClosed =>
      if s.OutgoingReady ∧ s.obound ∧ s.redirector.pushClosed then
        some { s with obound := false }
      else
        none
  | .seePriorityClosed =>
      if s.OutgoingReady ∧ s.oboundp ∧ s.redirector.priorityClosed then
        some { s with oboundp := false }
      else
        none
  | .seeOutboundClosed =>
      if s.OutgoingReady ∧ s.oboundFromIncoming ∧
          s.incoming.forwarder.outboundClosed then
        some { s with oboundFromIncoming := false }
      else
        none
  | .closeErrChan =>
      if s.OutgoingReady ∧ ¬ s.obound ∧ ¬ s.oboundp ∧ ¬ s.oboundFromIncoming then
        (s.incoming.step .closeWriteErrors).map fun incoming => { s with incoming }
      else
        none
  | .handle handlers =>
      (s.incoming.step .handle).map fun incoming =>
        { s with incoming, handlers := s.handlers + handlers }
  | .handlerReturns =>
      if s.handlers = 0 then none else some { s with handlers := s.handlers - 1 }
  | .closeStopAckCopy =>
      if s.incoming.dispatcher = .finished ∧ s.dispatchEnd = .notReached then
        some { s with dispatchEnd := .awaitingCopier }
      else
        none
  | .stopCopier =>
      if s.copier = .copying ∧ s.dispatchEnd ≠ .notReached then
        some { s with copier := .dropping }
      else
        none
  | .closeAckOut =>
      if s.dispatchEnd = .awaitingCopier ∧ s.copier = .dropping then
        some { s with dispatchEnd := .ackOutClosed }
      else
        none
  | .closeGoRoutinesDone =>
      if s.goRoutinesDone = false ∧ s.dispatchEnd = .ackOutClosed ∧
          s.handlers = 0 then
        some { s with goRoutinesDone := true }
      else
        none
  | .endCopier =>
      if s.copier = .dropping ∧ s.goRoutinesDone then
        some { s with copier := .finished }
      else
        none
  | .stop =>
      if s.stopped then none
      else some { s with
        stopped := true
        connClosed := true
        waiter := .awaitingWorkers }
  | .workersDone =>
      if s.waiter = .awaitingWorkers ∧ s.workers = 0 then
        some { s with waiter := .awaitingComms }
      else
        none
  | .commsStopped =>
      if s.waiter = .awaitingComms ∧ s.incoming.comms = .finished then
        some { s with waiter := .done }
      else
        none

end CommsNetwork

end Client

end RmttGo
