import RmttGo.PacketErrors

/-!
# The way of an incoming packet

The goroutines between `ReadPacket` and the message handlers of a client, for
one connection: `startIncoming` reads, `startIncomingComms` sorts, the goroutines
of `startComms` pass packets and errors on, the comms goroutine of `startWorkers`
hands the PUSH packets to `dispatch` and reports the errors.  They are connected
by unbuffered channels, so a value moves when its sender offers it and its
receiver is ready to take it; a closed channel is seen by a receiver that is
ready.  The outgoing goroutine only appears as the source of write errors.
-/

namespace RmttGo

namespace Client

open Codec

/-- `closedNetConnErrorText`. -/
def closedNetConnErrorText : List Char :=
  "use of closed network connection".toList

/-- `inbound`: one of its two fields is set. -/
inductive Inbound
  | err (failure : Error)
  | cp (packet : ControlPacket)
  deriving DecidableEq, Repr

/-- `incomingComms`: one of its three fields is set. -/
inductive IncomingComms
  | err (failure : Error)
  | outbound (packet : ControlPacket)
  | incomingPub (packet : PushPacket)
  deriving DecidableEq, Repr

/-- The errors that reach the comms goroutine. -/
inductive CommsError
  | incoming (failure : Error)
  | outgoing (message : String)
  deriving DecidableEq, Repr

/-- The goroutine of `startIncoming`. -/
inductive Reader
  | reading
  /-- `ReadPacket` has returned an error. -/
  | failed (failure : Error)
  /-- Sending on `ibound`. -/
  | sending (message : Inbound)
  | closing
  | finished
  deriving DecidableEq, Repr

/-- The goroutine of `startIncomingComms`. -/
inductive Sorter
  | selecting
  /-- `msg` is set and `UpdateLastReceived` called. -/
  | sorting (packet : ControlPacket)
  /-- In `CloseConnect`. -/
  | disconnecting (returnCode : UInt8)
  /-- Sending on `output`. -/
  | sending (message : IncomingComms)
  | finished
  deriving DecidableEq, Repr

/-- The goroutine of `startComms` that reads what was sorted. -/
inductive Forwarder
  | ranging
  /-- Sending on `outError`, `outboundFromIncoming` or `outPublish`. -/
  | forwarding (message : IncomingComms)
  | closingOutbound
  | closingPublish
  /-- `wg.Done()` comes next. -/
  | leaving
  | finished
  deriving DecidableEq, Repr

/-- The goroutine of `startOutgoingComms`, as far as its errors go. -/
inductive ErrorSource
  | writing
  /-- Sending on `errChan`. -/
  | sending (message : String)
  | finished
  deriving DecidableEq, Repr

/-- The goroutine of `startComms` that passes the write errors on. -/
inductive ErrorForwarder
  | ranging
  | forwarding (message : String)
  /-- `wg.Done()` comes next. -/
  | leaving
  | finished
  deriving DecidableEq, Repr

/-- The comms goroutine of `startWorkers`. -/
inductive Comms
  | selecting
  /-- In the loop `sendPubLoop`. -/
  | sendingPub (packet : PushPacket)
  /-- In `internalConnLost`, from the outer `select` or from `sendPubLoop`. -/
  | losing (error : CommsError) (pub : Option PushPacket)
  | finished
  deriving DecidableEq, Repr

/-- The goroutine of `dispatch` that reads the messages. -/
inductive Dispatcher
  | ranging
  /-- Starting the handlers for a message. -/
  | handling (packet : PushPacket)
  | finished
  deriving DecidableEq, Repr

structure IncomingPipeline where
  /-- What the connection has not delivered yet. -/
  unread : Buffer
  /-- What the calls of `ReadPacket` have returned. -/
  decoded : List ControlPacket
  /-- What `startIncoming` has written to the connection. -/
  written : List ControlPacket
  reader : Reader
  /-- `inboundFromStore`, on which nobody sends, is closed. -/
  storeClosed : Bool
  /-- The variables of the sorter: the channel is still watched. -/
  inboundFromStore : Bool
  ibound : Bool
  sorter : Sorter
  forwarder : Forwarder
  errorSource : ErrorSource
  errorForwarder : ErrorForwarder
  outErrorClosed : Bool
  /-- The variables of the comms goroutine: the channel is still watched. -/
  commsIncomingPub : Bool
  commsErrors : Bool
  comms : Comms
  incomingPubChanClosed : Bool
  dispatcher : Dispatcher
  /-- The messages `dispatch` has got. -/
  received : List PushPacket
  deriving DecidableEq, Repr

inductive PipelineEvent
  /-- `ReadPacket` returns what the bytes of the connection give. -/
  | read
  /-- `ReadPacket` returns an error of the connection. -/
  | readFails (message : String)
  | handleFailure
  | sendInbound
  | closeInbound
  | closeStore
  | seeStoreClosed
  | seeInboundClosed
  | sort
  /-- `CloseConnect` returns. -/
  | disconnected
  | sendIncoming
  | closeIncoming
  | seeIncomingClosed
  | sendOutbound
  | closeOutbound
  | closePublish
  | leaveForwarder
  | writeFails (message : String)
  | sendWriteError
  | closeWriteErrors
  | seeWriteErrorsClosed
  | leaveErrorForwarder
  | sendReadError
  | forwardWriteError
  | closeErrors
  | seeErrorsClosed
  /-- `internalConnLost` returns. -/
  | lost
  | sendPublish
  | seePublishClosed
  | sendPub
  | handle
  | seePubClosed
  | finishComms
  deriving DecidableEq, Repr

namespace IncomingPipeline

def initial (stream : Bytes) : IncomingPipeline where
  unread := ⟨stream⟩
  decoded := []
  written := []
  reader := .reading
  storeClosed := false
  inboundFromStore := true
  ibound := true
  sorter := .selecting
  forwarder := .ranging
  errorSource := .writing
  errorForwarder := .ranging
  outErrorClosed := false
  commsIncomingPub := true
  commsErrors := true
  comms := .selecting
  incomingPubChanClosed := false
  dispatcher := .ranging
  received := []

/-- What the sorter does with a packet. -/
def sort (packet : ControlPacket) : Sorter :=
  match packet with
  | .push packet => .sending (.incomingPub packet)
  | .disconnect packet => .disconnecting packet.returnCode
  | _ => .selecting

/-- The comms goroutine receives an error, in one of its two `select`s. -/
def receiveError (s : IncomingPipeline) (error : CommsError) :
    Option IncomingPipeline :=
  if s.commsErrors then
    match s.comms with
    | .selecting => some { s with comms := .losing error none }
    | .sendingPub packet => some { s with comms := .losing error (some packet) }
    | _ => none
  else
    none

def step (s : IncomingPipeline) : PipelineEvent → Option IncomingPipeline
  | .read =>
      match s.reader, readPacket s.unread with
      | .reading, .ok (packet, unread) =>
          some { s with
            unread
            decoded := s.decoded ++ [packet]
            reader := .sending (.cp packet) }
      | .reading, .error failure => some { s with reader := .failed failure }
      | _, _ => none
  | .readFails message =>
      match s.reader with
      | .reading => some { s with reader := .failed (.read (.transport message)) }
      | _ => none
  | .handleFailure =>
      match s.reader with
      | .failed failure =>
          some { s with
            written :=
              -- An unknown packet type is answered with a DISCONNECT.
              if failure.Mentions unsupportedWords then
                s.written ++ [disconnectPacket Reason.protocolViolation]
              else
                s.written
            reader :=
              if failure.Mentions closedNetConnErrorText then
                .closing
              else
                .sending (.err failure) }
      | _ => none
  | .sendInbound =>
      match s.reader, s.sorter, s.ibound with
      | .sending (.cp packet), .selecting, true =>
          some { s with reader := .reading, sorter := .sorting packet }
      | .sending (.err failure), .selecting, true =>
          some { s with reader := .closing, sorter := .sending (.err failure) }
      | _, _, _ => none
  | .closeInbound =>
      match s.reader with
      | .closing => some { s with reader := .finished }
      | _ => none
  | .closeStore => if s.storeClosed then none else some { s with storeClosed := true }
  | .seeStoreClosed =>
      match s.sorter, s.inboundFromStore, s.storeClosed with
      | .selecting, true, true => some { s with inboundFromStore := false }
      | _, _, _ => none
  | .seeInboundClosed =>
      match s.sorter, s.ibound, s.reader with
      | .selecting, true, .finished => some { s with ibound := false }
      | _, _, _ => none
  | .sort =>
      match s.sorter with
      | .sorting packet => some { s with sorter := sort packet }
      | _ => none
  | .disconnected =>
      match s.sorter with
      | .disconnecting _ => some { s with sorter := .selecting }
      | _ => none
  | .sendIncoming =>
      match s.sorter, s.forwarder with
      | .sending message, .ranging =>
          some { s with sorter := .selecting, forwarder := .forwarding message }
      | _, _ => none
  | .closeIncoming =>
      match s.sorter, s.inboundFromStore, s.ibound with
      | .selecting, false, false => some { s with sorter := .finished }
      | _, _, _ => none
  | .seeIncomingClosed =>
      match s.forwarder, s.sorter with
      | .ranging, .finished => some { s with forwarder := .closingOutbound }
      | _, _ => none
  | .sendOutbound =>
      match s.forwarder, s.errorSource with
      | .forwarding (.outbound _), .writing => some { s with forwarder := .ranging }
      | _, _ => none
  | .closeOutbound =>
      match s.forwarder with
      | .closingOutbound => some { s with forwarder := .closingPublish }
      | _ => none
  | .closePublish =>
      match s.forwarder with
      | .closingPublish => some { s with forwarder := .leaving }
      | _ => none
  | .leaveForwarder =>
      match s.forwarder with
      | .leaving => some { s with forwarder := .finished }
      | _ => none
  | .writeFails message =>
      match s.errorSource with
      | .writing => some { s with errorSource := .sending message }
      | _ => none
  | .sendWriteError =>
      match s.errorSource, s.errorForwarder with
      | .sending message, .ranging =>
          some { s with
            errorSource := .writing
            errorForwarder := .forwarding message }
      | _, _ => none
  | .closeWriteErrors =>
      -- It stops once `outboundFromIncoming` and its other channels are closed.
      match s.errorSource, s.forwarder with
      | .writing, .closingPublish | .writing, .leaving | .writing, .finished =>
          some { s with errorSource := .finished }
      | _, _ => none
  | .seeWriteErrorsClosed =>
      match s.errorForwarder, s.errorSource with
      | .ranging, .finished => some { s with errorForwarder := .leaving }
      | _, _ => none
  | .leaveErrorForwarder =>
      match s.errorForwarder with
      | .leaving => some { s with errorForwarder := .finished }
      | _ => none
  | .sendReadError =>
      match s.forwarder with
      | .forwarding (.err failure) =>
          { s with forwarder := .ranging }.receiveError (.incoming failure)
      | _ => none
  | .forwardWriteError =>
      match s.errorForwarder with
      | .forwarding message =>
          { s with errorForwarder := .ranging }.receiveError (.outgoing message)
      | _ => none
  | .closeErrors =>
      -- `wg.Wait()`
      match s.forwarder, s.errorForwarder, s.outErrorClosed with
      | .finished, .finished, false => some { s with outErrorClosed := true }
      | _, _, _ => none
  | .seeErrorsClosed =>
      match s.commsErrors, s.outErrorClosed, s.comms with
      | true, true, .selecting | true, true, .sendingPub _ =>
          some { s with commsErrors := false }
      | _, _, _ => none
  | .lost =>
      match s.comms with
      | .losing _ none => some { s with comms := .selecting }
      | .losing _ (some packet) => some { s with comms := .sendingPub packet }
      | _ => none
  | .sendPublish =>
      match s.forwarder, s.comms, s.commsIncomingPub with
      | .forwarding (.incomingPub packet), .selecting, true =>
          some { s with forwarder := .ranging, comms := .sendingPub packet }
      | _, _, _ => none
  | .seePublishClosed =>
      match s.forwarder, s.comms, s.commsIncomingPub with
      | .leaving, .selecting, true | .finished, .selecting, true =>
          some { s with commsIncomingPub := false, incomingPubChanClosed := true }
      | _, _, _ => none
  | .sendPub =>
      match s.comms, s.dispatcher with
      | .sendingPub packet, .ranging =>
          some { s with
            comms := .selecting
            dispatcher := .handling packet
            received := s.received ++ [packet] }
      | _, _ => none
  | .handle =>
      match s.dispatcher with
      | .handling _ => some { s with dispatcher := .ranging }
      | _ => none
  | .seePubClosed =>
      match s.dispatcher, s.incomingPubChanClosed with
      | .ranging, true => some { s with dispatcher := .finished }
      | _, _ => none
  | .finishComms =>
      match s.comms, s.commsIncomingPub, s.commsErrors with
      | .selecting, false, false => some { s with comms := .finished }
      | _, _, _ => none

end IncomingPipeline

end Client

end RmttGo
