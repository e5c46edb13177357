import RmttGo.EventRuns
import RmttGo.IncomingPipeline

/-!
# Shutting the incoming goroutines down

Each goroutine between `ReadPacket` and `dispatch` holds at most one PUSH packet
and closes its channel only behind the goroutine before it, with nothing left to
hand on.  So the comms goroutine has nothing left to send when it closes
`incomingPubChan`.
-/

namespace RmttGo

namespace Client

open Codec

section Holding

def asPush : ControlPacket → Option PushPacket
  | .push packet => some packet
  | _ => none

/-! The PUSH packet a goroutine has taken over and not handed on. -/

def Reader.holds : Reader → Option PushPacket
  | .sending (.cp packet) => asPush packet
  | _ => none

def IncomingComms.holds : IncomingComms → Option PushPacket
  | .incomingPub packet => some packet
  | _ => none

def Sorter.holds : Sorter → Option PushPacket
  | .sorting packet => asPush packet
  | .sending message => message.holds
  | _ => none

def Forwarder.holds : Forwarder → Option PushPacket
  | .forwarding message => message.holds
  | _ => none

def Comms.holds : Comms → Option PushPacket
  | .sendingPub packet => some packet
  | .losing _ pub => pub
  | _ => none

/-- `outPublish` is closed. -/
def Forwarder.publishClosed : Forwarder → Bool
  | .leaving | .finished => true
  | _ => false

def Forwarder.hasRanged : Forwarder → Bool
  | .ranging | .forwarding _ => false
  | _ => true

theorem Forwarder.holds_of_hasRanged {forwarder : Forwarder}
    (hasRanged : forwarder.hasRanged = true) : forwarder.holds = none := by
  cases forwarder <;> first | rfl | cases hasRanged

theorem Forwarder.hasRanged_of_publishClosed {forwarder : Forwarder}
    (closed : forwarder.publishClosed = true) : forwarder.hasRanged = true := by
  cases forwarder <;> first | rfl | cases closed

theorem sort_holds (packet : ControlPacket) :
    (IncomingPipeline.sort packet).holds = asPush packet := by
  cases packet <;> rfl

end Holding

namespace IncomingPipeline

variable {s next : IncomingPipeline} {event : PipelineEvent}

section Transitions

/-- What a step can do to the packets on their way and to the channels they
take. -/
inductive StepTo (s : IncomingPipeline) : IncomingPipeline → Prop
  | decode {packet : ControlPacket} {unread : Buffer}
      (reading : s.reader = .reading)
      (isRead : readPacket s.unread = .ok (packet, unread)) :
      StepTo s { s with
        unread
        decoded := s.decoded ++ [packet]
        reader := .sending (.cp packet) }
  | failRead {failure : Error} (reading : s.reader = .reading) :
      StepTo s { s with reader := .failed failure }
  | handleFailure {failure : Error} {written : List ControlPacket} {reader : Reader}
      (failed : s.reader = .failed failure)
      (goesOn : reader = .closing ∨ reader = .sending (.err failure)) :
      StepTo s { s with written, reader }
  | sendPacket {packet : ControlPacket} (sending : s.reader = .sending (.cp packet))
      (selecting : s.sorter = .selecting) :
      StepTo s { s with reader := .reading, sorter := .sorting packet }
  | sendFailure {failure : Error} (sending : s.reader = .sending (.err failure))
      (selecting : s.sorter = .selecting) :
      StepTo s { s with reader := .closing, sorter := .sending (.err failure) }
  | closeInbound (closing : s.reader = .closing) :
      StepTo s { s with reader := .finished }
  | seeInboundClosed (finished : s.reader = .finished) :
      StepTo s { s with ibound := false }
  | sort {packet : ControlPacket} (sorting : s.sorter = .sorting packet) :
      StepTo s { s with sorter := IncomingPipeline.sort packet }
  | disconnected {returnCode : UInt8}
      (disconnecting : s.sorter = .disconnecting returnCode) :
      StepTo s { s with sorter := .selecting }
  | sendIncoming {message : IncomingComms} (sending : s.sorter = .sending message)
      (ranging : s.forwarder = .ranging) :
      StepTo s { s with sorter := .selecting, forwarder := .forwarding message }
  | closeIncoming (selecting : s.sorter = .selecting) (closed : s.ibound = false) :
      StepTo s { s with sorter := .finished }
  | seeIncomingClosed (ranging : s.forwarder = .ranging)
      (finished : s.sorter = .finished) :
      StepTo s { s with forwarder := .closingOutbound }
  | sendOutbound {packet : ControlPacket}
      (forwarding : s.forwarder = .forwarding (.outbound packet)) :
      StepTo s { s with forwarder := .ranging }
  | closeOutbound (closing : s.forwarder = .closingOutbound) :
      StepTo s { s with forwarder := .closingPublish }
  | closePublish (closing : s.forwarder = .closingPublish) :
      StepTo s { s with forwarder := .leaving }
  | leaveForwarder (leaving : s.forwarder = .leaving) :
      StepTo s { s with forwarder := .finished }
  | sendReadError {failure : Error}
      (forwarding : s.forwarder = .forwarding (.err failure)) :
      StepTo s { s with
        forwarder := .ranging
        comms := .losing (.incoming failure) s.comms.holds }
  | forwardWriteError {message : String} {errorForwarder : ErrorForwarder} :
      StepTo s { s with
        errorForwarder
        comms := .losing (.outgoing message) s.comms.holds }
  | lost {error : CommsError} {pub : Option PushPacket} {comms : Comms}
      (losing : s.comms = .losing error pub) (keeps : comms.holds = pub) :
      StepTo s { s with comms }
  | sendPublish {packet : PushPacket}
      (forwarding : s.forwarder = .forwarding (.incomingPub packet))
      (selecting : s.comms = .selecting) (watched : s.commsIncomingPub = true) :
      StepTo s { s with forwarder := .ranging, comms := .sendingPub packet }
  | seePublishClosed (closed : s.forwarder.publishClosed = true)
      (selecting : s.comms = .selecting) :
      StepTo s { s with commsIncomingPub := false, incomingPubChanClosed := true }
  | sendPub {packet : PushPacket} {dispatcher : Dispatcher}
      (sending : s.comms = .sendingPub packet) :
      StepTo s { s with
        comms := .selecting
        dispatcher
        received := s.received ++ [packet] }
  | finishComms (selecting : s.comms = .selecting) :
      StepTo s { s with comms := .finished }
  | aside {storeClosed inboundFromStore outErrorClosed commsErrors : Bool}
      {errorSource : ErrorSource} {errorForwarder : ErrorForwarder}
      {dispatcher : Dispatcher} :
      StepTo s { s with
        storeClosed
        inboundFromStore
        errorSource
        errorForwarder
        outErrorClosed
        commsErrors
        dispatcher }

/-- An error passes by the packet that the comms goroutine holds. -/
theorem receiveError_eq_some {error : CommsError}
    (received : s.receiveError error = some next) :
    next = { s with comms := .losing error s.comms.holds } := by
  unfold receiveError at received
  split at received
  · split at received
    case h_1 position =>
      cases received
      rw [position]
      rfl
    case h_2 packet position =>
      cases received
      rw [position]
      rfl
    case h_3 => cases received
  · cases received

theorem stepTo_of_step (stepped : step s event = some next) : s.StepTo next := by
  cases event with
  | closeStore =>
      obtain ⟨-, ⟨⟩⟩ := Option.ite_none_left_eq_some.mp stepped
      exact .aside
  | sendReadError =>
      simp only [step] at stepped
      split at stepped
      case h_1 failure forwarding =>
        cases receiveError_eq_some stepped
        exact .sendReadError forwarding
      case h_2 => cases stepped
  | forwardWriteError =>
      simp only [step] at stepped
      split at stepped
      case h_1 message forwarding =>
        cases receiveError_eq_some stepped
        exact .forwardWriteError
      case h_2 => cases stepped
  | handleFailure =>
      simp only [step] at stepped
      split at stepped
      case h_1 failure failed =>
        cases stepped
        refine .handleFailure failed ?_
        split
        · exact .inl rfl
        · exact .inr rfl
      case h_2 => cases stepped
  | lost =>
      simp only [step] at stepped
      split at stepped
      case h_1 error losing =>
        cases stepped
        exact .lost losing rfl
      case h_2 error packet losing =>
        cases stepped
        exact .lost losing rfl
      case h_3 => cases stepped
  | seePublishClosed =>
      simp only [step] at stepped
      split at stepped
      case h_1 leaving selecting _ =>
        cases stepped
        exact .seePublishClosed (by rw [leaving]; rfl) selecting
      case h_2 finished selecting _ =>
        cases stepped
        exact .seePublishClosed (by rw [finished]; rfl) selecting
      case h_3 => cases stepped
  | _ =>
      -- One constructor for each remaining branch, with the guards of the branch.
      simp only [step] at stepped
      split at stepped
      all_goals cases stepped
      all_goals first
        | exact .decode ‹_› ‹_›
        | exact .failRead ‹_›
        | exact .sendPacket ‹_› ‹_›
        | exact .sendFailure ‹_› ‹_›
        | exact .closeInbound ‹_›
        | exact .seeInboundClosed ‹_›
        | exact .sort ‹_›
        | exact .disconnected ‹_›
        | exact .sendIncoming ‹_› ‹_›
        | exact .closeIncoming ‹_› ‹_›
        | exact .seeIncomingClosed ‹_› ‹_›
        | exact .sendOutbound ‹_›
        | exact .closeOutbound ‹_›
        | exact .closePublish ‹_›
        | exact .leaveForwarder ‹_›
        | exact .sendPublish ‹_› ‹_› ‹_›
        | exact .sendPub ‹_›
        | exact .finishComms ‹_›
        | exact .aside

end Transitions

/-- The channels are closed one behind the other. -/
structure ClosesInOrder (s : IncomingPipeline) : Prop where
  reader : s.ibound = false → s.reader = .finished
  sorter : s.sorter = .finished → s.ibound = false
  forwarder : s.forwarder.hasRanged = true → s.sorter = .finished
  comms : s.commsIncomingPub = false →
    s.comms.holds = none ∧ s.forwarder.publishClosed = true
  incomingPubChan : s.incomingPubChanClosed = !s.commsIncomingPub

theorem initial_closesInOrder (stream : Bytes) :
    (initial stream).ClosesInOrder := by
  constructor <;> simp [initial, Forwarder.hasRanged]

section Updates

variable (inOrder : s.ClosesInOrder)

include inOrder

/-- The reader goes on. -/
theorem ClosesInOrder.setReader (notFinished : s.reader ≠ .finished)
    (reader : Reader) : { s with reader }.ClosesInOrder :=
  { inOrder with reader := fun closed => absurd (inOrder.reader closed) notFinished }

/-- The sorter goes on. -/
theorem ClosesInOrder.setSorter (notFinished : s.sorter ≠ .finished)
    {sorter : Sorter} (goesOn : sorter ≠ .finished) :
    { s with sorter }.ClosesInOrder :=
  { inOrder with
    sorter := fun finished => absurd finished goesOn
    forwarder := fun hasRanged => absurd (inOrder.forwarder hasRanged) notFinished }

/-- The forwarder goes on. -/
theorem ClosesInOrder.setForwarder (notClosed : s.forwarder.publishClosed = false)
    {forwarder : Forwarder}
    (hasRanged : forwarder.hasRanged = true → s.sorter = .finished) :
    { s with forwarder }.ClosesInOrder :=
  { inOrder with
    forwarder := hasRanged
    comms := fun closed => by
      cases notClosed.symm.trans (inOrder.comms closed).2 }

/-- The comms goroutine goes on. -/
theorem ClosesInOrder.setComms {comms : Comms}
    (holds : s.commsIncomingPub = false → comms.holds = none) :
    { s with comms }.ClosesInOrder :=
  { inOrder with
    comms := fun closed => ⟨holds closed, (inOrder.comms closed).2⟩ }

end Updates

theorem ClosesInOrder.stepTo (inOrder : s.ClosesInOrder) (stepTo : s.StepTo next) :
    next.ClosesInOrder := by
  cases stepTo with
  | decode reading => exact { inOrder.setReader (by simp [reading]) _ with }
  | failRead reading => exact inOrder.setReader (by simp [reading]) _
  | handleFailure failed => exact { inOrder.setReader (by simp [failed]) _ with }
  | sendPacket sending selecting =>
      have goesOn := inOrder.setReader (by simp [sending]) .reading
      exact goesOn.setSorter (by simp [selecting]) nofun
  | sendFailure sending selecting =>
      have goesOn := inOrder.setReader (by simp [sending]) .closing
      exact goesOn.setSorter (by simp [selecting]) nofun
  | closeInbound closing => exact inOrder.setReader (by simp [closing]) _
  | seeInboundClosed finished =>
      exact { inOrder with reader := fun _ => finished, sorter := fun _ => rfl }
  | @sort packet sorting =>
      apply inOrder.setSorter
      · simp [sorting]
      · cases packet <;> nofun
  | disconnected disconnecting =>
      exact inOrder.setSorter (by simp [disconnecting]) nofun
  | sendIncoming sending ranging =>
      have goesOn : { s with sorter := .selecting }.ClosesInOrder :=
        inOrder.setSorter (by simp [sending]) nofun
      exact goesOn.setForwarder (by simp [ranging, Forwarder.publishClosed]) nofun
  | closeIncoming selecting closed =>
      exact { inOrder with sorter := fun _ => closed, forwarder := fun _ => rfl }
  | seeIncomingClosed ranging finished =>
      apply inOrder.setForwarder
      · simp [ranging, Forwarder.publishClosed]
      · exact fun _ => finished
  | sendOutbound forwarding =>
      exact inOrder.setForwarder (by simp [forwarding, Forwarder.publishClosed]) nofun
  | closeOutbound closing | closePublish closing =>
      apply inOrder.setForwarder
      · simp [closing, Forwarder.publishClosed]
      · exact fun _ => inOrder.forwarder (by simp [closing, Forwarder.hasRanged])
  | leaveForwarder leaving =>
      exact { inOrder with
        forwarder := fun _ =>
          inOrder.forwarder (by simp [leaving, Forwarder.hasRanged])
        comms := fun closed => ⟨(inOrder.comms closed).1, rfl⟩ }
  | sendReadError forwarding =>
      have goesOn : { s with forwarder := .ranging }.ClosesInOrder :=
        inOrder.setForwarder (by simp [forwarding, Forwarder.publishClosed]) nofun
      exact goesOn.setComms fun closed => (inOrder.comms closed).1
  | forwardWriteError =>
      have same := inOrder.setComms fun closed => (inOrder.comms closed).1
      exact { same with }
  | lost losing keeps =>
      apply inOrder.setComms
      intro closed
      have holds := (inOrder.comms closed).1
      rw [losing] at holds
      exact keeps.trans holds
  | sendPublish forwarding selecting watched =>
      have goesOn : { s with forwarder := .ranging }.ClosesInOrder :=
        inOrder.setForwarder (by simp [forwarding, Forwarder.publishClosed]) nofun
      apply goesOn.setComms
      intro closed
      cases watched.symm.trans closed
  | seePublishClosed closed selecting =>
      have holds : s.comms.holds = none := by
        rw [selecting]
        rfl
      exact { inOrder with comms := fun _ => ⟨holds, closed⟩, incomingPubChan := rfl }
  | sendPub sending =>
      have goesOn : { s with comms := .selecting }.ClosesInOrder :=
        inOrder.setComms fun _ => rfl
      exact { goesOn with }
  | finishComms selecting => exact inOrder.setComms fun _ => rfl
  | aside => exact { inOrder with }

theorem ClosesInOrder.step (inOrder : s.ClosesInOrder)
    (stepped : step s event = some next) : next.ClosesInOrder :=
  inOrder.stepTo (stepTo_of_step stepped)

end IncomingPipeline

end Client

end RmttGo
