import RmttGo.ChunkingIndependence
import RmttGo.FifoChannel
import RmttGo.IncomingShutdown

/-!
# Incoming messages arrive in order and none is lost

The chain of goroutines between `ReadPacket` and `dispatch` is one lossless
channel for the PUSH packets of a connection: a packet enters it as it is
decoded, is handed from one goroutine to the next, and errors and the end of the
error channel pass by the packet that the comms goroutine holds.
-/

namespace RmttGo

namespace Client

open Codec

def pushes (packets : List ControlPacket) : List PushPacket :=
  packets.filterMap asPush

theorem pushes_append (packets : List ControlPacket) (packet : ControlPacket) :
    pushes (packets ++ [packet]) = pushes packets ++ (asPush packet).toList := by
  unfold pushes
  rw [List.filterMap_append]
  cases isPush : asPush packet <;> simp [isPush]

namespace IncomingPipeline

variable {s next : IncomingPipeline} {event : PipelineEvent}

/-- From the oldest to the youngest. -/
def inTransit (s : IncomingPipeline) : List PushPacket :=
  s.comms.holds.toList ++ s.forwarder.holds.toList ++ s.sorter.holds.toList ++
    s.reader.holds.toList

/-- The channel that the goroutines amount to. -/
def channel (s : IncomingPipeline) : FifoChannel PushPacket where
  sent := pushes s.decoded
  queue := s.inTransit
  received := s.received
  closed := decide (s.reader = .finished)
  ended := s.incomingPubChanClosed

section Refinement

/-- What a step does, the channel can do as well. -/
def Moves (s next : IncomingPipeline) : Prop :=
  ∃ moves, EventRun.run FifoChannel.step s.channel moves = some next.channel

theorem moves_of_eq (same : next.channel = s.channel) : s.Moves next :=
  ⟨[], congrArg some same.symm⟩

theorem moves_of_channel_step {move : FifoChannel.Event PushPacket}
    (stepped : FifoChannel.step s.channel move = some next.channel) :
    s.Moves next := by
  refine ⟨[move], EventRun.run_cons_eq_some.mpr ?_⟩
  exact ⟨next.channel, stepped, rfl⟩

/-- A PUSH packet enters the chain as it is decoded. -/
theorem moves_of_decoded {packet : ControlPacket} {unread : Buffer}
    (reading : s.reader = .reading) :
    s.Moves { s with
      unread
      decoded := s.decoded ++ [packet]
      reader := .sending (.cp packet) } := by
  cases isPush : asPush packet with
  | none =>
      apply moves_of_eq
      simp [channel, inTransit, reading, Reader.holds, pushes_append, isPush]
  | some push =>
      refine @moves_of_channel_step _ _ (.send push) ?_
      simp [FifoChannel.step, channel, inTransit, reading, Reader.holds,
        pushes_append, isPush]

/-- Behind the closing of `outPublish` there is nothing left to deliver. -/
theorem ClosesInOrder.nothing_inTransit (inOrder : s.ClosesInOrder)
    (closed : s.forwarder.publishClosed = true) (holds : s.comms.holds = none) :
    s.reader = .finished ∧ s.inTransit = [] := by
  have hasRanged := Forwarder.hasRanged_of_publishClosed closed
  have sorter := inOrder.forwarder hasRanged
  have reader := inOrder.reader (inOrder.sorter sorter)
  refine ⟨reader, ?_⟩
  simp [inTransit, holds, Forwarder.holds_of_hasRanged hasRanged, sorter, reader,
    Sorter.holds, Reader.holds]

theorem ClosesInOrder.moves_of_publishClosed (inOrder : s.ClosesInOrder)
    (closed : s.forwarder.publishClosed = true) (selecting : s.comms = .selecting) :
    s.Moves { s with commsIncomingPub := false, incomingPubChanClosed := true } := by
  have holds : s.comms.holds = none := by
    rw [selecting]
    rfl
  obtain ⟨finished, empty⟩ := inOrder.nothing_inTransit closed holds
  refine @moves_of_channel_step _ _ .finish ?_
  exact FifoChannel.step_finish (decide_eq_true finished) empty

/-- Every step of the goroutines is one of the channel, or none. -/
theorem ClosesInOrder.moves (inOrder : s.ClosesInOrder) (stepTo : s.StepTo next) :
    s.Moves next := by
  cases stepTo with
  | decode reading => exact moves_of_decoded reading
  | failRead reading =>
      apply moves_of_eq
      simp [channel, inTransit, reading, Reader.holds]
  | handleFailure failed goesOn =>
      apply moves_of_eq
      rcases goesOn with rfl | rfl
      all_goals simp [channel, inTransit, failed, Reader.holds]
  | sendPacket sending selecting =>
      apply moves_of_eq
      simp [channel, inTransit, sending, selecting, Reader.holds, Sorter.holds]
  | sendFailure sending selecting =>
      apply moves_of_eq
      simp [channel, inTransit, sending, selecting, Reader.holds, Sorter.holds,
        IncomingComms.holds]
  | closeInbound closing =>
      refine @moves_of_channel_step _ _ .close ?_
      simp [FifoChannel.step, channel, inTransit, closing, Reader.holds]
  | sort sorting =>
      apply moves_of_eq
      simp only [channel, inTransit, sorting, sort_holds]
      rfl
  | disconnected disconnecting =>
      apply moves_of_eq
      simp [channel, inTransit, disconnecting, Sorter.holds]
  | sendIncoming sending ranging =>
      apply moves_of_eq
      simp [channel, inTransit, sending, ranging, Sorter.holds, Forwarder.holds]
  | closeIncoming selecting =>
      apply moves_of_eq
      simp [channel, inTransit, selecting, Sorter.holds]
  | seeIncomingClosed ranging =>
      apply moves_of_eq
      simp [channel, inTransit, ranging, Forwarder.holds]
  | sendOutbound forwarding =>
      apply moves_of_eq
      simp [channel, inTransit, forwarding, Forwarder.holds, IncomingComms.holds]
  | closeOutbound position | closePublish position | leaveForwarder position =>
      apply moves_of_eq
      simp [channel, inTransit, position, Forwarder.holds]
  | sendReadError forwarding =>
      apply moves_of_eq
      simp [channel, inTransit, forwarding, Forwarder.holds, IncomingComms.holds,
        Comms.holds]
  | @lost error pub comms losing keeps =>
      have held : s.comms.holds = comms.holds := by
        rw [losing, keeps]
        rfl
      apply moves_of_eq
      simp only [channel, inTransit, held]
  | sendPublish forwarding selecting =>
      apply moves_of_eq
      simp [channel, inTransit, forwarding, selecting, Forwarder.holds,
        IncomingComms.holds, Comms.holds]
  | seePublishClosed closed selecting =>
      exact inOrder.moves_of_publishClosed closed selecting
  | sendPub sending =>
      refine @moves_of_channel_step _ _ .receive ?_
      simp [FifoChannel.step, channel, inTransit, sending, Comms.holds]
  | finishComms selecting =>
      apply moves_of_eq
      simp [channel, inTransit, selecting, Comms.holds]
  | seeInboundClosed | forwardWriteError | aside => exact moves_of_eq rfl

def Refines (s : IncomingPipeline) (channel : FifoChannel PushPacket) : Prop :=
  s.channel = channel ∧ s.ClosesInOrder

theorem initial_refines (stream : Bytes) :
    (initial stream).Refines FifoChannel.empty :=
  ⟨rfl, initial_closesInOrder stream⟩

theorem channel_sound {stream : Bytes} {events : List PipelineEvent}
    (executed : EventRun.run step (initial stream) events = some s) :
    s.channel.Sound := by
  have simulated : ∀ {state next : IncomingPipeline} {event : PipelineEvent}
      {channel : FifoChannel PushPacket}, state.Refines channel →
      step state event = some next →
        ∃ moves channelNext, EventRun.run FifoChannel.step channel moves =
          some channelNext ∧ next.Refines channelNext := by
    intro state next event channel refines stepped
    obtain ⟨rfl, inOrder⟩ := refines
    obtain ⟨moves, ran⟩ := inOrder.moves (stepTo_of_step stepped)
    exact ⟨moves, next.channel, ran, rfl, inOrder.step stepped⟩
  obtain ⟨moves, channel, ran, same, _⟩ :=
    EventRun.simulation Refines simulated (initial_refines stream) executed
  rw [same]
  exact FifoChannel.sound_of_run ran

end Refinement

section Decoding

/-- Only `ReadPacket` uses the connection up. -/
theorem StepTo.decoded (stepTo : s.StepTo next) :
    (next.unread = s.unread ∧ next.decoded = s.decoded) ∨
      ∃ packet, readPacket s.unread = .ok (packet, next.unread) ∧
        next.decoded = s.decoded ++ [packet] := by
  cases stepTo with
  | decode _ isRead => exact .inr ⟨_, isRead, rfl⟩
  | _ => exact .inl ⟨rfl, rfl⟩

theorem decoded_isPrefix {stream : Bytes} {packets : List ControlPacket}
    {failure : Error} {events : List PipelineEvent}
    (drains : DrainsTo readPacket (⟨stream⟩ : Buffer) packets failure)
    (executed : EventRun.run step (initial stream) events = some s) :
    s.decoded <+: packets := by
  let Reads (s : IncomingPipeline) : Prop :=
    ∃ rest, s.decoded ++ rest = packets ∧ DrainsTo readPacket s.unread rest failure
  have preserved {s next : IncomingPipeline} {event : PipelineEvent}
      (reads : Reads s) (stepped : step s event = some next) : Reads next := by
    obtain ⟨rest, whole, drainsRest⟩ := reads
    obtain ⟨unread, decoded⟩ | ⟨packet, isRead, decoded⟩ :=
      (stepTo_of_step stepped).decoded
    · exact ⟨rest, by rw [decoded, whole], by rwa [unread]⟩
    · cases drainsRest with
      | stop failed => cases failed.symm.trans isRead
      | @step _ later value values _ readAlso drainsLater =>
          cases readAlso.symm.trans isRead
          exact ⟨values, by rw [decoded, ← whole, List.append_assoc]; rfl, drainsLater⟩
  obtain ⟨rest, whole, _⟩ :=
    EventRun.invariant Reads preserved ⟨packets, rfl, drains⟩ executed
  exact ⟨rest, whole⟩

end Decoding

/-- Whatever bytes the connection delivers and however the goroutines and the
write errors interleave, `dispatch` has got the first of the PUSH packets that
`ReadPacket` has returned, each once and in order.  Once `incomingPubChan` is
closed the reader has stopped and `dispatch` has got all of them. -/
theorem dispatch_receives_in_order {stream : Bytes} {events : List PipelineEvent}
    (executed : EventRun.run step (initial stream) events = some s) :
    (∃ rest failure,
        DrainsTo readPacket (⟨stream⟩ : Buffer) (s.decoded ++ rest) failure) ∧
      s.received <+: pushes s.decoded ∧
        (s.incomingPubChanClosed = true →
          s.reader = .finished ∧ s.received = pushes s.decoded) := by
  have sound := channel_sound executed
  refine ⟨?_, sound.isPrefix, fun closed => ⟨?_, sound.received_eq closed⟩⟩
  · obtain ⟨packets, failure, drains⟩ := exists_drainsTo
      (fun buffer : Buffer => buffer.unread.length) length_lt_of_readPacket ⟨stream⟩
    obtain ⟨rest, whole⟩ := decoded_isPrefix drains executed
    exact ⟨rest, failure, whole ▸ drains⟩
  · exact of_decide_eq_true (sound.ended closed).1

/-- Two messages, of which the first is being handed over while a write error is
reported, and then the end of the connection. -/
def interruptedDelivery : List PipelineEvent :=
  [.read, .sendInbound, .sort, .sendIncoming, .read, .sendPublish,
    .writeFails "broken pipe", .sendWriteError, .sendInbound, .sort,
    .forwardWriteError, .lost, .sendIncoming, .sendPub, .handle, .sendPublish,
    .sendPub, .read, .handleFailure, .sendInbound, .closeInbound, .sendIncoming,
    .sendReadError, .lost, .seeInboundClosed, .closeStore, .seeStoreClosed,
    .closeIncoming, .seeIncomingClosed, .closeOutbound, .closePublish,
    .seePublishClosed]

theorem dispatch_receives_in_order_write_error :
    ∃ s, EventRun.run step (initial [0x30, 3, 0, 104, 105, 0x30, 2, 0, 33])
          interruptedDelivery = some s ∧
        s.incomingPubChanClosed = true ∧
          s.received.map PushPacket.payload = [[104, 105], [33]] ∧
            s.received = pushes s.decoded := by
  have outcome : (EventRun.run step
      (initial [0x30, 3, 0, 104, 105, 0x30, 2, 0, 33])
      interruptedDelivery).map (fun s =>
        (s.incomingPubChanClosed, s.received.map PushPacket.payload)) =
      some (true, [[104, 105], [33]]) := by
    decide +kernel
  obtain ⟨s, executed, facts⟩ := Option.map_eq_some_iff.mp outcome
  obtain ⟨closed, received⟩ := Prod.mk.inj facts
  have delivered := (dispatch_receives_in_order executed).2.2 closed
  exact ⟨s, executed, closed, received, delivered.2⟩

end IncomingPipeline

end Client

end RmttGo
