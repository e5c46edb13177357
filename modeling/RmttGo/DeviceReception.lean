import RmttGo.FramedStreams
import RmttGo.IncomingDelivery
import RmttGo.PushAttribution

/-!
# From `Push` of the server to `dispatch` of the client

What `dispatch` gets on a connection is what was pushed to the device of the
connection, call by call and without a gap.
-/

namespace RmttGo

namespace Client

open Codec

/-- `ReadPacket` has returned an error. -/
def Reader.stopped : Reader → Bool
  | .reading | .sending (.cp _) => false
  | .failed _ | .sending (.err _) | .closing | .finished => true

namespace IncomingPipeline

variable {s next : IncomingPipeline} {event : PipelineEvent}

theorem readsTo_of_run {stream : Bytes} {events : List PipelineEvent}
    (executed : EventRun.run step (initial stream) events = some s) :
    ReadsTo readPacket (⟨stream⟩ : Buffer) s.decoded s.unread := by
  let Reads (s : IncomingPipeline) : Prop :=
    ReadsTo readPacket (⟨stream⟩ : Buffer) s.decoded s.unread
  have preserved {s next : IncomingPipeline} {event : PipelineEvent}
      (reads : Reads s) (stepped : step s event = some next) : Reads next := by
    obtain ⟨unread, decoded⟩ | ⟨packet, isRead, decoded⟩ :=
      (stepTo_of_step stepped).decoded
    · change ReadsTo readPacket _ next.decoded next.unread
      rw [unread, decoded]
      exact reads
    · change ReadsTo readPacket _ next.decoded next.unread
      rw [decoded]
      exact reads.concat isRead
  exact EventRun.invariant Reads preserved .done executed

/-- The reader has stopped because the bytes give no further packet. -/
def Exhausted (s : IncomingPipeline) : Prop :=
  s.reader.stopped = true → ∃ failure, readPacket s.unread = .error failure

theorem Exhausted.congr (exhausted : s.Exhausted) (unread : next.unread = s.unread)
    (reader : next.reader.stopped = true → s.reader.stopped = true) :
    next.Exhausted := by
  intro stopped
  rw [unread]
  exact exhausted (reader stopped)

theorem Exhausted.step (exhausted : s.Exhausted)
    (stays : ∀ message, event ≠ .readFails message)
    (stepped : step s event = some next) : next.Exhausted := by
  cases event with
  | readFails message => exact absurd rfl (stays message)
  | read =>
      simp only [IncomingPipeline.step] at stepped
      split at stepped
      case h_1 =>
        cases stepped
        intro stopped
        cases stopped
      case h_2 failure _ failed =>
        cases stepped
        exact fun _ => ⟨failure, failed⟩
      case h_3 => cases stepped
  | handleFailure =>
      simp only [IncomingPipeline.step] at stepped
      split at stepped
      case h_1 failure failed =>
        cases stepped
        exact exhausted.congr rfl fun _ => by rw [failed]; rfl
      case h_2 => cases stepped
  | sendInbound =>
      simp only [IncomingPipeline.step] at stepped
      split at stepped
      case h_1 =>
        cases stepped
        intro stopped
        cases stopped
      case h_2 sending _ _ =>
        cases stepped
        exact exhausted.congr rfl fun _ => by rw [sending]; rfl
      case h_3 => cases stepped
  | closeInbound =>
      simp only [IncomingPipeline.step] at stepped
      split at stepped
      case h_1 closing =>
        cases stepped
        exact exhausted.congr rfl fun _ => by rw [closing]; rfl
      case h_2 => cases stepped
  | _ =>
      simp only [IncomingPipeline.step, receiveError] at stepped
      repeat' split at stepped
      all_goals
        cases stepped
        try exact exhausted

theorem exhausted_of_run {stream : Bytes} {events : List PipelineEvent}
    (executed : EventRun.run step (initial stream) events = some s)
    (stays : ∀ message, .readFails message ∉ events) : s.Exhausted := by
  let Inv (past : List PipelineEvent) (s : IncomingPipeline) : Prop :=
    (∀ message, .readFails message ∉ past) → s.Exhausted
  have preserved {past : List PipelineEvent} {s next : IncomingPipeline}
      {event : PipelineEvent} (inv : Inv past s) (stepped : step s event = some next) :
      Inv (past ++ [event]) next := by
    intro stays
    have before := inv fun message isPast =>
      stays message (List.mem_append_left _ isPast)
    refine before.step ?_ stepped
    rintro message rfl
    exact stays message (List.mem_append_right _ List.mem_cons_self)
  exact EventRun.invariant_of_history Inv preserved
    (fun _ stopped => by cases stopped) executed stays

end IncomingPipeline

end Client

section Delivery

open Codec Client Server

theorem pushPayload_write (packet : ControlPacket) :
    pushPayload packet.write.2 = pushPayload packet := by
  cases packet <;> rfl

theorem payload_pushes (packets : List ControlPacket) :
    (pushes packets).map PushPacket.payload = packets.filterMap pushPayload := by
  unfold pushes
  rw [List.map_filterMap]
  apply List.filterMap_congr
  intro packet _
  cases packet <;> rfl

theorem payloads_complete (dc : DeviceConnection) :
    ((completeMessages dc.conn.writes).map fun packet => packet.write.2).filterMap
      pushPayload = dc.pushed := by
  rw [List.filterMap_map]
  exact congrArg (List.filterMap · _) (funext pushPayload_write)

variable {options : ServerOptions} {serverEvents : List ServerEvent}
  {t : ServerSystem} {successes : List (Nat × Nat × Bytes)}
  {clientEvents : List PipelineEvent} {u : IncomingPipeline} {conn : Nat}

open ServerSystem in
/-- What `dispatch` has got on a connection are the first of the calls of `Push`
that succeeded there, and all of them once it has got everything that the server
has written.  They were made for the device of the connection, no call is among
them twice or on two connections, and a call that returned before another one
was made is ahead of it. -/
theorem pushes_reach_device_in_order
    (serverRun : EventRun.run (EventRun.recorded (ServerSystem.step options) noteSuccess)
      (.initial, []) serverEvents = some (t, successes))
    (framed : Framed (t.device conn).conn.writes)
    (representable : ∀ delivery ∈ (t.device conn).conn.writes,
      delivery.message.Representable)
    {received stream : Bytes} {ack : ConnackPacket}
    (arrived : received <+: (t.device conn).conn.writes.flatMap Delivery.bytes)
    (accepted : readPacket (⟨received⟩ : Buffer) = .ok (.connack ack, ⟨stream⟩))
    (clientRun : EventRun.run IncomingPipeline.step (.initial stream) clientEvents =
      some u) :
    u.received.map PushPacket.payload <+: (pushedTo conn successes).map Prod.snd ∧
      (received = (t.device conn).conn.writes.flatMap Delivery.bytes →
        u.incomingPubChanClosed = true →
          (∀ message, .readFails message ∉ clientEvents) →
            u.received.map PushPacket.payload =
              (pushedTo conn successes).map Prod.snd) ∧
      (∀ call ∈ pushedTo conn successes,
        .push call.1 (t.device conn).deviceID call.2 ∈ serverEvents) ∧
      ((pushedTo conn successes).map Prod.fst).Nodup ∧
      (∀ other, other ≠ conn → List.Disjoint ((pushedTo conn successes).map Prod.fst)
        ((pushedTo other successes).map Prod.fst)) ∧
      (pushedTo conn successes).Pairwise fun earlier later =>
        ¬ ReturnedBefore serverEvents later.1 earlier.1 := by
  have attributed := attributed_of_run serverRun
  have sound := IncomingPipeline.channel_sound clientRun
  have reads : ReadsTo readPacket (⟨received⟩ : Buffer) (.connack ack :: u.decoded)
      u.unread :=
    .step accepted (IncomingPipeline.readsTo_of_run clientRun)
  have decoded : (.connack ack :: u.decoded).filterMap pushPayload =
      (pushes u.decoded).map PushPacket.payload :=
    (payload_pushes u.decoded).symm
  refine ⟨?_, ?_, ?_, ?_, ?_, ?_⟩
  · have onWire := (readsTo_prefix_of_framed (fun _ => rfl) framed representable reads
      arrived).filterMap pushPayload
    rw [payloads_complete, decoded, attributed.payloads] at onWire
    exact (sound.isPrefix.map PushPacket.payload).trans onWire
  · intro everything closed stays
    have stopped : u.reader = .finished := of_decide_eq_true (sound.ended closed).1
    obtain ⟨failure, stuck⟩ := IncomingPipeline.exhausted_of_run clientRun stays
      (by rw [stopped]; rfl)
    have onWire := congrArg (List.filterMap pushPayload)
      (readsTo_eq_of_framed (fun _ => rfl) framed representable reads stuck everything)
    rw [payloads_complete, decoded, attributed.payloads] at onWire
    have all : u.received = pushes u.decoded := sound.received_eq closed
    rw [all, onWire]
  · rintro ⟨task, payload⟩ isCall
    exact (attributed.addressed _ (mem_pushedTo.mp isCall)).called
  · exact nodup_pushedTo attributed.once
  · intro other different
    exact disjoint_pushedTo attributed.once different
  · refine (pairwise_pushedTo (fun earlier later =>
      StepsSince serverEvents later earlier) attributed.order).imp ?_
    exact StepsSince.not_returnedBefore

/-- The device `d` connects and is pushed two messages. -/
def connectAndReceive : List ServerEvent :=
  [.accept 0 [0x10, 0x0b, 0x63, 0x7a, 0x71, 0x75, 1, 0, 0, 30, 0, 1, 100], .enter 0,
    .track 0, .read 0, .greet 0 0 .whole, .register 0, .establish 0,
    .push 7 [100] [104], .proceed 7 0 .whole, .push 8 [100] [105], .proceed 7 1 .whole,
    .proceed 8 2 .whole, .proceed 8 3 .whole]

/-- Two messages and then the end of the connection. -/
def undisturbedDelivery : List PipelineEvent :=
  [.read, .sendInbound, .sort, .sendIncoming, .sendPublish, .sendPub, .handle, .read,
    .sendInbound, .sort, .sendIncoming, .sendPublish, .sendPub, .handle, .read,
    .handleFailure, .sendInbound, .closeInbound, .sendIncoming, .sendReadError, .lost,
    .seeInboundClosed, .closeStore, .seeStoreClosed, .closeIncoming, .seeIncomingClosed,
    .closeOutbound, .closePublish, .seePublishClosed]

open ServerSystem in
theorem pushes_reach_device_in_order_two_pushes :
    ∃ t successes u,
      EventRun.run (EventRun.recorded (ServerSystem.step newServerOptions) noteSuccess)
        (.initial, []) connectAndReceive = some (t, successes) ∧
      EventRun.run IncomingPipeline.step
        (.initial [0x30, 2, 0, 104, 0x30, 2, 0, 105]) undisturbedDelivery = some u ∧
      pushedTo 0 successes = [(7, [104]), (8, [105])] ∧
      u.received.map PushPacket.payload = (pushedTo 0 successes).map Prod.snd := by
  have server : (EventRun.run (EventRun.recorded (ServerSystem.step newServerOptions)
      noteSuccess) (.initial, []) connectAndReceive).map (fun state =>
        (state.2, (state.1.device 0).conn.writes.flatMap Delivery.bytes,
          decide (Framed (state.1.device 0).conn.writes),
          decide (∀ delivery ∈ (state.1.device 0).conn.writes,
            delivery.message.Representable))) =
      some ([(7, 0, [104]), (8, 0, [105])],
        [0x20, 3, 0, 0, 30, 0x30, 2, 0, 104, 0x30, 2, 0, 105], true, true) := by
    decide +kernel
  have client : (EventRun.run IncomingPipeline.step
      (.initial [0x30, 2, 0, 104, 0x30, 2, 0, 105]) undisturbedDelivery).map
        (fun u => u.incomingPubChanClosed) = some true := by
    decide +kernel
  obtain ⟨⟨t, successes⟩, serverRun, facts⟩ := Option.map_eq_some_iff.mp server
  obtain ⟨u, clientRun, closed⟩ := Option.map_eq_some_iff.mp client
  simp only [Prod.mk.injEq, decide_eq_true_eq] at facts
  obtain ⟨rfl, bytes, framed, representable⟩ := facts
  have accepted : readPacket
      (⟨[0x20, 3, 0, 0, 30, 0x30, 2, 0, 104, 0x30, 2, 0, 105]⟩ : Buffer) =
        .ok (.connack ⟨⟨2, 0, 3⟩, 0, 30⟩, ⟨[0x30, 2, 0, 104, 0x30, 2, 0, 105]⟩) := by
    decide +kernel
  have delivered := pushes_reach_device_in_order serverRun framed representable
    ⟨[], (List.append_nil _).trans bytes.symm⟩ accepted clientRun
  exact ⟨t, _, u, serverRun, clientRun, rfl,
    delivered.2.1 bytes.symm closed (by simp [undisturbedDelivery])⟩

end Delivery

end RmttGo
