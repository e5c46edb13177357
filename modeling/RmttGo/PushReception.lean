import RmttGo.FramedStreams
import RmttGo.PushOrder
import RmttGo.ReceivedPushes

/-!
# From `Push` of the client to the `MessageHandler` of the server

The bytes that a connection of the client has put on its wire come in at a
connection of the server, as far as the network has got.  As long as no byte
follows a torn frame, what the `MessageHandler` is given was pushed, in the
order of the pushes, and no push reaches it twice.
-/

namespace RmttGo

open Codec

namespace Client

section Proper

/-- Only the messages of `Push` are PUSH packets. -/
def Outbound.Proper : Outbound → Prop
  | .push _ _ => True
  | .control packet => packet.messageType ≠ MessageType.push

/-- The packet that is written for the message. -/
def Outbound.packet : Outbound → ControlPacket
  | .push _ payload => pushPacket payload
  | .control packet => packet

theorem Outbound.frame_eq (message : Outbound) : message.frame = message.packet.frame := by
  cases message <;> rfl

theorem Outbound.Proper.pushPayload_eq {message : Outbound} (proper : message.Proper) :
    Server.pushPayload message.packet.write.2 = message.pushed.map Prod.snd := by
  cases message with
  | push call payload => rfl
  | control packet =>
      cases packet with
      | push packet => exact absurd rfl proper
      | _ => rfl

structure Lane.Proper (lane : Lane) : Prop where
  written : ∀ delivery ∈ lane.wire.writes, delivery.message.Proper
  outgoing : ∀ message ∈ lane.outgoing.message, message.Proper
  redirector : ∀ message ∈ lane.redirector.message, message.Proper

theorem proper_of_write {wire : Wire} {now : Nat} {outcome : TransportOutcome}
    {message : Outbound} (proper : ∀ delivery ∈ wire.writes, delivery.message.Proper)
    (isProper : message.Proper) :
    ∀ delivery ∈ (wire.write now outcome message).2.writes, delivery.message.Proper := by
  intro delivery isWritten
  rw [NetConn.write_writes, List.mem_append, Option.mem_toList] at isWritten
  rcases isWritten with before | accepted
  · exact proper delivery before
  · rwa [NetConn.accept_message accepted]

theorem LaneStep.proper {starts : Prop} {lane after : Lane}
    {handed settled : Option (Nat × Bytes)}
    (laneStep : LaneStep starts lane handed settled after) (proper : lane.Proper) :
    after.Proper := by
  have hand {message : Outbound} (held : lane.outgoing.message = some message) :
      message.Proper := proper.outgoing message held
  cases laneStep with
  | aside writes => exact { proper with written := writes ▸ proper.written }
  | start isStarted =>
      exact { proper with
        outgoing := by simp [Outgoing.message]
        redirector := by simp [Redirector.message] }
  | take content waiting =>
      exact { proper with
        redirector := by
          rintro _ ⟨⟩
          trivial }
  | takeDisconnect waiting =>
      exact { proper with
        redirector := by
          rintro _ ⟨⟩
          exact (by decide : MessageType.disconnect ≠ MessageType.push) }
  | forward forwarding waiting =>
      exact { proper with
        outgoing := by
          rintro _ ⟨⟩
          exact proper.redirector _ (by rw [forwarding]; rfl)
        redirector := by simp [Redirector.message] }
  | prepare received writes =>
      exact { proper with
        written := writes ▸ proper.written
        outgoing := by
          rintro _ ⟨⟩
          exact hand (by rw [received]; rfl) }
  | write now outcome writing =>
      exact { proper with
        written := proper_of_write proper.written (hand (by rw [writing]; rfl))
        outgoing := by
          rintro _ ⟨⟩
          exact hand (by rw [writing]; rfl) }
  | settle settling writes =>
      exact { proper with
        written := writes ▸ proper.written
        outgoing := by simp [Outgoing.message] }
  | stopRedirector waiting =>
      exact { proper with redirector := by simp [Redirector.message] }
  | stopOutgoing waiting =>
      exact { proper with outgoing := by simp [Outgoing.message] }
  | @writeOther packet now outcome notPush =>
      exact { proper with written := proper_of_write proper.written notPush }

theorem PushSystem.proper_of_run {options : PushOptions} {events : List PushEvent}
    {s : PushSystem}
    (executed : EventRun.run (PushSystem.step options) .initial events = some s)
    (conn : Nat) : (s.lane conn).Proper := by
  refine (EventRun.invariant (fun s => s.Offers ∧ (s.lane conn).Proper) ?_ ?_
    executed).2
  · rintro s next event ⟨offers, proper⟩ stepped
    obtain ⟨handed, settled, moves⟩ := PushSystem.exists_moves offers stepped conn
    exact ⟨offers.step stepped, moves.laneStep.proper proper⟩
  · refine ⟨by simp [PushSystem.Offers, PushSystem.initial], ?_, ?_, ?_⟩
    · rintro _ ⟨⟩
    · rintro _ ⟨⟩
    · rintro _ ⟨⟩

end Proper

section Wires

/-- The packets on a wire that is framed and carries no packet that is too long
for its length field. -/
structure Lane.Readable (lane : Lane) : Prop where
  framed : Framed lane.wire.writes
  representable : ∀ delivery ∈ lane.wire.writes, delivery.message.packet.Representable

def Lane.bytes (lane : Lane) : Bytes :=
  lane.wire.writes.flatMap Delivery.bytes

/-- What the wire has in full. -/
def Lane.complete (lane : Lane) : List (Nat × Bytes) :=
  (completeMessages lane.wire.writes).filterMap Outbound.pushed

theorem Lane.complete_sublist_written (lane : Lane) :
    lane.complete.Sublist lane.written := by
  unfold complete written completeMessages
  exact (List.filter_sublist.map _).filterMap _

theorem Lane.Readable.readsTo_prefix {lane : Lane} (readable : lane.Readable)
    {stream : Bytes} {read : List ControlPacket} {unread : Buffer}
    (reads : ReadsTo readPacket ⟨stream⟩ read unread)
    (received : stream <+: lane.bytes) :
    read <+: (completeMessages lane.wire.writes).map fun message =>
      message.packet.write.2 :=
  readsTo_prefix_of_framed Outbound.frame_eq readable.framed readable.representable
    reads received

theorem Lane.Proper.payloads_eq {lane : Lane} (proper : lane.Proper) :
    (((completeMessages lane.wire.writes).map fun message =>
      message.packet.write.2).filterMap Server.pushPayload) =
        lane.complete.map Prod.snd := by
  rw [List.filterMap_map, Lane.complete, List.map_filterMap]
  apply List.filterMap_congr
  intro message isComplete
  obtain ⟨delivery, isWritten, rfl⟩ := List.mem_map.mp isComplete
  exact (proper.written delivery (List.mem_filter.mp isWritten).1).pushPayload_eq

end Wires

end Client

section Reception

open Client Server

variable {pushOptions : PushOptions} {serverOptions : ServerOptions}
  {clientEvents : List PushEvent} {serverEvents : List ServerEvent}
  {s : PushSystem} {t : ServerSystem}

theorem heardOf_sublist (serverOptions : ServerOptions) (read : List ControlPacket) :
    (heardOf serverOptions read.tail).Sublist (read.filterMap pushPayload) := by
  unfold heardOf
  split
  · exact (List.tail_sublist read).filterMap _
  · exact List.nil_sublist _

/-- What has been heard on a connection has been written in full at the other
end, in this order. -/
theorem exists_pushed_of_heard
    (clientRun : EventRun.run (PushSystem.step pushOptions) .initial clientEvents = some s)
    (serverRun : EventRun.run (ServerSystem.step serverOptions) .initial serverEvents =
      some t)
    {accepted conn : Nat} {stream : Bytes} (readable : (s.lane conn).Readable)
    (isAccepted : .accept accepted stream ∈ serverEvents)
    (received : stream <+: (s.lane conn).bytes) :
    ∃ pushed : List (Nat × Bytes), pushed.Sublist (s.lane conn).written ∧
      t.heard accepted = pushed.map Prod.snd := by
  obtain ⟨-, read, reading⟩ := (ServerSystem.hears_of_run serverRun).accepted isAccepted
  have isPrefix := readable.readsTo_prefix reading.reads received
  have payloads := isPrefix.sublist.filterMap pushPayload
  rw [(PushSystem.proper_of_run clientRun conn).payloads_eq] at payloads
  have sublist := (heardOf_sublist serverOptions read).trans payloads
  rw [← reading.heard] at sublist
  obtain ⟨pushed, isPushed, same⟩ := List.sublist_map_iff.mp sublist
  exact ⟨pushed, isPushed.trans (s.lane conn).complete_sublist_written, same⟩

/-- What the `MessageHandler` is started with on the connections of a client was
pushed there, in the order of the pushes, and no push reaches it twice. -/
theorem pushes_reach_handler_in_order
    (clientRun : EventRun.run (PushSystem.step pushOptions) .initial clientEvents = some s)
    (serverRun : EventRun.run (ServerSystem.step serverOptions) .initial serverEvents =
      some t)
    {ours : Set Nat} {wireOf : Nat → Nat} (apart : Set.InjOn wireOf ours)
    (readable : ∀ accepted ∈ ours, (s.lane (wireOf accepted)).Readable)
    (linked : ∀ accepted ∈ ours, ∃ stream, .accept accepted stream ∈ serverEvents ∧
      stream <+: (s.lane (wireOf accepted)).bytes) :
    ∃ pushed : Nat → List (Nat × Bytes),
      (∀ accepted ∈ ours, t.heard accepted = (pushed accepted).map Prod.snd ∧
        ((pushed accepted).map Prod.fst).Sublist
          (handedTo (wireOf accepted) clientEvents) ∧
        ∀ push ∈ pushed accepted, s.Handed push.1 push.2) ∧
      ∀ accepted ∈ ours, ((pushed accepted).map Prod.fst).Nodup ∧
        ∀ other ∈ ours, other ≠ accepted →
          List.Disjoint ((pushed accepted).map Prod.fst)
            ((pushed other).map Prod.fst) := by
  have inOrder := PushSystem.inOrder_of_run clientRun
  have exists_pushed (accepted : Nat) (isOurs : accepted ∈ ours) :
      ∃ pushed : List (Nat × Bytes),
        pushed.Sublist (s.lane (wireOf accepted)).way ∧
          t.heard accepted = pushed.map Prod.snd := by
    obtain ⟨stream, isAccepted, received⟩ := linked accepted isOurs
    obtain ⟨pushed, sublist, same⟩ := exists_pushed_of_heard clientRun serverRun
      (readable accepted isOurs) isAccepted received
    exact ⟨pushed, sublist.trans (Lane.written_sublist_way _), same⟩
  choose! pushed onWay heard using exists_pushed
  have handed (accepted : Nat) (isOurs : accepted ∈ ours) :
      ((pushed accepted).map Prod.fst).Sublist
        (handedTo (wireOf accepted) clientEvents) :=
    ((onWay accepted isOurs).map Prod.fst).trans (inOrder.order _)
  refine ⟨pushed, fun accepted isOurs => ⟨heard accepted isOurs,
    handed accepted isOurs, ?_⟩, fun accepted isOurs => ⟨?_, ?_⟩⟩
  · intro push isPushed
    exact inOrder.given _ push ((onWay accepted isOurs).subset isPushed)
  · exact (handed accepted isOurs).nodup (inOrder.once _)
  · intro other otherOurs different call isPushed isPushedThere
    refine different (apart otherOurs isOurs (inOrder.apart
      ((handed other otherOurs).subset isPushedThere)
      ((handed accepted isOurs).subset isPushed)))

/-- A CONNECT of the device `d`, and then the two pushes of `twoPushes`. -/
def connectAndPush : List PushEvent :=
  .writeOther 1 (.connect ⟨.ofType MessageType.connect, 0x637a7175, 1, 0, 30, [100]⟩)
    0 .whole :: PushSystem.twoPushes

/-- The wire of `connectAndPush`, which the last byte has not yet left. -/
def lastByteMissing : Bytes :=
  [0x10, 0x0b, 0x63, 0x7a, 0x71, 0x75, 1, 0, 0, 30, 0, 1, 100, 0x30, 1, 0, 0x30, 2, 0]

theorem pushes_reach_handler_in_order_last_byte_missing :
    ∃ s t, EventRun.run (PushSystem.step ⟨⟨true, false, false, true⟩, 0⟩) .initial
        connectAndPush = some s ∧
      EventRun.run (ServerSystem.step { newServerOptions with handlesMessages := true })
        .initial [.accept 0 lastByteMissing, .enter 0, .track 0, .read 0,
          .greet 0 0 .whole, .register 0, .establish 0, .read 0, .read 0] = some t ∧
      t.heard 0 = [[]] ∧
      ∃ pushed : Nat → List (Nat × Bytes),
        t.heard 0 = (pushed 0).map Prod.snd ∧
          ((pushed 0).map Prod.fst).Sublist (handedTo 1 connectAndPush) := by
  have client : (EventRun.run (PushSystem.step ⟨⟨true, false, false, true⟩, 0⟩) .initial
      connectAndPush).map (fun s => ((s.lane 1).bytes,
        decide (Framed (s.wires 1).writes),
        decide (∀ delivery ∈ (s.wires 1).writes,
          delivery.message.packet.Representable))) =
      some (lastByteMissing ++ [104], true, true) := by
    decide +kernel
  have server : (EventRun.run (ServerSystem.step
      { newServerOptions with handlesMessages := true }) .initial
        [.accept 0 lastByteMissing, .enter 0, .track 0, .read 0,
          .greet 0 0 .whole, .register 0, .establish 0, .read 0, .read 0]).map
      (fun t => t.heard 0) = some [[]] := by
    decide +kernel
  obtain ⟨s, clientRun, facts⟩ := Option.map_eq_some_iff.mp client
  obtain ⟨t, serverRun, heard⟩ := Option.map_eq_some_iff.mp server
  simp only [Prod.mk.injEq, decide_eq_true_eq] at facts
  obtain ⟨bytes, framed, representable⟩ := facts
  have apart : Set.InjOn (fun _ => 1) ({0} : Set Nat) := Set.injOn_singleton _ _
  have received : lastByteMissing <+: (s.lane 1).bytes := ⟨[104], bytes.symm⟩
  obtain ⟨pushed, given, -⟩ := pushes_reach_handler_in_order clientRun serverRun apart
    (fun _ _ => ⟨framed, representable⟩) (by
      rintro accepted rfl
      exact ⟨lastByteMissing, List.mem_cons_self, received⟩)
  exact ⟨s, t, clientRun, serverRun, heard, pushed, (given 0 rfl).1, (given 0 rfl).2.1⟩

end Reception

end RmttGo
