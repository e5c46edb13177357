import RmttGo.PushLanes

/-!
# The order of pushed messages

The redirector and the outgoing goroutine of a connection hold at most one
message each and pass them on in the order in which `Push` handed them over.
A call hands its message over once, so no message is written twice, neither on
one connection nor on the next one.
-/

namespace RmttGo

namespace Client

open Codec

section Order

/-- The message the redirector has in hand. -/
def Redirector.message : Redirector → Option Outbound
  | .forwarding message => some message
  | _ => none

/-- The message the outgoing goroutine has yet to write. -/
def Outgoing.unwritten : Outgoing → Option Outbound
  | .received message => some message
  | .writing message => some message
  | _ => none

namespace Lane

/-- That of what has been pushed on the connection of which something is on the
wire, in its order. -/
def written (lane : Lane) : List (Nat × Bytes) :=
  (lane.wire.writes.map Delivery.message).filterMap Outbound.pushed

/-- What has been pushed on the connection, written or not yet. -/
def way (lane : Lane) : List (Nat × Bytes) :=
  lane.written ++ (lane.outgoing.unwritten.bind Outbound.pushed).toList ++
    (lane.redirector.message.bind Outbound.pushed).toList

theorem written_sublist_way (lane : Lane) : lane.written.Sublist lane.way := by
  unfold way
  rw [List.append_assoc]
  exact List.sublist_append_left _ _

end Lane

/-- A write puts at most its message behind the others. -/
theorem write_pushed_sublist (wire : Wire) (now : Nat)
    (outcome : TransportOutcome) (message : Outbound) :
    (((wire.write now outcome message).2.writes.map Delivery.message).filterMap
      Outbound.pushed).Sublist
        ((wire.writes.map Delivery.message).filterMap Outbound.pushed ++
          message.pushed.toList) := by
  rw [NetConn.write_writes, List.map_append, List.filterMap_append]
  apply List.Sublist.append_left
  cases accepted : wire.accept now outcome message with
  | none => exact List.nil_sublist _
  | some delivery =>
      have same := NetConn.accept_message accepted
      cases pushed : message.pushed <;> simp [same, pushed]

/-- The lane keeps its order: a step puts what it is handed at the end, and
loses something at most. -/
theorem LaneStep.way_sublist {starts : Prop} {lane after : Lane}
    {handed settled : Option (Nat × Bytes)}
    (laneStep : LaneStep starts lane handed settled after) :
    after.way.Sublist (lane.way ++ handed.toList) := by
  cases laneStep with
  | aside writes => simp [Lane.way, Lane.written, writes]
  | start => simp [Lane.way, Lane.written, Outgoing.unwritten, Redirector.message]
  | take content waiting =>
      simp [Lane.way, Lane.written, waiting, Redirector.message, Outbound.pushed]
  | takeDisconnect waiting =>
      simp [Lane.way, Lane.written, waiting, Redirector.message, Outbound.pushed]
  | forward forwarding waiting =>
      simp [Lane.way, Lane.written, forwarding, waiting, Redirector.message,
        Outgoing.unwritten]
  | prepare received writes =>
      simp [Lane.way, Lane.written, received, writes, Outgoing.unwritten]
  | @write message now outcome writing =>
      have sublist := (write_pushed_sublist lane.wire now outcome message).append_right
        (lane.redirector.message.bind Outbound.pushed).toList
      simpa [Lane.way, Lane.written, writing, Outgoing.unwritten] using sublist
  | settle settling writes =>
      simp [Lane.way, Lane.written, settling, writes, Outgoing.unwritten]
  | stopRedirector waiting =>
      simp [Lane.way, Lane.written, waiting, Redirector.message]
  | stopOutgoing waiting =>
      simp [Lane.way, Lane.written, waiting, Outgoing.unwritten]
  | @writeOther packet now outcome notPush =>
      have sublist := write_pushed_sublist lane.wire now outcome (.control packet)
      simpa [Lane.way, Lane.written, Outbound.pushed] using sublist

/-- The calls that handed their message over to the connection. -/
def handedTo (conn : Nat) (events : List PushEvent) : List Nat :=
  events.filterMap (PushEvent.handsTo conn)

theorem handedTo_concat (conn : Nat) (events : List PushEvent) (event : PushEvent) :
    handedTo conn (events ++ [event]) =
      handedTo conn events ++ (event.handsTo conn).toList := by
  rw [handedTo, List.filterMap_append]
  cases hands : event.handsTo conn <;> simp [handedTo, hands]

namespace PushSystem

variable {options : PushOptions} {s next : PushSystem} {event : PushEvent}
  {events : List PushEvent}

/-- What the calls that handed over before have become, and the order in which
their messages are on their connections. -/
structure InOrder (events : List PushEvent) (s : PushSystem) : Prop where
  offers : s.Offers
  order : ∀ conn, ((s.lane conn).way.map Prod.fst).Sublist (handedTo conn events)
  given : ∀ conn, ∀ pushed ∈ (s.lane conn).way, s.Handed pushed.1 pushed.2
  returned : ∀ {call conn : Nat}, call ∈ handedTo conn events →
    ∃ payload, s.calls call = .returned payload
  once : ∀ conn, (handedTo conn events).Nodup
  apart : ∀ {call conn other : Nat}, call ∈ handedTo conn events →
    call ∈ handedTo other events → conn = other

theorem initial_inOrder : InOrder [] initial where
  offers := by simp [Offers, initial]
  order := fun _ => List.Sublist.slnil
  given := by
    intro conn pushed isOnWay
    cases isOnWay
  returned := by simp [handedTo]
  once := fun _ => List.nodup_nil
  apart := by simp [handedTo]

/-- A call hands over before it returns, and returns by that. -/
theorem calls_of_handsTo {conn call : Nat}
    (stepped : s.step options event = some next)
    (hands : event.handsTo conn = some call) :
    (∀ payload, s.calls call ≠ .returned payload) ∧
      ∃ payload, next.calls call = .returned payload := by
  cases event with
  | handOver pusher taker =>
      obtain ⟨rfl, ⟨⟩⟩ := Option.ite_none_right_eq_some.mp hands
      simp only [step] at stepped
      split at stepped
      case h_1 payload content offering waiting =>
        cases stepped
        exact ⟨by simp [offering], payload, Function.update_self ..⟩
      case h_2 => cases stepped
  | _ => cases hands

theorem InOrder.step (inOrder : InOrder events s)
    (stepped : s.step options event = some next) :
    InOrder (events ++ [event]) next := by
  -- The calls that handed over are those of before, and maybe a new one.
  have cases_of_mem {call conn : Nat}
      (isHanded : call ∈ handedTo conn (events ++ [event])) :
      call ∈ handedTo conn events ∨ event.handsTo conn = some call := by
    rw [handedTo_concat, List.mem_append, Option.mem_toList] at isHanded
    exact isHanded
  have isNew {call conn other : Nat} (hands : event.handsTo conn = some call) :
      call ∉ handedTo other events := by
    intro before
    obtain ⟨payload, returned⟩ := inOrder.returned before
    exact (calls_of_handsTo stepped hands).1 payload returned
  constructor
  · exact inOrder.offers.step stepped
  · intro conn
    obtain ⟨handed, settled, moves⟩ := exists_moves inOrder.offers stepped conn
    have grows := moves.laneStep.way_sublist.map Prod.fst
    rw [List.map_append, ← Option.toList_map, moves.handsTo] at grows
    rw [handedTo_concat]
    exact grows.trans ((inOrder.order conn).append_right _)
  · intro conn pushed isOnWay
    obtain ⟨handed, settled, moves⟩ := exists_moves inOrder.offers stepped conn
    have before := moves.laneStep.way_sublist.subset isOnWay
    rcases List.mem_append.mp before with before | isHanded
    · exact (inOrder.given conn pushed before).step stepped
    · exact moves.handed pushed (Option.mem_toList.mp isHanded)
  · intro call conn isHanded
    rcases cases_of_mem isHanded with before | hands
    · obtain ⟨payload, returned⟩ := inOrder.returned before
      exact ⟨payload, returned_of_step returned stepped⟩
    · exact (calls_of_handsTo stepped hands).2
  · intro conn
    rw [handedTo_concat]
    cases hands : event.handsTo conn with
    | none => simpa using inOrder.once conn
    | some call =>
        have apart : ∀ earlier ∈ handedTo conn events, earlier ≠ call := by
          rintro earlier before rfl
          exact isNew hands before
        simpa [List.nodup_append, inOrder.once conn] using apart
  · intro call conn other isHanded otherHanded
    rcases cases_of_mem isHanded with before | hands
    · rcases cases_of_mem otherHanded with otherBefore | otherHands
      · exact inOrder.apart before otherBefore
      · exact absurd before (isNew otherHands)
    · rcases cases_of_mem otherHanded with otherBefore | otherHands
      · exact absurd otherBefore (isNew hands)
      · cases event with
        | handOver pusher taker =>
            exact (Option.ite_none_right_eq_some.mp hands).1.symm.trans
              (Option.ite_none_right_eq_some.mp otherHands).1
        | _ => cases hands

theorem inOrder_of_run (executed : EventRun.run (step options) initial events = some s) :
    InOrder events s :=
  EventRun.invariant_of_history InOrder (fun inOrder stepped => inOrder.step stepped)
    initial_inOrder executed

/-- What a connection has of the pushes is in the order in which the calls
handed over, as they were given; and of no call is anything written twice, on
the same connection or on another one. -/
theorem pushes_written_in_order_once
    (executed : EventRun.run (step options) initial events = some s) (conn : Nat) :
    ((s.lane conn).written.map Prod.fst).Sublist (handedTo conn events) ∧
      ((s.lane conn).written.map Prod.fst).Nodup ∧
      (∀ pushed ∈ (s.lane conn).written, s.Handed pushed.1 pushed.2) ∧
      ∀ other, other ≠ conn → List.Disjoint ((s.lane conn).written.map Prod.fst)
        ((s.lane other).written.map Prod.fst) := by
  have inOrder := inOrder_of_run executed
  have handed (conn : Nat) :
      ((s.lane conn).written.map Prod.fst).Sublist (handedTo conn events) :=
    ((s.lane conn).written_sublist_way.map Prod.fst).trans (inOrder.order conn)
  refine ⟨handed conn, (handed conn).nodup (inOrder.once conn), ?_, ?_⟩
  · intro pushed isWritten
    exact inOrder.given conn pushed
      ((s.lane conn).written_sublist_way.subset isWritten)
  · intro other different call isWritten isWrittenThere
    exact different (inOrder.apart ((handed other).subset isWrittenThere)
      ((handed conn).subset isWritten))

/-- Call 4 hands over before call 0. -/
def twoPushes : List PushEvent :=
  [.client (.connect 0), .client (.attemptSucceeded 0 (some 1)),
    .client (.startWorkers 0 9), .client (.connectionUp 0),
    .client (.startComms 0 2 3), .push 0 (.string [104]), .push 4 (.bytes []),
    .lookAgain 0, .lookAgain 4, .handOver 4 1, .forward 1, .handOver 0 1,
    .setDeadline 1 0, .write 1 0 .whole, .settle 1, .forward 1,
    .setDeadline 1 0, .write 1 0 .whole]

theorem pushes_written_in_order_once_two_pushes :
    ∃ s, EventRun.run (step ⟨⟨true, false, false, true⟩, 0⟩) initial twoPushes =
        some s ∧
      (s.lane 1).written = [(4, []), (0, [104])] ∧
      ((s.lane 1).written.map Prod.fst).Nodup := by
  have outcome : (EventRun.run (step ⟨⟨true, false, false, true⟩, 0⟩) initial
      twoPushes).map (fun s => (s.lane 1).written) =
        some [(4, []), (0, [104])] := by
    decide +kernel
  obtain ⟨s, executed, written⟩ := Option.map_eq_some_iff.mp outcome
  exact ⟨s, executed, written, (pushes_written_in_order_once executed 1).2.1⟩

end PushSystem

end Order

end Client

end RmttGo
