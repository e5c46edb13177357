import RmttGo.EventRuns
import RmttGo.PushPipeline

/-!
# A push reported as successful was sent

A packet on its way through the pipeline belongs to a call of `Push` that has
returned, and its token is completed without an error only behind a write that
took the whole frame.  The one other place that completes a token is the
branch of `Push` for a client that is reconnecting, which sends nothing.
-/

namespace RmttGo

namespace Client

open Codec

def Outgoing.message : Outgoing → Option Outbound
  | .received message => some message
  | .writing message => some message
  | .settling message _ => some message
  | _ => none

namespace PushSystem

/-- The whole frame of the message is on some connection. -/
def Written (s : PushSystem) (message : Outbound) : Prop :=
  ∃ conn, ∃ delivery ∈ (s.wires conn).writes,
    delivery.message = message ∧ delivery.Complete

/-- The message is in the pipeline of a connection, or something of it has
been written. -/
def Carries (s : PushSystem) (message : Outbound) : Prop :=
  (∃ conn, s.redirectors conn = .forwarding message) ∨
    (∃ conn, (s.outgoing conn).message = some message) ∨
    ∃ conn, ∃ delivery ∈ (s.wires conn).writes, delivery.message = message

/-- The call has returned, and `content` is the payload it was given. -/
def Handed (s : PushSystem) (call : Nat) (content : Bytes) : Prop :=
  ∃ payload, s.calls call = .returned payload ∧ payload.content = some content

/-- Every token completed without an error belongs to a call whose frame has
been written in full. -/
def PushesDelivered (s : PushSystem) : Prop :=
  ∀ call, (s.tokens call).Successful →
    ∃ content, s.Handed call content ∧ s.Written (.push call content)

structure Tracked (s : PushSystem) : Prop where
  offered : ∀ {call : Nat} {payload : PushPayload} {content : Bytes},
    s.calls call = .offering payload content → payload.content = some content
  carried : ∀ {call : Nat} {content : Bytes},
    s.Carries (.push call content) → s.Handed call content
  settled : ∀ {conn call : Nat} {content : Bytes},
    s.outgoing conn = .settling (.push call content) true →
      s.Written (.push call content)
  pending : ∀ {call : Nat}, (∀ payload, s.calls call ≠ .returned payload) →
    s.tokens call = .fresh
  delivered : s.PushesDelivered

variable {s : PushSystem} {call conn : Nat}

theorem Written.carries {message : Outbound} (written : s.Written message) :
    s.Carries message := by
  obtain ⟨conn, delivery, member, same, _⟩ := written
  exact .inr (.inr ⟨conn, delivery, member, same⟩)

section Frames

theorem Written.setWire {message : Outbound} {wire : Wire}
    (written : s.Written message) (kept : (s.wires conn).writes ⊆ wire.writes) :
    (s.setWire conn wire).Written message := by
  obtain ⟨other, delivery, member, delivers⟩ := written
  refine ⟨other, delivery, ?_, delivers⟩
  by_cases same : other = conn
  · subst same
    simpa [PushSystem.setWire] using kept member
  · simpa [PushSystem.setWire, same] using member

theorem carries_setWire {message : Outbound} {wire : Wire}
    (carries : (s.setWire conn wire).Carries message) :
    s.Carries message ∨ ∃ delivery ∈ wire.writes, delivery.message = message := by
  rcases carries with forwarding | held | ⟨other, delivery, member, carried⟩
  · exact .inl (.inl forwarding)
  · exact .inl (.inr (.inl held))
  · by_cases same : other = conn
    · subst same
      right
      exact ⟨delivery, by simpa [PushSystem.setWire] using member, carried⟩
    · left
      exact .inr (.inr ⟨other, delivery,
        by simpa [PushSystem.setWire, same] using member, carried⟩)

theorem carries_setRedirector {message : Outbound} {position : Redirector}
    (carries : (s.setRedirector conn position).Carries message) :
    s.Carries message ∨ position = .forwarding message := by
  rcases carries with ⟨other, forwarding⟩ | held | written
  · by_cases same : other = conn
    · right
      simpa [setRedirector, same] using forwarding
    · left
      exact .inl ⟨other, by simpa [setRedirector, same] using forwarding⟩
  · exact .inl (.inr (.inl held))
  · exact .inl (.inr (.inr written))

theorem carries_setOutgoing {message : Outbound} {position : Outgoing}
    (carries : (s.setOutgoing conn position).Carries message) :
    s.Carries message ∨ position.message = some message := by
  rcases carries with forwarding | ⟨other, held⟩ | written
  · exact .inl (.inl forwarding)
  · by_cases same : other = conn
    · right
      simpa [setOutgoing, same] using held
    · left
      exact .inr (.inl ⟨other, by simpa [setOutgoing, same] using held⟩)
  · exact .inl (.inr (.inr written))

theorem prepareOutbound_outgoing (options : PushOptions) (now : Nat)
    (message : Outbound) :
    (s.prepareOutbound options conn now message).outgoing = s.outgoing := by
  unfold prepareOutbound
  split
  · split <;> rfl
  · rfl

end Frames

theorem initial_tracked : initial.Tracked where
  offered := nofun
  carried := by
    rintro call content (⟨_, ⟨⟩⟩ | ⟨_, ⟨⟩⟩ | ⟨_, _, ⟨⟩, _⟩)
  settled := nofun
  pending := fun _ => rfl
  delivered := by
    rintro call ⟨⟨⟩, _⟩

namespace Tracked

theorem setRedirector (tracked : s.Tracked) {position : Redirector}
    (handed : ∀ call content, position = .forwarding (.push call content) →
      s.Handed call content) :
    (s.setRedirector conn position).Tracked where
  offered := tracked.offered
  carried := by
    intro call content carries
    rcases carries_setRedirector carries with before | forwarding
    · exact tracked.carried before
    · exact handed call content forwarding
  settled := tracked.settled
  pending := tracked.pending
  delivered := tracked.delivered

theorem setOutgoing (tracked : s.Tracked) {position : Outgoing}
    (handed : ∀ call content,
      position.message = some (.push call content) → s.Handed call content)
    (written : ∀ call content, position = .settling (.push call content) true →
      s.Written (.push call content)) :
    (s.setOutgoing conn position).Tracked where
  offered := tracked.offered
  carried := by
    intro call content carries
    rcases carries_setOutgoing carries with before | held
    · exact tracked.carried before
    · exact handed call content held
  settled := by
    intro other call content settling
    by_cases same : other = conn
    · apply written call content
      simpa [PushSystem.setOutgoing, same] using settling
    · apply @tracked.settled other call content
      simpa [PushSystem.setOutgoing, same] using settling
  pending := tracked.pending
  delivered := tracked.delivered

theorem setWire (tracked : s.Tracked) {wire : Wire}
    (kept : (s.wires conn).writes ⊆ wire.writes)
    (handed : ∀ call content, ∀ delivery ∈ wire.writes,
      delivery.message = .push call content → s.Handed call content) :
    (s.setWire conn wire).Tracked where
  offered := tracked.offered
  carried := by
    intro call content carries
    rcases carries_setWire carries with before | ⟨delivery, member, carried⟩
    · exact tracked.carried before
    · exact handed call content delivery member carried
  settled := fun settling => (tracked.settled settling).setWire kept
  pending := tracked.pending
  delivered := by
    intro call successful
    obtain ⟨content, handedOver, written⟩ := tracked.delivered call successful
    exact ⟨content, handedOver, written.setWire kept⟩

/-- Deadlines and closing leave what was written alone. -/
theorem setWire_of_writes (tracked : s.Tracked) {wire : Wire}
    (same : wire.writes = (s.wires conn).writes) :
    (s.setWire conn wire).Tracked := by
  apply tracked.setWire
  · rw [same]
    exact List.Subset.refl _
  · intro call content delivery member carried
    rw [same] at member
    exact tracked.carried (.inr (.inr ⟨conn, delivery, member, carried⟩))

theorem write (tracked : s.Tracked) (now : Nat) (outcome : TransportOutcome)
    {message : Outbound}
    (handed : ∀ call content, message = .push call content →
      s.Handed call content) :
    (s.setWire conn ((s.wires conn).write now outcome message).2).Tracked := by
  apply tracked.setWire
  · rw [NetConn.write_writes]
    exact List.subset_append_left _ _
  · intro call content delivery member carried
    rw [NetConn.write_writes, List.mem_append] at member
    rcases member with before | added
    · exact tracked.carried (.inr (.inr ⟨conn, delivery, before, carried⟩))
    · apply handed call content
      rw [← carried]
      exact (NetConn.accept_message (Option.mem_toList.mp added)).symm

theorem setCall (tracked : s.Tracked) {position : PushCall}
    (notReturned : ∀ payload, s.calls call ≠ .returned payload)
    (offers : ∀ payload content, position = .offering payload content →
      payload.content = some content) :
    (s.setCall call position).Tracked := by
  have kept : ∀ {other content}, s.Handed other content →
      (s.setCall call position).Handed other content := by
    rintro other content ⟨payload, returned, sameContent⟩
    have distinct : other ≠ call := by
      rintro rfl
      exact notReturned payload returned
    exact ⟨payload, by simpa [PushSystem.setCall, distinct] using returned,
      sameContent⟩
  refine ⟨?_, fun carries => kept (tracked.carried carries), tracked.settled, ?_,
    ?_⟩
  · intro other payload content offering
    by_cases same : other = call
    · apply offers payload content
      simpa [PushSystem.setCall, same] using offering
    · apply @tracked.offered other
      simpa [PushSystem.setCall, same] using offering
  · intro other pending
    by_cases same : other = call
    · subst same
      exact tracked.pending notReturned
    · apply tracked.pending
      intro payload
      simpa [PushSystem.setCall, same] using pending payload
  · intro other successful
    obtain ⟨content, handed, written⟩ := tracked.delivered other successful
    exact ⟨content, kept handed, written⟩

theorem setToken (tracked : s.Tracked) {token : Token} {payload : PushPayload}
    (returned : s.calls call = .returned payload)
    (sent : token.Successful →
      ∃ content, s.Handed call content ∧ s.Written (.push call content)) :
    (s.setToken call token).Tracked where
  offered := tracked.offered
  carried := tracked.carried
  settled := tracked.settled
  pending := by
    intro other pending
    have distinct : other ≠ call := by
      rintro rfl
      exact pending payload returned
    simpa [PushSystem.setToken, distinct] using tracked.pending pending
  delivered := by
    intro other successful
    by_cases same : other = call
    · subst same
      apply sent
      simpa [PushSystem.setToken] using successful
    · apply tracked.delivered other
      simpa [PushSystem.setToken, same] using successful

theorem setError (tracked : s.Tracked) {payload : PushPayload}
    (returned : s.calls call = .returned payload) (error : PushError) :
    (s.setToken call ((s.tokens call).setError error)).Tracked := by
  apply tracked.setToken returned
  rintro ⟨_, ⟨⟩⟩

theorem failCall (tracked : s.Tracked) {payload : PushPayload}
    (notReturned : ∀ payload, s.calls call ≠ .returned payload)
    (error : PushError) : (s.failCall call payload error).Tracked := by
  have returned : (s.setCall call (.returned payload)).Tracked :=
    tracked.setCall notReturned nofun
  apply returned.setError
  exact Function.update_self ..

theorem startPipeline (tracked : s.Tracked) (started : Option Nat) :
    (s.startPipeline started).Tracked := by
  cases started with
  | none => exact tracked
  | some conn =>
      have waiting : (s.setRedirector conn .waiting).Tracked :=
        tracked.setRedirector nofun
      exact waiting.setOutgoing nofun nofun

theorem closeWire (tracked : s.Tracked) (closed : Option Nat) :
    (s.closeWire closed).Tracked := by
  cases closed with
  | none => exact tracked
  | some conn => exact tracked.setWire_of_writes rfl

theorem prepareOutbound (tracked : s.Tracked) (options : PushOptions) (now : Nat)
    (message : Outbound) :
    (s.prepareOutbound options conn now message).Tracked := by
  unfold PushSystem.prepareOutbound
  split
  · split
    · exact tracked.setWire_of_writes rfl
    · exact tracked
  · exact tracked

/-- The redirector takes the packet, and the call returns. -/
theorem handOver (tracked : s.Tracked) {payload : PushPayload} {content : Bytes}
    (offering : s.calls call = .offering payload content) :
    ((s.setRedirector conn (.forwarding (.push call content))).setCall call
      (.returned payload)).Tracked := by
  have returned : (s.setCall call (.returned payload)).Tracked := by
    apply tracked.setCall
    · simp [offering]
    · nofun
  apply returned.setRedirector
  rintro _ _ ⟨⟩
  exact ⟨payload, Function.update_self .., tracked.offered offering⟩

theorem forward (tracked : s.Tracked) {message : Outbound}
    (forwarding : s.redirectors conn = .forwarding message) :
    ((s.setRedirector conn .waiting).setOutgoing conn
      (.received message)).Tracked := by
  have waits : (s.setRedirector conn .waiting).Tracked :=
    tracked.setRedirector nofun
  apply waits.setOutgoing
  · rintro call content ⟨⟩
    exact tracked.carried (.inl ⟨conn, forwarding⟩)
  · nofun

theorem setDeadline (tracked : s.Tracked) (options : PushOptions) (now : Nat)
    {message : Outbound} (received : s.outgoing conn = .received message) :
    ((s.prepareOutbound options conn now message).setOutgoing conn
      (.writing message)).Tracked := by
  have prepared := @Tracked.prepareOutbound s conn tracked options now message
  apply prepared.setOutgoing
  · rintro call content ⟨⟩
    apply prepared.carried
    refine .inr (.inl ⟨conn, ?_⟩)
    rw [prepareOutbound_outgoing, received]
    rfl
  · nofun

theorem writeOutbound (tracked : s.Tracked) {message : Outbound}
    (writing : s.outgoing conn = .writing message) (now : Nat)
    (outcome : TransportOutcome) :
    (s.writeOutbound conn now outcome message).Tracked := by
  have handed : ∀ call content, message = .push call content →
      s.Handed call content := by
    rintro call content rfl
    apply tracked.carried
    exact .inr (.inl ⟨conn, by rw [writing]; rfl⟩)
  apply (tracked.write now outcome handed).setOutgoing
  · intro call content held
    exact handed call content (Option.some.inj held)
  · intro call content settling
    obtain ⟨rfl, succeeded⟩ := Outgoing.settling.inj settling
    obtain ⟨delivery, member, delivers⟩ :=
      NetConn.exists_complete_of_write succeeded
    exact ⟨conn, delivery, by simpa [PushSystem.setWire] using member, delivers⟩

theorem settleOutbound (tracked : s.Tracked) (options : PushOptions)
    {message : Outbound} {written : Bool}
    (settling : s.outgoing conn = .settling message written) :
    (s.settleOutbound options conn message written).Tracked := by
  cases message with
  | control packet =>
      cases written with
      | false => exact tracked
      | true => exact tracked.closeWire (some conn)
  | push call content =>
      have handed : s.Handed call content := by
        apply tracked.carried
        exact .inr (.inl ⟨conn, by rw [settling]; rfl⟩)
      obtain ⟨payload, returned, _⟩ := id handed
      cases written with
      | false => exact tracked.setError returned .writeFailed
      | true =>
          have sent := tracked.settled settling
          simp only [PushSystem.settleOutbound]
          split
          · have cleared : (s.setWire conn
                (s.wires conn).clearWriteDeadline).Tracked :=
              tracked.setWire_of_writes rfl
            apply cleared.setToken returned
            intro _
            exact ⟨content, handed, sent.setWire (List.Subset.refl _)⟩
          · apply tracked.setToken returned
            intro _
            exact ⟨content, handed, sent⟩

end Tracked

/-- A look at the status that `Push` takes in front of the `select` does not
find the client reconnecting. -/
def SeesNoReconnect (s : PushSystem) : PushEvent → Prop
  | .lookAgain _ => s.client.status.shared.status ≠ .reconnecting
  | _ => True

instance (event : PushEvent) : Decidable (s.SeesNoReconnect event) := by
  cases event <;> unfold SeesNoReconnect <;> infer_instance

section Steps

variable {options : PushOptions} {next : PushSystem} {event : PushEvent}

theorem Tracked.lookAgain (tracked : s.Tracked)
    (connected : s.client.status.shared.status ≠ .reconnecting)
    (stepped : s.step options (.lookAgain call) = some next) : next.Tracked := by
  simp only [PushSystem.step] at stepped
  split at stepped
  case h_1 payload admitted =>
    have notReturned : ∀ payload, s.calls call ≠ .returned payload := by
      simp [admitted]
    rw [if_neg connected] at stepped
    split at stepped
    · rename_i content sameContent
      cases stepped
      apply tracked.setCall notReturned
      rintro payload content ⟨⟩
      exact sameContent
    · cases stepped
      exact tracked.failCall notReturned .unknownPayloadType
  case h_2 => cases stepped

theorem Tracked.step (tracked : s.Tracked) (meets : s.SeesNoReconnect event)
    (stepped : s.step options event = some next) : next.Tracked := by
  cases event with
  | lookAgain call => exact tracked.lookAgain meets stepped
  | client event =>
      obtain ⟨client, _, rfl⟩ := Option.map_eq_some_iff.mp stepped
      have moved : Tracked { s with client } :=
        ⟨tracked.offered, tracked.carried, tracked.settled, tracked.pending,
          tracked.delivered⟩
      exact (moved.startPipeline _).closeWire _
  | push call payload =>
      obtain ⟨idle, stepped⟩ := Option.ite_none_right_eq_some.mp stepped
      have notReturned : ∀ payload, s.calls call ≠ .returned payload := by
        simp [idle]
      split at stepped
      · cases stepped
        exact tracked.setCall notReturned nofun
      · cases stepped
        exact tracked.failCall notReturned .notConnected
  | timeOut call =>
      simp only [PushSystem.step] at stepped
      split at stepped
      case h_1 payload content offering =>
        cases stepped
        apply tracked.failCall
        simp [offering]
      case h_2 => cases stepped
  | handOver call conn =>
      simp only [PushSystem.step] at stepped
      split at stepped
      case h_1 payload content offering waiting =>
        cases stepped
        exact tracked.handOver offering
      case h_2 => cases stepped
  | handOverDisconnect goroutine conn =>
      obtain ⟨_, ⟨⟩⟩ := Option.ite_none_right_eq_some.mp stepped
      exact tracked.setRedirector nofun
  | forward conn =>
      simp only [PushSystem.step] at stepped
      split at stepped
      case h_1 message forwarding waiting =>
        cases stepped
        exact tracked.forward forwarding
      case h_2 => cases stepped
  | setDeadline conn now =>
      simp only [PushSystem.step] at stepped
      split at stepped
      case h_1 message received =>
        cases stepped
        exact tracked.setDeadline options now received
      case h_2 => cases stepped
  | write conn now outcome =>
      simp only [PushSystem.step] at stepped
      split at stepped
      case h_1 message writing =>
        cases stepped
        exact tracked.writeOutbound writing now outcome
      case h_2 => cases stepped
  | settle conn =>
      simp only [PushSystem.step] at stepped
      split at stepped
      case h_1 message written settling =>
        cases stepped
        exact (tracked.settleOutbound options settling).setOutgoing nofun nofun
      case h_2 => cases stepped
  | stopRedirector conn =>
      obtain ⟨_, ⟨⟩⟩ := Option.ite_none_right_eq_some.mp stepped
      exact tracked.setRedirector nofun
  | stopOutgoing conn =>
      obtain ⟨_, ⟨⟩⟩ := Option.ite_none_right_eq_some.mp stepped
      exact tracked.setOutgoing nofun nofun
  | writeOther conn packet now outcome =>
      obtain ⟨_, ⟨⟩⟩ := Option.ite_none_right_eq_some.mp stepped
      exact tracked.write now outcome nofun

/-- The branch of `Push` for a reconnecting client completes the token of a
packet that nobody was given. -/
theorem Tracked.not_delivered (tracked : s.Tracked)
    (violated : ¬ s.SeesNoReconnect event)
    (stepped : s.step options event = some next) : ¬ next.PushesDelivered := by
  cases event with
  | lookAgain call =>
      have reconnecting : s.client.status.shared.status = .reconnecting :=
        not_not.mp violated
      simp only [PushSystem.step] at stepped
      split at stepped
      case h_1 payload admitted =>
        rw [if_pos reconnecting] at stepped
        cases stepped
        have notReturned : ∀ payload, s.calls call ≠ .returned payload := by
          simp [admitted]
        intro delivered
        obtain ⟨content, _, written⟩ := delivered call (by
          simp [PushSystem.setToken, PushSystem.setCall,
            tracked.pending notReturned, Token.fresh, Token.flowComplete,
            Token.Successful])
        have before : s.Written (.push call content) := written
        obtain ⟨_, returned, _⟩ := tracked.carried before.carries
        exact notReturned _ returned
      case h_2 => cases stepped
  | _ => exact absurd trivial violated

end Steps

theorem successful_pushes_written_iff (options : PushOptions)
    (events : List PushEvent) :
    EventRun.Always (step options) PushesDelivered initial events ↔
      EventRun.Meets (step options) SeesNoReconnect initial events := by
  apply EventRun.always_iff_meets Tracked
  · intro s tracked
    exact tracked.delivered
  · intro s next event tracked meets stepped
    exact tracked.step meets stepped
  · intro s next event tracked violated stepped
    exact tracked.not_delivered violated stepped
  · exact initial_tracked

/-- A client with automatic reconnecting loses its connection; a push made
before the connection is back is reported as sent. -/
theorem push_while_reconnecting_not_sent :
    ∃ s, EventRun.run (step ⟨⟨true, false, false, true⟩, 0⟩) initial
        [.client (.connect 0), .client (.attemptSucceeded 0 (some 1)),
          .client (.startWorkers 0 9), .client (.connectionUp 0),
          .client (.startComms 0 2 4), .client (.reportLoss 2),
          .client (.connectionLost 2), .client (.stopCommsWorkers 2 3),
          .client (.workerDone 2), .client (.workerDone 4),
          .client (.workersStopped 3), .client (.disDone 3), .push 0 (.string [104, 105]), .lookAgain 0] =
        some s ∧
      (s.tokens 0).Successful ∧ ∀ conn, (s.wires conn).writes = [] := by
  refine ⟨_, rfl, ⟨rfl, rfl⟩, ?_⟩
  -- Only connection 1 was ever touched, and it was closed unused.
  rintro (_ | _ | conn)
  · rfl
  · rfl
  · rfl

end PushSystem

end Client

end RmttGo
