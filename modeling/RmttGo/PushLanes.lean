import RmttGo.PushDelivery

/-!
# The pipeline of a connection and the calls of `Push`, step by step

What a step of the client does to the redirector, the outgoing goroutine and
the wire of one connection, and what it does to one call of `Push`.
-/

namespace RmttGo

namespace Client

open Codec

section Lanes

/-- What a connection has of the pipeline. -/
structure Lane where
  wire : Wire
  outgoing : Outgoing
  redirector : Redirector

def PushSystem.lane (s : PushSystem) (conn : Nat) : Lane :=
  ⟨s.wires conn, s.outgoing conn, s.redirectors conn⟩

/-- The call of `Push` and what it pushes. -/
def Outbound.pushed : Outbound → Option (Nat × Bytes)
  | .push call content => some (call, content)
  | .control _ => none

/-- The call that hands its message over to the redirector of the connection. -/
def PushEvent.handsTo (conn : Nat) : PushEvent → Option Nat
  | .handOver call taker => if taker = conn then some call else none
  | _ => none

/-- The connection whose pipeline the step starts. -/
def PushEvent.starts (s : PushSystem) : PushEvent → Option Nat
  | .client event => event.starts s.client
  | _ => none

/-- What a step does to one connection, which it may start.  Before the lane
behind the step stand what a call of `Push` hands over to it and what its
outgoing goroutine is done with. -/
inductive LaneStep (starts : Prop) (lane : Lane) :
    Option (Nat × Bytes) → Option (Nat × Bytes) → Lane → Prop
  | aside {wire : Wire} (writes : wire.writes = lane.wire.writes) :
      LaneStep starts lane none none { lane with wire }
  | start (isStarted : starts) : LaneStep starts lane none none
      { lane with outgoing := .waiting, redirector := .waiting }
  | take {call : Nat} (content : Bytes) (waiting : lane.redirector = .waiting) :
      LaneStep starts lane (some (call, content)) none
        { lane with redirector := .forwarding (.push call content) }
  | takeDisconnect (waiting : lane.redirector = .waiting) :
      LaneStep starts lane none none
        { lane with
          redirector :=
            .forwarding (.control (disconnectPacket Reason.normalDisconnect)) }
  | forward {message : Outbound}
      (forwarding : lane.redirector = .forwarding message)
      (waiting : lane.outgoing = .waiting) :
      LaneStep starts lane none none
        { lane with redirector := .waiting, outgoing := .received message }
  | prepare {message : Outbound} {wire : Wire}
      (received : lane.outgoing = .received message)
      (writes : wire.writes = lane.wire.writes) :
      LaneStep starts lane none none { lane with wire, outgoing := .writing message }
  | write {message : Outbound} (now : Nat) (outcome : TransportOutcome)
      (writing : lane.outgoing = .writing message) :
      LaneStep starts lane none none { lane with
        wire := (lane.wire.write now outcome message).2
        outgoing :=
          .settling message (lane.wire.write now outcome message).1 }
  | settle {message : Outbound} {written : Bool} {wire : Wire}
      (settling : lane.outgoing = .settling message written)
      (writes : wire.writes = lane.wire.writes) :
      LaneStep starts lane none message.pushed { lane with wire, outgoing := .waiting }
  | stopRedirector (waiting : lane.redirector = .waiting) :
      LaneStep starts lane none none { lane with redirector := .finished }
  | stopOutgoing (waiting : lane.outgoing = .waiting) :
      LaneStep starts lane none none { lane with outgoing := .finished }
  | writeOther {packet : ControlPacket} (now : Nat) (outcome : TransportOutcome)
      (notPush : packet.messageType ≠ MessageType.push) :
      LaneStep starts lane none none
        { lane with wire := (lane.wire.write now outcome (.control packet)).2 }

theorem LaneStep.quiet {starts : Prop} (lane : Lane) :
    LaneStep starts lane none none lane :=
  .aside rfl

namespace PushSystem

variable {options : PushOptions} {s next : PushSystem} {event : PushEvent}

section Updates

variable (s : PushSystem) (conn : Nat) {other : Nat}

@[simp]
theorem lane_setCall (call : Nat) (position : PushCall) :
    (s.setCall call position).lane conn = s.lane conn :=
  rfl

@[simp]
theorem lane_setToken (call : Nat) (token : Token) :
    (s.setToken call token).lane conn = s.lane conn :=
  rfl

@[simp]
theorem lane_setWire (wire : Wire) :
    (s.setWire conn wire).lane conn = { s.lane conn with wire } := by
  simp [lane, setWire]

@[simp]
theorem lane_setOutgoing (outgoing : Outgoing) :
    (s.setOutgoing conn outgoing).lane conn = { s.lane conn with outgoing } := by
  simp [lane, setOutgoing]

@[simp]
theorem lane_setRedirector (redirector : Redirector) :
    (s.setRedirector conn redirector).lane conn =
      { s.lane conn with redirector } := by
  simp [lane, setRedirector]

variable (aside : other ≠ conn)

include aside

theorem lane_setWire_of_ne (wire : Wire) :
    (s.setWire conn wire).lane other = s.lane other := by
  simp [lane, setWire, aside]

theorem lane_setOutgoing_of_ne (outgoing : Outgoing) :
    (s.setOutgoing conn outgoing).lane other = s.lane other := by
  simp [lane, setOutgoing, aside]

theorem lane_setRedirector_of_ne (redirector : Redirector) :
    (s.setRedirector conn redirector).lane other = s.lane other := by
  simp [lane, setRedirector, aside]

end Updates

theorem laneStep_closeWire {starts : Prop} (closed : Option Nat) (conn : Nat) :
    LaneStep starts (s.lane conn) none none ((s.closeWire closed).lane conn) := by
  cases closed with
  | none => exact .quiet _
  | some other =>
      by_cases same : conn = other
      · subst same
        rw [closeWire, lane_setWire]
        exact .aside rfl
      · rw [closeWire, lane_setWire_of_ne _ _ same]
        exact .quiet _

theorem laneStep_startPipeline (started : Option Nat) (conn : Nat) :
    LaneStep (started = some conn) (s.lane conn) none none
      ((s.startPipeline started).lane conn) := by
  cases started with
  | none => exact .quiet _
  | some other =>
      by_cases same : conn = other
      · subst same
        rw [startPipeline, lane_setOutgoing, lane_setRedirector]
        exact .start rfl
      · rw [startPipeline, lane_setOutgoing_of_ne _ _ same,
          lane_setRedirector_of_ne _ _ same]
        exact .quiet _

/-- A step of the client starts a pipeline or closes a connection, not both. -/
theorem starts_or_closes (client : ClientSystem) (event : ClientEvent) :
    event.starts client = none ∨ event.closes client = none := by
  cases event <;> simp [ClientEvent.starts, ClientEvent.closes]

theorem laneStep_client {client : ClientSystem} (event : ClientEvent) (conn : Nat) :
    LaneStep (event.starts s.client = some conn) (s.lane conn) none none
      ((({ s with client }.startPipeline (event.starts s.client)).closeWire
        (event.closes s.client)).lane conn) := by
  rcases starts_or_closes s.client event with nothing | nothing
  · rw [nothing]
    exact laneStep_closeWire (s := { s with client }) _ conn
  · rw [nothing]
    exact laneStep_startPipeline (s := { s with client }) _ conn

/-- Deadlines and closing leave every lane with its writes. -/
theorem lane_setWire_of_writes {conn : Nat} {wire : Wire}
    (writes : wire.writes = (s.wires conn).writes) (other : Nat) :
    ∃ after, after.writes = (s.wires other).writes ∧
      (s.setWire conn wire).lane other = { s.lane other with wire := after } := by
  by_cases same : other = conn
  · subst same
    exact ⟨wire, writes, lane_setWire _ _ _⟩
  · exact ⟨s.wires other, rfl, lane_setWire_of_ne _ _ same _⟩

theorem lane_prepareOutbound (options : PushOptions) (now : Nat) (message : Outbound) (conn other : Nat) :
    ∃ wire, wire.writes = (s.wires other).writes ∧
      (s.prepareOutbound options conn now message).lane other =
        { s.lane other with wire } := by
  unfold prepareOutbound
  split
  · split
    · exact lane_setWire_of_writes (by rfl) other
    · exact ⟨s.wires other, rfl, rfl⟩
  · exact ⟨s.wires other, rfl, rfl⟩

theorem lane_settleOutbound (options : PushOptions) (message : Outbound)
    (written : Bool) (conn other : Nat) :
    ∃ wire, wire.writes = (s.wires other).writes ∧
      (s.settleOutbound options conn message written).lane other =
        { s.lane other with wire } := by
  unfold settleOutbound
  split
  · rw [lane_setToken]
    split
    · exact lane_setWire_of_writes (by rfl) other
    · exact ⟨s.wires other, rfl, rfl⟩
  · exact ⟨s.wires other, rfl, rfl⟩
  · exact lane_setWire_of_writes (by rfl) other
  · exact ⟨s.wires other, rfl, rfl⟩

theorem complete_settleOutbound (conn call : Nat) (content : Bytes)
    (written : Bool) :
    ((s.settleOutbound options conn (.push call content) written).tokens
      call).complete = true := by
  cases written <;>
    simp [settleOutbound, setToken, Token.setError, Token.flowComplete]

/-- A call in the `select` offers what it was given. -/
def Offers (s : PushSystem) : Prop :=
  ∀ call payload content, s.calls call = .offering payload content →
    payload.content = some content

/-- The step is one of the lane: what is handed over was given to the call that
hands over, and the token of what is settled is complete. -/
structure Moves (s next : PushSystem) (event : PushEvent) (conn : Nat)
    (handed settled : Option (Nat × Bytes)) : Prop where
  laneStep : LaneStep (event.starts s = some conn) (s.lane conn) handed settled (next.lane conn)
  handsTo : handed.map Prod.fst = event.handsTo conn
  handed : ∀ pushed ∈ handed, next.Handed pushed.1 pushed.2
  settled : ∀ pushed ∈ settled, (next.tokens pushed.1).complete = true

theorem moves_of_laneStep {conn : Nat} (none_handed : event.handsTo conn = none)
    (laneStep : LaneStep (event.starts s = some conn) (s.lane conn) none none
      (next.lane conn)) :
    ∃ handed settled, s.Moves next event conn handed settled :=
  ⟨none, none, laneStep, none_handed.symm, by simp, by simp⟩

theorem moves_of_lane_eq {conn : Nat} (none_handed : event.handsTo conn = none)
    (same : next.lane conn = s.lane conn) :
    ∃ handed settled, s.Moves next event conn handed settled :=
  moves_of_laneStep none_handed (same ▸ .quiet _)

theorem exists_moves (offers : s.Offers)
    (stepped : s.step options event = some next) (conn : Nat) :
    ∃ handed settled, s.Moves next event conn handed settled := by
  cases event with
  | client event =>
      obtain ⟨client, -, rfl⟩ := Option.map_eq_some_iff.mp stepped
      exact moves_of_laneStep rfl (laneStep_client event conn)
  | push call payload =>
      obtain ⟨-, stepped⟩ := Option.ite_none_right_eq_some.mp stepped
      split at stepped <;> cases stepped <;> exact moves_of_lane_eq rfl rfl
  | lookAgain call =>
      simp only [step] at stepped
      split at stepped
      case h_1 payload admitted =>
        split at stepped
        · cases stepped
          exact moves_of_lane_eq rfl rfl
        · split at stepped <;> cases stepped <;> exact moves_of_lane_eq rfl rfl
      case h_2 => cases stepped
  | timeOut call =>
      simp only [step] at stepped
      split at stepped <;> cases stepped
      exact moves_of_lane_eq rfl rfl
  | handOver call taker =>
      simp only [step] at stepped
      split at stepped
      case h_1 payload content offering waiting =>
        cases stepped
        by_cases same : conn = taker
        · subst same
          refine ⟨some (call, content), none, ?_, (if_pos rfl).symm, ?_, by simp⟩
          · rw [lane_setCall, lane_setRedirector]
            exact .take content waiting
          · rintro _ ⟨⟩
            exact ⟨payload, Function.update_self .., offers _ _ _ offering⟩
        · apply moves_of_lane_eq
          · exact if_neg (Ne.symm same)
          · rw [lane_setCall, lane_setRedirector_of_ne _ _ same]
      case h_2 => cases stepped
  | handOverDisconnect goroutine taker =>
      obtain ⟨⟨-, waiting⟩, ⟨⟩⟩ := Option.ite_none_right_eq_some.mp stepped
      by_cases same : conn = taker
      · subst same
        exact moves_of_laneStep rfl (lane_setRedirector s conn _ ▸
          .takeDisconnect waiting)
      · exact moves_of_lane_eq rfl (lane_setRedirector_of_ne _ _ same _)
  | forward mover =>
      simp only [step] at stepped
      split at stepped
      case h_1 message forwarding waiting =>
        cases stepped
        by_cases same : conn = mover
        · subst same
          apply moves_of_laneStep rfl
          rw [lane_setOutgoing, lane_setRedirector]
          exact .forward forwarding waiting
        · apply moves_of_lane_eq rfl
          rw [lane_setOutgoing_of_ne _ _ same, lane_setRedirector_of_ne _ _ same]
      case h_2 => cases stepped
  | setDeadline mover now =>
      simp only [step] at stepped
      split at stepped
      case h_1 message received =>
        cases stepped
        obtain ⟨wire, writes, prepared⟩ :=
          lane_prepareOutbound (s := s) options now message mover conn
        apply moves_of_laneStep rfl
        by_cases same : conn = mover
        · subst same
          rw [lane_setOutgoing, prepared]
          exact .prepare received writes
        · rw [lane_setOutgoing_of_ne _ _ same, prepared]
          exact .aside writes
      case h_2 => cases stepped
  | write mover now outcome =>
      simp only [step] at stepped
      split at stepped
      case h_1 message writing =>
        cases stepped
        by_cases same : conn = mover
        · subst same
          apply moves_of_laneStep rfl
          rw [writeOutbound, lane_setOutgoing, lane_setWire]
          exact .write now outcome writing
        · apply moves_of_lane_eq rfl
          rw [writeOutbound, lane_setOutgoing_of_ne _ _ same,
            lane_setWire_of_ne _ _ same]
      case h_2 => cases stepped
  | settle mover =>
      simp only [step] at stepped
      split at stepped
      case h_1 message written settling =>
        cases stepped
        obtain ⟨wire, writes, settled⟩ :=
          lane_settleOutbound (s := s) options message written mover conn
        by_cases same : conn = mover
        · subst same
          refine ⟨none, message.pushed, ?_, rfl, by simp, ?_⟩
          · rw [lane_setOutgoing, settled]
            exact .settle settling writes
          · cases message with
            | push call content =>
                rintro _ ⟨⟩
                exact complete_settleOutbound conn call content written
            | control packet => simp [Outbound.pushed]
        · apply moves_of_laneStep rfl
          rw [lane_setOutgoing_of_ne _ _ same, settled]
          exact .aside writes
      case h_2 => cases stepped
  | stopRedirector mover =>
      obtain ⟨⟨waiting, -⟩, ⟨⟩⟩ := Option.ite_none_right_eq_some.mp stepped
      by_cases same : conn = mover
      · subst same
        exact moves_of_laneStep rfl (lane_setRedirector s conn _ ▸
          .stopRedirector waiting)
      · exact moves_of_lane_eq rfl (lane_setRedirector_of_ne _ _ same _)
  | stopOutgoing mover =>
      obtain ⟨⟨-, waiting⟩, ⟨⟩⟩ := Option.ite_none_right_eq_some.mp stepped
      by_cases same : conn = mover
      · subst same
        exact moves_of_laneStep rfl (lane_setOutgoing s conn _ ▸
          .stopOutgoing waiting)
      · exact moves_of_lane_eq rfl (lane_setOutgoing_of_ne _ _ same _)
  | writeOther mover packet now outcome =>
      obtain ⟨notPush, ⟨⟩⟩ := Option.ite_none_right_eq_some.mp stepped
      by_cases same : conn = mover
      · subst same
        exact moves_of_laneStep rfl (lane_setWire s conn _ ▸
          .writeOther now outcome notPush)
      · exact moves_of_lane_eq rfl (lane_setWire_of_ne _ _ same _)

end PushSystem

end Lanes

section Calls

/-- What a step does to one call of `Push`. -/
inductive CallStep : PushCall → PushCall → Prop
  | stay (position : PushCall) : CallStep position position
  | enter (payload : PushPayload) : CallStep .idle (.admitted payload)
  | refuse (payload : PushPayload) : CallStep .idle (.returned payload)
  | offer {payload : PushPayload} {content : Bytes}
      (given : payload.content = some content) :
      CallStep (.admitted payload) (.offering payload content)
  | leave (payload : PushPayload) :
      CallStep (.admitted payload) (.returned payload)
  | part (payload : PushPayload) (content : Bytes) :
      CallStep (.offering payload content) (.returned payload)

namespace PushSystem

variable {options : PushOptions} {s next : PushSystem} {event : PushEvent}

theorem callStep_setCall {call : Nat} {position : PushCall}
    (callStep : CallStep (s.calls call) position) (other : Nat) :
    CallStep (s.calls other) ((s.setCall call position).calls other) := by
  by_cases same : other = call
  · subst same
    simpa [setCall] using callStep
  · simpa [setCall, same] using CallStep.stay (s.calls other)

theorem calls_startPipeline (started : Option Nat) :
    (s.startPipeline started).calls = s.calls := by
  cases started <;> rfl

theorem calls_closeWire (closed : Option Nat) :
    (s.closeWire closed).calls = s.calls := by
  cases closed <;> rfl

theorem calls_prepareOutbound (conn now : Nat) (message : Outbound) :
    (s.prepareOutbound options conn now message).calls = s.calls := by
  unfold prepareOutbound
  split
  · split <;> rfl
  · rfl

theorem calls_settleOutbound (conn : Nat) (message : Outbound) (written : Bool) :
    (s.settleOutbound options conn message written).calls = s.calls := by
  unfold settleOutbound
  split
  · split <;> rfl
  · rfl
  · rfl
  · rfl

theorem callStep_of_step (stepped : s.step options event = some next) (call : Nat) :
    CallStep (s.calls call) (next.calls call) := by
  cases event with
  | client event =>
      obtain ⟨client, -, rfl⟩ := Option.map_eq_some_iff.mp stepped
      rw [calls_closeWire, calls_startPipeline]
      exact .stay _
  | push pusher payload =>
      obtain ⟨idle, stepped⟩ := Option.ite_none_right_eq_some.mp stepped
      split at stepped
      · cases stepped
        exact callStep_setCall (idle ▸ .enter payload) call
      · cases stepped
        exact callStep_setCall (idle ▸ .refuse payload) call
  | lookAgain pusher =>
      simp only [step] at stepped
      split at stepped
      case h_1 payload admitted =>
        split at stepped
        · cases stepped
          exact callStep_setCall (s := s) (admitted ▸ .leave payload) call
        · split at stepped
          · rename_i content given
            cases stepped
            exact callStep_setCall (admitted ▸ .offer given) call
          · cases stepped
            exact callStep_setCall (s := s) (admitted ▸ .leave payload) call
      case h_2 => cases stepped
  | timeOut pusher =>
      simp only [step] at stepped
      split at stepped
      case h_1 payload content offering =>
        cases stepped
        exact callStep_setCall (s := s) (offering ▸ .part payload content) call
      case h_2 => cases stepped
  | handOver pusher conn =>
      simp only [step] at stepped
      split at stepped
      case h_1 payload content offering waiting =>
        cases stepped
        exact callStep_setCall (s := s) (offering ▸ .part payload content) call
      case h_2 => cases stepped
  | setDeadline conn now =>
      simp only [step] at stepped
      split at stepped
      case h_1 message received =>
        cases stepped
        exact (calls_prepareOutbound (s := s) conn now message) ▸ .stay _
      case h_2 => cases stepped
  | settle conn =>
      simp only [step] at stepped
      split at stepped
      case h_1 message written settling =>
        cases stepped
        exact (calls_settleOutbound (s := s) conn message written) ▸ .stay _
      case h_2 => cases stepped
  | forward conn | write conn now outcome =>
      simp only [step] at stepped
      split at stepped
      all_goals cases stepped
      exact .stay _
  | _ =>
      obtain ⟨-, ⟨⟩⟩ := Option.ite_none_right_eq_some.mp stepped
      exact .stay _

theorem Offers.step (offers : s.Offers) (stepped : s.step options event = some next) :
    next.Offers := by
  intro call payload content offering
  have callStep := callStep_of_step stepped call
  rw [offering] at callStep
  generalize before : s.calls call = position at callStep
  cases callStep with
  | stay => exact offers call payload content before
  | offer given => exact given

theorem returned_of_step {call : Nat} {payload : PushPayload}
    (returned : s.calls call = .returned payload)
    (stepped : s.step options event = some next) :
    next.calls call = .returned payload := by
  have callStep := callStep_of_step stepped call
  rw [returned] at callStep
  generalize next.calls call = position at callStep
  cases callStep
  rfl

theorem Handed.step {call : Nat} {content : Bytes} (handed : s.Handed call content)
    (stepped : s.step options event = some next) : next.Handed call content := by
  obtain ⟨payload, returned, given⟩ := handed
  exact ⟨payload, returned_of_step returned stepped, given⟩

end PushSystem

end Calls

end Client

end RmttGo
