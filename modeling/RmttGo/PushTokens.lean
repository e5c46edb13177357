import RmttGo.PipelineStarts
import RmttGo.PushOrder

/-!
# What becomes of the token of a push

A call of `Push` that has returned has a completed token, or its message is in
the pipeline of one connection, which completes the token when it is done with
the message.  When the goroutines of a connection have ended, none of the tokens
it was handed is left open.
-/

namespace RmttGo

namespace Client

open Codec

section Tokens

namespace Lane

/-- What the goroutines of the connection have in hand; `settling` belongs to
it. -/
def held (lane : Lane) : List (Nat × Bytes) :=
  (lane.outgoing.message.bind Outbound.pushed).toList ++
    (lane.redirector.message.bind Outbound.pushed).toList

theorem held_of_finished {lane : Lane} (outgoing : lane.outgoing = .finished)
    (redirector : lane.redirector = .finished) : lane.held = [] := by
  simp [held, outgoing, redirector, Outgoing.message, Redirector.message]

end Lane

/-- What is handed over stays in hand until its token is settled. -/
theorem LaneStep.held_eq {starts : Prop} {lane after : Lane}
    {handed settled : Option (Nat × Bytes)}
    (laneStep : LaneStep starts lane handed settled after)
    (unstarted : starts → lane.Absent) :
    settled.toList ++ after.held = lane.held ++ handed.toList := by
  cases laneStep with
  | aside writes => simp [Lane.held]
  | start isStarted =>
      obtain ⟨outgoing, redirector⟩ := unstarted isStarted
      simp [Lane.held, outgoing, redirector, Outgoing.message, Redirector.message]
  | take content waiting =>
      simp [Lane.held, waiting, Redirector.message, Outbound.pushed]
  | takeDisconnect waiting =>
      simp [Lane.held, waiting, Redirector.message, Outbound.pushed]
  | forward forwarding waiting =>
      simp [Lane.held, forwarding, waiting, Redirector.message, Outgoing.message]
  | prepare received writes => simp [Lane.held, received, Outgoing.message]
  | write now outcome writing => simp [Lane.held, writing, Outgoing.message]
  | settle settling writes => simp [Lane.held, settling, Outgoing.message]
  | stopRedirector waiting => simp [Lane.held, waiting, Redirector.message]
  | stopOutgoing waiting => simp [Lane.held, waiting, Outgoing.message]
  | @writeOther packet now outcome notPush => simp [Lane.held]

namespace PushSystem

variable {options : PushOptions} {s next : PushSystem} {event : PushEvent}
  {past : List PushEvent}

/-- Why a step completes the token of a call: the call returns, or its
connection is done with its message. -/
def Completes (s next : PushSystem) (call : Nat) : Prop :=
  (next.tokens call).complete = true ∧
    ((∀ payload, s.calls call ≠ .returned payload) ∧
        (∃ payload, next.calls call = .returned payload) ∨
      ∃ conn content, (s.lane conn).held = (call, content) :: (next.lane conn).held)

theorem tokens_startPipeline (started : Option Nat) :
    (s.startPipeline started).tokens = s.tokens := by
  cases started <;> rfl

theorem tokens_closeWire (closed : Option Nat) :
    (s.closeWire closed).tokens = s.tokens := by
  cases closed <;> rfl

theorem tokens_prepareOutbound (conn now : Nat) (message : Outbound) :
    (s.prepareOutbound options conn now message).tokens = s.tokens := by
  unfold prepareOutbound
  split
  · split <;> rfl
  · rfl

theorem tokens_setToken (call other : Nat) {token : Token}
    (complete : token.complete = true) :
    (s.setToken call token).tokens other = s.tokens other ∨
      (other = call ∧ ((s.setToken call token).tokens other).complete = true) := by
  by_cases same : other = call
  · subst same
    exact .inr ⟨rfl, by simpa [setToken] using complete⟩
  · exact .inl (by simp [setToken, same])

theorem tokens_settleOutbound (options : PushOptions) (conn call : Nat)
    (message : Outbound) (written : Bool) :
    (s.settleOutbound options conn message written).tokens call = s.tokens call ∨
      ∃ content, message = .push call content := by
  cases message with
  | control packet => cases written <;> exact .inl rfl
  | push pusher content =>
      by_cases same : call = pusher
      · exact .inr ⟨content, by rw [same]⟩
      · left
        cases written with
        | false => simp [settleOutbound, setToken, same]
        | true =>
            simp only [settleOutbound, setToken, Function.update_of_ne same]
            split <;> rfl

theorem tokens_of_step (stepped : s.step options event = some next) (call : Nat) :
    next.tokens call = s.tokens call ∨ s.Completes next call := by
  have ofPusher {pusher : Nat} {token : Token} {payload : PushPayload}
      (complete : token.complete = true)
      (notReturned : ∀ payload, s.calls pusher ≠ .returned payload) :
      ((s.setToken pusher token).setCall pusher (.returned payload)).tokens call =
          s.tokens call ∨
        s.Completes ((s.setToken pusher token).setCall pusher (.returned payload))
          call := by
    rcases tokens_setToken (s := s) pusher call complete with same | ⟨rfl, isComplete⟩
    · exact .inl same
    · exact .inr ⟨isComplete, .inl ⟨notReturned, payload, Function.update_self ..⟩⟩
  cases event with
  | client event =>
      obtain ⟨client, -, rfl⟩ := Option.map_eq_some_iff.mp stepped
      left
      rw [tokens_closeWire, tokens_startPipeline]
  | push pusher payload =>
      obtain ⟨idle, stepped⟩ := Option.ite_none_right_eq_some.mp stepped
      split at stepped
      · cases stepped
        exact .inl rfl
      · cases stepped
        exact ofPusher rfl (by simp [idle])
  | lookAgain pusher =>
      simp only [step] at stepped
      split at stepped
      case h_1 payload admitted =>
        split at stepped
        · cases stepped
          exact ofPusher rfl (by simp [admitted])
        · split at stepped
          · cases stepped
            exact .inl rfl
          · cases stepped
            exact ofPusher rfl (by simp [admitted])
      case h_2 => cases stepped
  | timeOut pusher =>
      simp only [step] at stepped
      split at stepped
      case h_1 payload content offering =>
        cases stepped
        exact ofPusher rfl (by simp [offering])
      case h_2 => cases stepped
  | setDeadline conn now =>
      simp only [step] at stepped
      split at stepped
      · cases stepped
        exact .inl (congrFun (tokens_prepareOutbound ..) call)
      · cases stepped
  | settle conn =>
      simp only [step] at stepped
      split at stepped
      case h_1 message written settling =>
        cases stepped
        rcases tokens_settleOutbound (s := s) options conn call message written with
          same | ⟨content, rfl⟩
        · exact .inl same
        · refine .inr ⟨complete_settleOutbound conn call content written, .inr
            ⟨conn, content, ?_⟩⟩
          obtain ⟨wire, -, settled⟩ := lane_settleOutbound (s := s) options
            (.push call content) written conn conn
          rw [lane_setOutgoing, settled]
          simp [Lane.held, lane, settling, Outgoing.message, Outbound.pushed]
      case h_2 => cases stepped
  | handOver pusher conn | forward conn | write conn now outcome =>
      simp only [step] at stepped
      split at stepped
      all_goals cases stepped
      exact .inl rfl
  | _ =>
      obtain ⟨-, ⟨⟩⟩ := Option.ite_none_right_eq_some.mp stepped
      exact .inl rfl

/-- A call returns with a completed token, or by handing its message over. -/
theorem complete_or_handsTo {call : Nat} {payload : PushPayload}
    (notReturned : ∀ payload, s.calls call ≠ .returned payload)
    (stepped : s.step options event = some next)
    (returned : next.calls call = .returned payload) :
    (next.tokens call).complete = true ∨ ∃ conn, event.handsTo conn = some call := by
  have ofOther (same : next.calls call = s.calls call) :
      (next.tokens call).complete = true ∨ ∃ conn, event.handsTo conn = some call :=
    absurd (same.symm.trans returned) (notReturned payload)
  -- Only a step of the call itself lets it return.
  have isPusher {pusher : Nat} {before : PushSystem} {position : PushCall}
      (same : before.calls = s.calls)
      (returned : (before.setCall pusher position).calls call = .returned payload) :
      call = pusher := by
    by_contra different
    apply notReturned payload
    rw [← same]
    simpa [setCall, different] using returned
  have ofPusher {pusher : Nat} {token : Token} {position : PushCall}
      (complete : token.complete = true)
      (returned : ((s.setToken pusher token).setCall pusher position).calls call =
        .returned payload) :
      (((s.setToken pusher token).setCall pusher position).tokens
        call).complete = true := by
    obtain rfl := isPusher (by rfl) returned
    simpa [setToken, setCall] using complete
  cases event with
  | client event =>
      obtain ⟨client, -, rfl⟩ := Option.map_eq_some_iff.mp stepped
      apply ofOther
      rw [calls_closeWire, calls_startPipeline]
  | push pusher given =>
      obtain ⟨idle, stepped⟩ := Option.ite_none_right_eq_some.mp stepped
      split at stepped
      · cases stepped
        obtain rfl := isPusher rfl returned
        simp [setCall] at returned
      · cases stepped
        exact .inl (ofPusher rfl returned)
  | lookAgain pusher =>
      simp only [step] at stepped
      split at stepped
      case h_1 given admitted =>
        split at stepped
        · cases stepped
          exact .inl (ofPusher rfl returned)
        · split at stepped
          · cases stepped
            obtain rfl := isPusher rfl returned
            simp [setCall] at returned
          · cases stepped
            exact .inl (ofPusher rfl returned)
      case h_2 => cases stepped
  | timeOut pusher =>
      simp only [step] at stepped
      split at stepped
      case h_1 given content offering =>
        cases stepped
        exact .inl (ofPusher rfl returned)
      case h_2 => cases stepped
  | handOver pusher conn =>
      simp only [step] at stepped
      split at stepped
      case h_1 given content offering waiting =>
        cases stepped
        obtain rfl := isPusher (by rfl) returned
        exact .inr ⟨conn, if_pos rfl⟩
      case h_2 => cases stepped
  | setDeadline conn now =>
      simp only [step] at stepped
      split at stepped
      · cases stepped
        exact ofOther (congrFun (calls_prepareOutbound ..) call)
      · cases stepped
  | settle conn =>
      simp only [step] at stepped
      split at stepped
      · cases stepped
        exact ofOther (congrFun (calls_settleOutbound ..) call)
      · cases stepped
  | forward conn | write conn now outcome =>
      simp only [step] at stepped
      split at stepped
      all_goals cases stepped
      exact ofOther rfl
  | _ =>
      obtain ⟨-, ⟨⟩⟩ := Option.ite_none_right_eq_some.mp stepped
      exact ofOther rfl

theorem tokens_of_handsTo {conn call : Nat} (hands : event.handsTo conn = some call)
    (stepped : s.step options event = some next) : next.tokens = s.tokens := by
  cases event with
  | handOver pusher taker =>
      simp only [step] at stepped
      split at stepped <;> cases stepped
      rfl
  | _ => cases hands

structure Accounted (past : List PushEvent) (s : PushSystem) : Prop where
  inOrder : InOrder past s
  fresh : Fresh past s
  order : ∀ conn, ((s.lane conn).held.map Prod.fst).Sublist (handedTo conn past)
  pending : ∀ conn, ∀ pushed ∈ (s.lane conn).held, s.tokens pushed.1 = .fresh
  unreturned : ∀ call, (∀ payload, s.calls call ≠ .returned payload) →
    s.tokens call = .fresh
  settled : ∀ call payload, s.calls call = .returned payload →
    (s.tokens call).complete = true ∨
      ∃ conn content, (call, content) ∈ (s.lane conn).held

theorem initial_accounted : Accounted [] initial where
  inOrder := initial_inOrder
  fresh := initial_fresh
  order := fun _ => List.Sublist.slnil
  pending := by
    intro conn pushed isHeld
    cases isHeld
  unreturned := fun _ _ => rfl
  settled := by
    intro call payload returned
    cases returned

theorem Accounted.handed (accounted : Accounted past s) {conn : Nat}
    {pushed : Nat × Bytes} (isHeld : pushed ∈ (s.lane conn).held) :
    pushed.1 ∈ handedTo conn past :=
  (accounted.order conn).subset (List.mem_map_of_mem isHeld)

theorem Accounted.step (accounted : Accounted past s)
    (anew : ∀ conn, event.dials = some conn → conn ∉ past.filterMap PushEvent.dials)
    (stepped : s.step options event = some next) :
    Accounted (past ++ [event]) next := by
  have offers := accounted.inOrder.offers
  have moved (conn : Nat) : ∃ handed settled, s.Moves next event conn handed settled ∧
      settled.toList ++ (next.lane conn).held =
        (s.lane conn).held ++ handed.toList := by
    obtain ⟨handed, settled, moves⟩ := exists_moves offers stepped conn
    refine ⟨handed, settled, moves, moves.laneStep.held_eq fun starts => ?_⟩
    obtain ⟨goroutine, opens, -⟩ := opens_of_event_starts starts stepped
    exact accounted.fresh.unstarted opens
  constructor
  · exact accounted.inOrder.step stepped
  · exact accounted.fresh.step offers anew stepped
  · intro conn
    obtain ⟨handed, settled, moves, kept⟩ := moved conn
    have sublist : (next.lane conn).held.Sublist
        ((s.lane conn).held ++ handed.toList) :=
      kept ▸ List.sublist_append_right _ _
    have grows := sublist.map Prod.fst
    rw [List.map_append, ← Option.toList_map, moves.handsTo] at grows
    rw [handedTo_concat]
    exact grows.trans ((accounted.order conn).append_right _)
  · intro conn pushed isHeld
    obtain ⟨handed, settled, moves, kept⟩ := moved conn
    have before : pushed ∈ (s.lane conn).held ++ handed.toList :=
      kept ▸ List.mem_append_right _ isHeld
    rcases List.mem_append.mp before with before | isHanded
    · have handedBefore := accounted.handed before
      rcases tokens_of_step stepped pushed.1 with same | ⟨-, ⟨notReturned, -⟩ | settles⟩
      · rw [same]
        exact accounted.pending conn pushed before
      · obtain ⟨payload, returned⟩ := accounted.inOrder.returned handedBefore
        exact absurd returned (notReturned payload)
      · -- The connection that settles the token is this one, and has it once.
        obtain ⟨settler, content, settles⟩ := settles
        have isSettled : (pushed.1, content) ∈ (s.lane settler).held :=
          settles ▸ List.mem_cons_self
        obtain rfl : settler = conn :=
          accounted.inOrder.apart (accounted.handed isSettled) handedBefore
        have once := (accounted.order settler).nodup (accounted.inOrder.once settler)
        rw [settles, List.map_cons, List.nodup_cons] at once
        exact absurd (List.mem_map_of_mem isHeld) once.1
    · have hands : event.handsTo conn = some pushed.1 := by
        rw [← moves.handsTo, Option.mem_toList.mp isHanded]
        rfl
      rw [tokens_of_handsTo hands stepped]
      exact accounted.unreturned _ (calls_of_handsTo stepped hands).1
  · intro call notReturned
    have notBefore : ∀ payload, s.calls call ≠ .returned payload :=
      fun payload returned => notReturned payload (returned_of_step returned stepped)
    rcases tokens_of_step stepped call with same | ⟨-, ⟨-, payload, returned⟩ | settles⟩
    · rw [same]
      exact accounted.unreturned call notBefore
    · exact absurd returned (notReturned payload)
    · obtain ⟨conn, content, settles⟩ := settles
      have isSettled : (call, content) ∈ (s.lane conn).held :=
        settles ▸ List.mem_cons_self
      obtain ⟨payload, returned⟩ :=
        accounted.inOrder.returned (accounted.handed isSettled)
      exact absurd returned (notBefore payload)
  · intro call payload returned
    have stays {conn : Nat} {content : Bytes}
        (isHeld : (call, content) ∈ (s.lane conn).held ∨
          event.handsTo conn = some call) :
        (next.tokens call).complete = true ∨
          ∃ conn content, (call, content) ∈ (next.lane conn).held := by
      obtain ⟨handed, settled, moves, kept⟩ := moved conn
      have isKept : ∃ content, (call, content) ∈
          settled.toList ++ (next.lane conn).held := by
        rw [kept]
        rcases isHeld with isHeld | hands
        · exact ⟨content, List.mem_append_left _ isHeld⟩
        · rw [← moves.handsTo, Option.map_eq_some_iff] at hands
          obtain ⟨⟨_, content⟩, isHanded, rfl⟩ := hands
          exact ⟨content, List.mem_append_right _ (Option.mem_toList.mpr isHanded)⟩
      obtain ⟨content, isKept⟩ := isKept
      rcases List.mem_append.mp isKept with isSettled | isHeld
      · exact .inl (moves.settled _ (Option.mem_toList.mp isSettled))
      · exact .inr ⟨conn, content, isHeld⟩
    by_cases before : ∃ payload, s.calls call = .returned payload
    · obtain ⟨payload, returned⟩ := before
      rcases accounted.settled call payload returned with complete | ⟨conn, content, isHeld⟩
      · rcases tokens_of_step stepped call with same | ⟨isComplete, -⟩
        · exact .inl (same ▸ complete)
        · exact .inl isComplete
      · exact stays (.inl isHeld)
    · have notReturned : ∀ payload, s.calls call ≠ .returned payload :=
        fun payload returned => before ⟨payload, returned⟩
      rcases complete_or_handsTo notReturned stepped returned with
        complete | ⟨conn, hands⟩
      · exact .inl complete
      · exact @stays conn [] (.inr hands)

theorem accounted_of_run {events : List PushEvent}
    (distinct : (events.filterMap PushEvent.dials).Nodup)
    (executed : EventRun.run (PushSystem.step options) initial events = some s) :
    Accounted events s := by
  refine EventRun.invariant_of_history
    (fun past s => (past.filterMap PushEvent.dials).Nodup → Accounted past s)
    ?_ (fun _ => initial_accounted) executed distinct
  intro past state next event accounted stepped distinct
  rw [List.filterMap_append, List.nodup_append] at distinct
  refine (accounted distinct.1).step ?_ stepped
  intro conn dials before
  exact distinct.2.2 conn before conn (by simp [dials]) rfl

/-- A call of `Push` that has returned has a completed token, or its message is
in the hands of exactly one connection.  A connection whose goroutines have
ended has completed the tokens of all calls that handed over to it. -/
theorem push_tokens_accounted_for {events : List PushEvent}
    (distinct : (events.filterMap PushEvent.dials).Nodup)
    (executed : EventRun.run (PushSystem.step options) initial events = some s) :
    (∀ call payload, s.calls call = .returned payload →
      ((s.tokens call).complete = true ∧
          ∀ conn, call ∉ (s.lane conn).held.map Prod.fst) ∨
        (s.tokens call = .fresh ∧
          ∃! conn, call ∈ (s.lane conn).held.map Prod.fst)) ∧
      ∀ conn, (s.lane conn).outgoing = .finished →
        (s.lane conn).redirector = .finished →
          ∀ call ∈ handedTo conn events, (s.tokens call).complete = true := by
  have accounted := accounted_of_run distinct executed
  have pending {call conn : Nat} (isHeld : call ∈ (s.lane conn).held.map Prod.fst) :
      s.tokens call = .fresh ∧ call ∈ handedTo conn events := by
    obtain ⟨pushed, inHand, rfl⟩ := List.mem_map.mp isHeld
    exact ⟨accounted.pending conn pushed inHand, accounted.handed inHand⟩
  constructor
  · intro call payload returned
    by_cases isHeld : ∃ conn, call ∈ (s.lane conn).held.map Prod.fst
    · obtain ⟨conn, isHeld⟩ := isHeld
      have ⟨fresh, handed⟩ := pending isHeld
      exact .inr ⟨fresh, conn, isHeld, fun other otherHeld =>
        accounted.inOrder.apart (pending otherHeld).2 handed⟩
    · refine .inl ⟨?_, fun conn held => isHeld ⟨conn, held⟩⟩
      refine (accounted.settled call payload returned).resolve_right ?_
      rintro ⟨conn, content, held⟩
      exact isHeld ⟨conn, List.mem_map_of_mem held⟩
  · intro conn outgoing redirector call handed
    obtain ⟨payload, returned⟩ := accounted.inOrder.returned handed
    refine (accounted.settled call payload returned).resolve_right ?_
    rintro ⟨holder, content, held⟩
    obtain rfl := accounted.inOrder.apart (accounted.handed held) handed
    rw [Lane.held_of_finished outgoing redirector] at held
    cases held

/-- `Push` has handed its message to connection 1, which is lost before the
message is written. -/
def pushOnLostConnection : List PushEvent :=
  [.client (.connect 0), .client (.attemptSucceeded 0 (some 1)),
    .client (.startWorkers 0 9), .client (.connectionUp 0),
    .client (.startComms 0 2 4), .push 0 (.string [104]), .lookAgain 0,
    .handOver 0 1, .client (.reportLoss 2), .client (.connectionLost 2),
    .client (.stopCommsWorkers 2 3), .forward 1, .setDeadline 1 0,
    .write 1 0 .whole, .settle 1, .stopRedirector 1, .stopOutgoing 1]

theorem push_tokens_accounted_for_lost_connection :
    ∃ s, EventRun.run (PushSystem.step ⟨⟨true, false, false, true⟩, 0⟩) initial
        pushOnLostConnection = some s ∧
      (s.tokens 0).complete = true ∧ (s.tokens 0).err = some .writeFailed := by
  have outcome : (EventRun.run (PushSystem.step ⟨⟨true, false, false, true⟩, 0⟩)
      initial pushOnLostConnection).map (fun s =>
        ((s.lane 1).outgoing, (s.lane 1).redirector, (s.tokens 0).err)) =
      some (.finished, .finished, some .writeFailed) := by
    decide +kernel
  obtain ⟨s, executed, facts⟩ := Option.map_eq_some_iff.mp outcome
  simp only [Prod.mk.injEq] at facts
  obtain ⟨outgoing, redirector, error⟩ := facts
  refine ⟨s, executed, ?_, error⟩
  exact (push_tokens_accounted_for (by decide) executed).2 1 outgoing redirector 0
    (by decide)

end PushSystem

end Tokens

end Client

end RmttGo
