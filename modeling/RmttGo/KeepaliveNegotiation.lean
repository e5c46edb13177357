import RmttGo.ClientHandshake
import RmttGo.HandshakeGate

/-!
# One keepalive for both ends

The proposal of the client crosses a 16-bit field, the policy of the server, and
a second 16-bit field.  The value that arms the reaper of a connection is the
one the policy returned; the value the client stores is what the second field
keeps of it.  No conversion checks its range, so the two ends agree on what was
configured exactly when every value on the way fits.
-/

namespace RmttGo

namespace Server

open Codec

section Timer

variable {options : ServerOptions}

/-- The keepalive a handler serves its connection with. -/
def Handler.serverKp : Handler → Option Int
  | .registering serverKp | .takingOver _ serverKp | .establishing serverKp
  | .looping serverKp | .answering serverKp | .violating serverKp
  | .closing serverKp => some serverKp
  | _ => none

theorem Handler.passed_of_serverKp {handler : Handler} {serverKp : Int}
    (serves : handler.serverKp = some serverKp) : handler.gate = .passed := by
  cases handler
  all_goals first | rfl | cases serves

theorem Session.greeted_serverKp (session : Session) (greeting : Greeting) :
    (session.greeted greeting).handler.serverKp = none := by
  cases greeting <;> rfl

theorem Session.greeted_ne_unaccepted (session : Session) (greeting : Greeting) :
    (session.greeted greeting).handler ≠ .unaccepted := by
  cases greeting <;> nofun

theorem SessionStep.ne_unaccepted {conn : Nat} {event : ServerEvent}
    {session after : Session}
    (stepped : SessionStep options conn event session after)
    (accepted : session.handler ≠ .unaccepted) :
    after.handler ≠ .unaccepted := by
  cases stepped with
  | untouched | operate | closeBelow => exact accepted
  | greeted => exact Session.greeted_ne_unaccepted _ _
  | register _ registers => cases registers <;> nofun
  | receive _ _ goesOn => cases goesOn <;> nofun
  | _ => nofun

theorem SessionStep.of_accept {conn : Nat} {inbound : Bytes}
    {session after : Session}
    (stepped : SessionStep options conn (.accept conn inbound) session after) :
    session.handler = .unaccepted ∧
      after = ⟨⟨inbound⟩, ⟨.fresh, [], false⟩, .accepted⟩ := by
  cases stepped with
  | untouched notOwn => exact absurd rfl notOwn
  | accept position => exact ⟨position, rfl⟩
  | unreadable isRead => rcases isRead with read | read <;> cases read
  | receive isRead => rcases isRead with read | read <;> cases read

/-- A handler keeps its keepalive, and gets it from its own welcome. -/
theorem SessionStep.serverKp {conn : Nat} {event : ServerEvent}
    {session after : Session} {serverKp : Int}
    (stepped : SessionStep options conn event session after)
    (serves : after.handler.serverKp = some serverKp) :
    session.handler.serverKp = some serverKp ∨
      ∃ deviceID, session.handler = .welcoming deviceID serverKp := by
  cases stepped with
  | welcome position =>
      cases serves
      exact .inr ⟨_, position⟩
  | greeted =>
      rw [Session.greeted_serverKp] at serves
      cases serves
  | register position registers =>
      rw [position]
      cases registers <;> exact .inl serves
  | receive _ position goesOn =>
      rw [position]
      cases goesOn <;> exact .inl serves
  | untouched | operate | closeBelow => exact .inl serves
  | takeOver position | establish position | answerPing position
  | violate position =>
      rw [position]
      exact .inl serves
  | _ => cases serves

/-- The keepalive in force is the one the first packet was welcomed with. -/
def Session.Negotiated (options : ServerOptions) (inbound : Bytes)
    (session : Session) : Prop :=
  ∀ serverKp, session.handler.serverKp = some serverKp →
    ∃ packet rest deviceID, readPacket (⟨inbound⟩ : Buffer) = .ok (packet, rest) ∧
      greet options packet = .welcome deviceID serverKp

theorem Session.Negotiated.step {conn : Nat} {event : ServerEvent}
    {session after : Session} {inbound : Bytes}
    (negotiated : session.Negotiated options inbound)
    (gated : session.Gated options inbound)
    (stepped : SessionStep options conn event session after) :
    after.Negotiated options inbound := by
  intro serverKp serves
  rcases stepped.serverKp serves with before | ⟨deviceID, position⟩
  · exact negotiated serverKp before
  · unfold Session.Gated at gated
    rw [position] at gated
    obtain ⟨-, packet, rest, isRead, greeting⟩ := gated
    exact ⟨packet, rest, deviceID, isRead, greeting⟩

namespace ServerSystem

variable {past : List ServerEvent} {s next : ServerSystem} {event : ServerEvent}

/-- Every accepted connection is tied to the bytes it was accepted with. -/
def Tied (options : ServerOptions) (past : List ServerEvent)
    (s : ServerSystem) : Prop :=
  ∀ conn inbound, .accept conn inbound ∈ past →
    s.handler conn ≠ .unaccepted ∧ (s.sessions conn).Gated options inbound ∧
      (s.sessions conn).Negotiated options inbound

theorem Tied.step (tied : s.Tied options past)
    (stepped : step options s event = some next) :
    next.Tied options (past ++ [event]) := by
  intro conn inbound accepted
  have own := sessionStep_of_step stepped conn
  rcases List.mem_append.mp accepted with earlier | now
  · obtain ⟨notUnaccepted, gated, negotiated⟩ := tied conn inbound earlier
    refine ⟨own.ne_unaccepted notUnaccepted, ?_, negotiated.step gated own⟩
    rcases gated.step own with after | ⟨sent, rfl, -⟩
    · exact after
    · exact absurd own.of_accept.1 notUnaccepted
  · obtain rfl := List.mem_singleton.mp now
    obtain ⟨-, fresh⟩ := own.of_accept
    have handler : next.handler conn = .accepted :=
      congrArg Session.handler fresh
    refine ⟨?_, ?_, ?_⟩
    · rw [handler]
      nofun
    · rw [fresh]
      exact ⟨⟨⟨rfl, rfl⟩, rfl⟩, rfl⟩
    · rw [fresh]
      nofun

theorem serverKp_of_greet {connect : ConnectPacket} {deviceID : Bytes}
    {serverKp : Int}
    (greeting : greet options (.connect connect) = .welcome deviceID serverKp) :
    serverKp = options.keepalivePolicy.decide connect.keepalive.toNat := by
  simp only [greet] at greeting
  repeat' split at greeting
  all_goals cases greeting
  all_goals rfl

/-- What a served connection was negotiated to, and what the client can read of
it on the wire. -/
theorem Tied.negotiated {client : Client.ConnectOptions} {conn : Nat}
    {behind : Bytes} {serverKp : Int} (tied : s.Tied options past)
    (sent : .accept conn ((ControlPacket.connect
      (Client.newConnectMsgFromOptions client)).frame ++ behind) ∈ past)
    (serves : (s.handler conn).serverKp = some serverKp) :
    serverKp = options.keepalivePolicy.decide
        (UInt16.ofInt client.seconds).toNat ∧
      Client.verifyCONNACK
          ⟨(s.device conn).conn.writes.flatMap Delivery.bytes⟩ =
        (ReturnCode.accepted, .ofInt serverKp) := by
  obtain ⟨-, gated, negotiated⟩ := tied conn _ sent
  obtain ⟨packet, rest, deviceID, isRead, greeting⟩ :=
    negotiated serverKp serves
  obtain ⟨_, _, _, ack, later, isReadAlso, greetingAlso, writes, message,
    complete, -⟩ := gated.admitted_of_passed (Handler.passed_of_serverKp serves)
  rw [isRead] at isReadAlso
  cases isReadAlso
  rw [greeting] at greetingAlso
  cases greetingAlso
  obtain ⟨connect, rfl, magic, -⟩ := welcome_of_greet greeting
  constructor
  · rw [serverKp_of_greet greeting,
      Client.keepalive_of_readPacket rfl isRead magic]
    rfl
  · change Client.verifyCONNACK
      ⟨(s.sessions conn).device.conn.writes.flatMap Delivery.bytes⟩ = _
    rw [writes, List.flatMap_cons, complete.bytes_eq, message]
    exact Client.verifyCONNACK_connack _ _ _

end ServerSystem

end Timer

section Agreement

/-- The value of the policy for what was configured survives both conversions
to 16 bits: a value that fits is answered with one that fits, and one that does
not fit is cut down to the maximum like what the conversion leaves of it. -/
def KeepalivePolicy.Transmits (policy : KeepalivePolicy) (seconds : Int) :
    Prop :=
  let fallback := if policy.allowDisable then 0 else policy.defaultSeconds
  let wrapped := seconds % 65536
  if seconds < 65536 then
    (seconds = 0 → 0 ≤ fallback ∧ fallback < 65536) ∧
      (0 < seconds → seconds < policy.minSeconds →
        policy.minSeconds < 65536) ∧
      (0 < seconds → policy.minSeconds ≤ seconds →
        policy.maxSeconds < seconds → 0 ≤ policy.maxSeconds)
  else
    policy.minSeconds ≤ seconds ∧ 0 ≤ policy.maxSeconds ∧
      policy.maxSeconds < 65536 ∧
      (wrapped = 0 → policy.maxSeconds = fallback) ∧
      (0 < wrapped → wrapped < policy.minSeconds →
        policy.maxSeconds = policy.minSeconds) ∧
      (0 < wrapped → policy.minSeconds ≤ wrapped →
        policy.maxSeconds ≤ wrapped)

instance (policy : KeepalivePolicy) (seconds : Int) :
    Decidable (policy.Transmits seconds) :=
  inferInstanceAs (Decidable (ite _ _ _))

theorem toNat_ofInt (number : Int) :
    ((UInt16.ofInt number).toNat : Int) = number % 65536 := by
  simp only [UInt16.ofInt, UInt16.toNat_ofNat', Nat.reducePow, Int.reducePow]
  omega

theorem KeepalivePolicy.transmits_iff {policy : KeepalivePolicy} {seconds : Int}
    (nonnegative : 0 ≤ seconds) :
    policy.decide (seconds % 65536) % 65536 = policy.decide (seconds % 65536) ∧
        policy.decide (seconds % 65536) = policy.decide seconds ↔
      policy.Transmits seconds := by
  obtain ⟨minSeconds, maxSeconds, defaultSeconds, allowDisable⟩ := policy
  simp only [decide, Transmits]
  generalize (if allowDisable = true then 0 else defaultSeconds) = fallback
  by_cases fits : seconds < 65536
  · rw [Int.emod_eq_of_lt nonnegative fits, if_pos fits]
    split_ifs <;> omega
  · rw [if_neg fits]
    split_ifs <;> omega

namespace ServerSystem

open Client (ConnectOptions newConnectMsgFromOptions verifyCONNACK
  attemptConnection)

variable {options : ServerOptions} {client : ConnectOptions} {s : ServerSystem}
  {conn : Nat} {failed untried : List (Option Buffer)}

/-- What the client has stored after an attempt that ends at this server. -/
def clientKp (s : ServerSystem) (conn : Nat)
    (failed untried : List (Option Buffer)) (rc : UInt8) (before : Int) : Int :=
  (attemptConnection rc before (failed ++
    some ⟨(s.device conn).conn.writes.flatMap Delivery.bytes⟩ :: untried)).2

/-- On a connection that the server serves, both ends keep the value the policy
has for the configured seconds if and only if that value is transmitted. -/
theorem keepalive_agreed_iff {events : List ServerEvent} {behind : Bytes}
    {serverKp before : Int} {rc : UInt8} (configured : client.Configured)
    (executed : EventRun.run (step options) initial events = some s)
    (sent : .accept conn ((ControlPacket.connect
      (newConnectMsgFromOptions client)).frame ++ behind) ∈ events)
    (serves : (s.handler conn).serverKp = some serverKp)
    (refused : ∀ other, some other ∈ failed →
      (verifyCONNACK other).1 ≠ ReturnCode.accepted) :
    s.clientKp conn failed untried rc before = serverKp ∧
        serverKp = options.keepalivePolicy.decide client.seconds ↔
      options.keepalivePolicy.Transmits client.seconds := by
  have tied : s.Tied options events :=
    EventRun.invariant_of_history (Tied options)
      (fun tied stepped => tied.step stepped) nofun executed
  obtain ⟨negotiated, verified⟩ := tied.negotiated sent serves
  have stored : s.clientKp conn failed untried rc before = serverKp % 65536 := by
    rw [clientKp, Client.attemptConnection_of_accepted rc before refused verified]
    exact toNat_ofInt serverKp
  rw [toNat_ofInt] at negotiated
  rw [stored, negotiated]
  exact KeepalivePolicy.transmits_iff configured.seconds_nonneg

/-- The events of a handshake on the first connection. -/
def negotiation (client : ConnectOptions) : List ServerEvent :=
  [.accept 0 (ControlPacket.connect (newConnectMsgFromOptions client)).frame,
    .enter 0, .track 0, .read 0, .greet 0 0 .whole]

def outcome (options : ServerOptions) (client : ConnectOptions) :
    Option (Option Int × Int) :=
  (EventRun.run (step options) initial (negotiation client)).map
    fun s => ((s.handler 0).serverKp, s.clientKp 0 [none] [] 0 0)

/-- A heartbeat of 45 seconds within the default range. -/
theorem keepalive_agreed_iff_default :
    ∃ s, EventRun.run (step newServerOptions) initial
        (negotiation ⟨1, [100], 45, false, 0, 0⟩) = some s ∧
      (s.handler 0).serverKp = some 45 ∧
      s.clientKp 0 [none] [] 0 0 = 45 := by
  have ran : outcome newServerOptions ⟨1, [100], 45, false, 0, 0⟩ =
      some (some 45, 45) := by
    decide +kernel
  obtain ⟨s, executed, facts⟩ := Option.map_eq_some_iff.mp ran
  have serves : (s.handler 0).serverKp = some 45 := congrArg Prod.fst facts
  have configured : ConnectOptions.Configured ⟨1, [100], 45, false, 0, 0⟩ := by
    decide
  have sent : ServerEvent.accept 0 ((ControlPacket.connect
      (newConnectMsgFromOptions ⟨1, [100], 45, false, 0, 0⟩)).frame ++ []) ∈
        negotiation ⟨1, [100], 45, false, 0, 0⟩ := by
    rw [List.append_nil]
    exact List.mem_cons_self
  have refused : ∀ other : Buffer, some other ∈ [none] →
      (verifyCONNACK other).1 ≠ ReturnCode.accepted := by
    simp
  exact ⟨s, executed, serves, ((keepalive_agreed_iff configured executed sent
    serves refused).mpr (by decide)).1⟩

/-- The default server serves a client that configured 65546 seconds with the
minimum instead of the maximum; and a minimum of 70000 seconds reaches the
client as 4464. -/
theorem keepalive_wraps :
    outcome newServerOptions ⟨1, [100], 65546, false, 0, 0⟩ =
        some (some 30, 30) ∧
      defaultKeepalivePolicy.decide 65546 = 600 ∧
      outcome ⟨none, ⟨70000, 80000, 60, false⟩, false⟩ ⟨1, [100], 10, false, 0, 0⟩ =
        some (some 70000, 4464) := by
  decide +kernel

end ServerSystem

end Agreement

end Server

end RmttGo
