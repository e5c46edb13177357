import RmttGo.ControlPackets
import RmttGo.ClientSystem
import RmttGo.Transport

/-!
# The way of a pushed message

`Push` looks at the status twice, offers the packet with its token on
`c.obound`, and gives up when its timer fires.  The redirector that
`startWorkers` starts for a connection takes the packet over and passes it to
the outgoing goroutine of that connection, which writes it and completes the
token.  The goroutines of `ClientSystem` run beside all of this: they decide
the status, start the pipeline of a connection and close connections.
-/

namespace RmttGo

namespace Client

open Codec

structure PushOptions extends Options where
  writeTimeout : Int
  deriving DecidableEq, Repr

/-- `IsConnected`. -/
def isConnected (options : Options) (shared : ConnectionStatus) : Bool :=
  if shared.status = .connected then
    true
  else if options.connectRetry ∧ shared.status = .connecting then
    true
  else if options.autoReconnect then
    shared.status = .reconnecting ∨
      (shared.status = .disconnecting ∧ shared.willReconnect)
  else
    false

inductive PushError
  | notConnected
  | unknownPayloadType
  | brokenByTimeout
  | writeFailed
  deriving DecidableEq, Repr

/-- `baseToken`, without its error handler. -/
structure Token where
  complete : Bool
  err : Option PushError
  deriving DecidableEq, Repr

namespace Token

def fresh : Token :=
  ⟨false, none⟩

def flowComplete (token : Token) : Token :=
  { token with complete := true }

def setError (token : Token) (error : PushError) : Token :=
  { token with err := some error }.flowComplete

/-- `Wait` has returned and `Error` returns nil. -/
def Successful (token : Token) : Prop :=
  token.complete ∧ token.err = none

instance (token : Token) : Decidable token.Successful :=
  inferInstanceAs (Decidable (_ ∧ _))

end Token

/-- The dynamic type and value of the argument of `Push`. -/
inductive PushPayload
  | string (text : Bytes)
  | bytes (slice : Bytes)
  | buffer (unread : Bytes)
  | other
  deriving DecidableEq, Repr

def PushPayload.content : PushPayload → Option Bytes
  | .string text => some text
  | .bytes slice => some slice
  | .buffer unread => some unread
  | .other => none

/-- What is written to a connection.  A PUSH remembers the call it was built
by; a call and its token carry the same number. -/
inductive Outbound
  | push (call : Nat) (payload : Bytes)
  | control (packet : ControlPacket)
  deriving DecidableEq, Repr

def Outbound.frame : Outbound → Bytes
  | .push _ payload => (pushPacket payload).frame
  | .control packet => packet.frame

abbrev Wire := NetConn Outbound.frame

/-- Where a call of `Push` stands. -/
inductive PushCall
  | idle
  /-- `IsConnected` returned true. -/
  | admitted (payload : PushPayload)
  /-- In the `select` on `c.obound` and the timer. -/
  | offering (payload : PushPayload) (content : Bytes)
  | returned (payload : PushPayload)
  deriving DecidableEq, Repr

/-- The redirector goroutine of a connection. -/
inductive Redirector
  | absent
  | waiting
  | forwarding (message : Outbound)
  | finished
  deriving DecidableEq, Repr

/-- The goroutine of `startOutgoingComms`. -/
inductive Outgoing
  | absent
  | waiting
  | received (message : Outbound)
  | writing (message : Outbound)
  | settling (message : Outbound) (written : Bool)
  | finished
  deriving DecidableEq, Repr

structure PushSystem where
  client : ClientSystem
  calls : Nat → PushCall
  tokens : Nat → Token
  redirectors : Nat → Redirector
  outgoing : Nat → Outgoing
  wires : Nat → Wire

inductive PushEvent
  | client (event : ClientEvent)
  /-- `Push` up to the answer of `IsConnected`. -/
  | push (call : Nat) (payload : PushPayload)
  /-- `Push` from its second look at the status to the `select`. -/
  | lookAgain (call : Nat)
  | timeOut (call : Nat)
  | handOver (call : Nat) (conn : Nat)
  /-- The DISCONNECT of `Disconnect`, through `c.oboundP`. -/
  | handOverDisconnect (goroutine : Nat) (conn : Nat)
  | forward (conn : Nat)
  | setDeadline (conn : Nat) (now : Nat)
  | write (conn : Nat) (now : Nat) (outcome : TransportOutcome)
  | settle (conn : Nat)
  | stopRedirector (conn : Nat)
  | stopOutgoing (conn : Nat)
  /-- The CONNECT of `connectServer`, the PINGREQ of `keepalive`, the DISCONNECT
  of `startIncoming`. -/
  | writeOther (conn : Nat) (packet : ControlPacket) (now : Nat)
      (outcome : TransportOutcome)
  deriving DecidableEq, Repr

/-- The connection whose pipeline the step starts.  A nil connection has none:
its goroutines panic at their first read or write. -/
def ClientEvent.starts (s : ClientSystem) : ClientEvent → Option Nat
  | .startComms goroutine _ _ =>
      match s.activity goroutine with
      | .startingComms conn => conn
      | _ => none
  | _ => none

/-- The connection the step closes: the one `stopCommsWorkers` takes down, or
the surplus one of `startWorkers`. -/
def ClientEvent.closes (s : ClientSystem) : ClientEvent → Option Nat
  | .stopCommsWorkers _ _ => s.conn
  | .startWorkers goroutine _ =>
      match s.activity goroutine, s.conn with
      | .starting conn, some _ => conn
      | _, _ => none
  | _ => none

namespace PushSystem

def initial : PushSystem :=
  ⟨.initial, fun _ => .idle, fun _ => .fresh, fun _ => .absent,
    fun _ => .absent, fun _ => .fresh⟩

section Updates

variable (s : PushSystem)

def setCall (call : Nat) (position : PushCall) : PushSystem :=
  { s with calls := Function.update s.calls call position }

def setToken (call : Nat) (token : Token) : PushSystem :=
  { s with tokens := Function.update s.tokens call token }

def setRedirector (conn : Nat) (position : Redirector) : PushSystem :=
  { s with redirectors := Function.update s.redirectors conn position }

def setOutgoing (conn : Nat) (position : Outgoing) : PushSystem :=
  { s with outgoing := Function.update s.outgoing conn position }

def setWire (conn : Nat) (wire : Wire) : PushSystem :=
  { s with wires := Function.update s.wires conn wire }

/-- `Push` returns with an error on the token. -/
def failCall (call : Nat) (payload : PushPayload) (error : PushError) :
    PushSystem :=
  (s.setToken call ((s.tokens call).setError error)).setCall call
    (.returned payload)

def startPipeline : Option Nat → PushSystem
  | none => s
  | some conn => (s.setRedirector conn .waiting).setOutgoing conn .waiting

def closeWire : Option Nat → PushSystem
  | none => s
  | some conn => s.setWire conn (s.wires conn).close

/-- The outgoing goroutine in front of a write; only a PUSH gets a deadline. -/
def prepareOutbound (options : PushOptions) (conn now : Nat) :
    Outbound → PushSystem
  | .push _ _ =>
      if options.writeTimeout > 0 then
        s.setWire conn ((s.wires conn).setWriteDeadline
          (now + options.writeTimeout.toNat))
      else
        s
  | .control _ => s

/-- The message is written, the outgoing goroutine goes on with the outcome. -/
def writeOutbound (conn now : Nat) (outcome : TransportOutcome)
    (message : Outbound) : PushSystem :=
  let sent := (s.wires conn).write now outcome message
  (s.setWire conn sent.2).setOutgoing conn (.settling message sent.1)

/-- The outgoing goroutine behind a write: it settles the token, takes the
deadline of a PUSH back and closes the connection behind a DISCONNECT. -/
def settleOutbound (options : PushOptions) (conn : Nat) :
    Outbound → Bool → PushSystem
  | .push call _, true =>
      (if options.writeTimeout > 0 then
        s.setWire conn (s.wires conn).clearWriteDeadline
      else
        s).setToken call (s.tokens call).flowComplete
  | .push call _, false =>
      s.setToken call ((s.tokens call).setError .writeFailed)
  | .control _, true => s.closeWire (some conn)
  | .control _, false => s

end Updates

def step (options : PushOptions) (s : PushSystem) :
    PushEvent → Option PushSystem
  | .client event =>
      (s.client.step options.toOptions event).map fun client =>
        ({ s with client }.startPipeline (event.starts s.client)).closeWire
          (event.closes s.client)
  | .push call payload =>
      if s.calls call = .idle then
        if isConnected options.toOptions s.client.status.shared then
          some (s.setCall call (.admitted payload))
        else
          some (s.failCall call payload .notConnected)
      else
        none
  | .lookAgain call =>
      match s.calls call with
      | .admitted payload =>
          if s.client.status.shared.status = .reconnecting then
            some ((s.setToken call (s.tokens call).flowComplete).setCall call
              (.returned payload))
          else
            match payload.content with
            | some content => some (s.setCall call (.offering payload content))
            | none => some (s.failCall call payload .unknownPayloadType)
      | _ => none
  | .timeOut call =>
      match s.calls call with
      | .offering payload _ => some (s.failCall call payload .brokenByTimeout)
      | _ => none
  | .handOver call conn =>
      match s.calls call, s.redirectors conn with
      | .offering payload content, .waiting =>
          some ((s.setRedirector conn (.forwarding (.push call content))).setCall
            call (.returned payload))
      | _, _ => none
  | .handOverDisconnect goroutine conn =>
      if s.client.activity goroutine = .stopping ∧
          s.redirectors conn = .waiting then
        some (s.setRedirector conn
          (.forwarding (.control (disconnectPacket Reason.normalDisconnect))))
      else
        none
  | .forward conn =>
      match s.redirectors conn, s.outgoing conn with
      | .forwarding message, .waiting =>
          some ((s.setRedirector conn .waiting).setOutgoing conn
            (.received message))
      | _, _ => none
  | .setDeadline conn now =>
      match s.outgoing conn with
      | .received message =>
          some ((s.prepareOutbound options conn now message).setOutgoing conn
            (.writing message))
      | _ => none
  | .write conn now outcome =>
      match s.outgoing conn with
      | .writing message => some (s.writeOutbound conn now outcome message)
      | _ => none
  | .settle conn =>
      match s.outgoing conn with
      | .settling message written =>
          some ((s.settleOutbound options conn message written).setOutgoing conn
            .waiting)
      | _ => none
  | .stopRedirector conn =>
      if s.redirectors conn = .waiting ∧ s.client.conn ≠ some conn then
        some (s.setRedirector conn .finished)
      else
        none
  | .stopOutgoing conn =>
      if s.redirectors conn = .finished ∧ s.outgoing conn = .waiting then
        some (s.setOutgoing conn .finished)
      else
        none
  | .writeOther conn packet now outcome =>
      if packet.messageType ≠ MessageType.push then
        some (s.setWire conn
          ((s.wires conn).write now outcome (.control packet)).2)
      else
        none

end PushSystem

end Client

end RmttGo
