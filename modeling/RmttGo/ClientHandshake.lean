import RmttGo.LengthLimits
import RmttGo.ServerSystem
import RmttGo.StreamRoundTrip

/-!
# The handshake as the client runs it

The client proposes its heartbeat in the CONNECT and stores the keepalive of the
CONNACK.  The proposal is a 16-bit field of a packet of any length; this file
also shows that the server either reads it as it was written or does not take
the packet for a CONNECT of the protocol.
-/

namespace RmttGo

namespace Client

open Codec

section Proposal

/-- What the handshake reads of `ClientOptions`. -/
structure ConnectOptions where
  protocolVersion : Nat
  credential : Bytes
  heartbeat : Int
  adaptiveHeartbeat : Bool
  adaptiveShort : Int
  adaptiveMax : Int
  deriving DecidableEq, Repr

namespace ConnectOptions

/-- `SetAdaptiveHeartbeat` leaves the options alone when it rejects a value. -/
def setAdaptiveHeartbeat (options : ConnectOptions)
    (shortSeconds maxSeconds : Int) : ConnectOptions :=
  if shortSeconds < 1 then
    options
  else if maxSeconds < shortSeconds then
    options
  else
    { options with
      adaptiveHeartbeat := true
      adaptiveShort := shortSeconds
      adaptiveMax := maxSeconds }

/-- The seconds the client configures: the fixed heartbeat, or the longest
adaptive one. -/
def seconds (options : ConnectOptions) : Int :=
  if options.adaptiveHeartbeat then options.adaptiveMax else options.heartbeat

/-- A heartbeat that is not negative, or adaptive values as
`SetAdaptiveHeartbeat` accepts them. -/
def Configured (options : ConnectOptions) : Prop :=
  if options.adaptiveHeartbeat then
    1 ≤ options.adaptiveShort ∧ options.adaptiveShort ≤ options.adaptiveMax
  else
    0 ≤ options.heartbeat

instance (options : ConnectOptions) : Decidable options.Configured :=
  inferInstanceAs (Decidable (ite _ _ _))

theorem Configured.setAdaptiveHeartbeat {options : ConnectOptions}
    (configured : options.Configured) (shortSeconds maxSeconds : Int) :
    (options.setAdaptiveHeartbeat shortSeconds maxSeconds).Configured := by
  unfold ConnectOptions.setAdaptiveHeartbeat
  split
  · exact configured
  split
  · exact configured
  · have atLeast : 1 ≤ shortSeconds := by omega
    have ordered : shortSeconds ≤ maxSeconds := by omega
    exact ⟨atLeast, ordered⟩

theorem Configured.seconds_nonneg {options : ConnectOptions}
    (configured : options.Configured) : 0 ≤ options.seconds := by
  unfold Configured at configured
  unfold seconds
  split at configured
  · rw [if_pos ‹_›]
    omega
  · rw [if_neg ‹_›]
    exact configured

end ConnectOptions

def newConnectMsgFromOptions (options : ConnectOptions) : ConnectPacket where
  fixedHeader := .ofType MessageType.connect
  magicNumber := 0x637a7175
  protocolVersion := .ofNat options.protocolVersion
  reserved := 0
  keepalive := .ofInt options.seconds
  credential := options.credential

end Proposal

section Answer

/-- `ErrNetworkError`. -/
def networkError : UInt8 := 0xFE

/-- `verifyCONNACK`: any other packet and any error count as a network
error. -/
def verifyCONNACK (conn : Buffer) : UInt8 × UInt16 :=
  match readPacket conn with
  | .ok (.connack msg, _) => (msg.returnCode, msg.serverKeepalive)
  | _ => (networkError, 0)

/-- The loop of `attemptConnection` over what the servers answer, `none` for
one that cannot be reached.  It returns the last return code and the keepalive
that is stored then. -/
def attemptConnection (rc : UInt8) (serverKp : Int) :
    List (Option Buffer) → UInt8 × Int
  | [] => (rc, serverKp)
  | none :: servers => attemptConnection networkError serverKp servers
  | some conn :: servers =>
      let (rc, kp) := verifyCONNACK conn
      if rc = Server.ReturnCode.accepted then
        (rc, kp.toNat)
      else
        attemptConnection rc serverKp servers

theorem attemptConnection_of_accepted {failed untried : List (Option Buffer)}
    {conn : Buffer} {kp : UInt16} (rc : UInt8) (serverKp : Int)
    (refused : ∀ other, some other ∈ failed →
      (verifyCONNACK other).1 ≠ Server.ReturnCode.accepted)
    (verified : verifyCONNACK conn = (Server.ReturnCode.accepted, kp)) :
    attemptConnection rc serverKp (failed ++ some conn :: untried) =
      (Server.ReturnCode.accepted, (kp.toNat : Int)) := by
  induction failed generalizing rc with
  | nil =>
      simp only [List.nil_append, attemptConnection, verified]
      rfl
  | cons server failed induction =>
      have refusedLater := fun other member =>
        refused other (List.mem_cons_of_mem _ member)
      cases server with
      | none => exact induction networkError refusedLater
      | some other =>
          simp only [List.cons_append, attemptConnection]
          rw [if_neg (refused other List.mem_cons_self)]
          exact induction _ refusedLater

theorem verifyCONNACK_connack (returnCode : UInt8) (kp : UInt16)
    (behind : Bytes) :
    verifyCONNACK ⟨(Server.connackPacket returnCode kp).frame ++ behind⟩ =
      (returnCode, kp) := by
  have representable : (Server.connackPacket returnCode kp).Representable :=
    ⟨rfl, trivial⟩
  rw [verifyCONNACK, readPacket_frame_append representable]
  rfl

end Answer

section Transmission

theorem toNat_bigEndianUint32 (first second third fourth : UInt8)
    (tail : Bytes) :
    (bigEndianUint32 (first :: second :: third :: fourth :: tail)).toNat =
      fourth.toNat + third.toNat * 2 ^ 8 + second.toNat * 2 ^ 16 +
        first.toNat * 2 ^ 24 := by
  have firstBound := first.toNat_lt
  have secondBound := second.toNat_lt
  have thirdBound := third.toNat_lt
  have fourthBound := fourth.toNat_lt
  simp only [bigEndianUint32, List.getD_cons_zero, List.getD_cons_succ,
    UInt32.toNat_or, UInt32.toNat_shiftLeft, UInt8.toNat_toUInt32,
    UInt32.reduceToNat, Nat.reduceMod]
  rw [@or_shiftLeft_eq_add fourth.toNat _ 8 32 (by omega) (by omega),
    or_shiftLeft_eq_add _ 16 32 (by omega) (by omega),
    or_shiftLeft_eq_add _ 24 32 (by omega) (by omega)]

/-- A length field of more than four digits shifts the body, which then does not
start with the magic number. -/
theorem magic_of_shifted {connect : ConnectPacket} {length : Nat}
    {body rest behind : Bytes} (magic : connect.magicNumber = 0x637a7175)
    (long : 10 ≤ body.length)
    (shifted : body ++ rest = encodeLength length ++ (connect.body ++ behind)) :
    bigEndianUint32 body ≠ 0x637a7175 := by
  obtain ⟨first, second, third, fourth, _, _, _, _, _, _, tail, rfl⟩ :=
    exists_of_ten_le_length long
  intro isMagic
  have value := congrArg UInt32.toNat isMagic
  rw [toNat_bigEndianUint32] at value
  have firstBound := first.toNat_lt
  have secondBound := second.toNat_lt
  have thirdBound := third.toNat_lt
  have fourthBound := fourth.toNat_lt
  have bytes : first.toNat = 0x63 ∧ second.toNat = 0x7a := by
    change _ = 0x637a7175 at value
    omega
  by_cases small : length < 128
  · rw [encodeLength_of_lt small, ConnectPacket.body, magic] at shifted
    have isSecond : second = (encodeUint32 0x637a7175).getD 0 0 :=
      congrArg (fun list : Bytes => list.getD 1 0) shifted
    rw [isSecond] at bytes
    exact absurd bytes.2 (by decide)
  · rw [encodeLength_of_ge (Nat.le_of_not_lt small)] at shifted
    have isFirst := (List.cons.inj shifted).1
    rw [isFirst, toNat_continued (Nat.mod_lt length (by omega))] at bytes
    omega

theorem keepalive_of_body (connect : ConnectPacket) :
    bigEndianUint16 (connect.body.drop 6) = connect.keepalive :=
  bigEndianUint16_encodeUint16 connect.keepalive

/-- Whatever the length of the credential, the proposal is read as written. -/
theorem keepalive_of_readPacket {connect packet : ConnectPacket}
    {behind : Bytes} {rest : Buffer}
    (magic : connect.magicNumber = 0x637a7175)
    (isRead : readPacket
      (⟨(ControlPacket.connect connect).frame ++ behind⟩ : Buffer) =
        .ok (.connect packet, rest))
    (isMagic : packet.magicNumber = 0x637a7175) :
    packet.keepalive = connect.keepalive := by
  obtain ⟨rest⟩ := rest
  obtain ⟨_, split, packetType, digits, body, rfl, taken, announced, long,
    isPacket⟩ := (readPacket_accepts _ _ _).mp isRead
  cases packetType <;> cases isPacket
  change _ :: (encodeLength connect.body.length ++ connect.body) ++ behind = _
    at split
  have tail := (List.cons.inj split).2
  change (encodeLength connect.body.length ++ connect.body) ++ behind =
    (digits ++ body) ++ rest at tail
  rw [List.append_assoc, List.append_assoc] at tail
  by_cases fits : connect.body.length < 2 ^ 28
  · obtain ⟨sameLength, sameTail⟩ := decodeLength_accepts.unique
      (lengthDigits_encodeLength fits) ⟨taken, rfl⟩ tail
    rw [← announced] at sameLength
    obtain ⟨rfl, -⟩ := List.append_inj sameTail sameLength
    exact keepalive_of_body connect
  · obtain ⟨continued, four, allContinue, -, encoded⟩ :=
      encodeLength_of_large 4 (Nat.le_of_not_lt fits)
    have isContinued := LengthDigits.of_all_continue allContinue
    rw [four] at isContinued
    rw [encoded, List.append_assoc] at tail
    obtain ⟨-, shifted⟩ := decodeLength_accepts.unique
      ⟨taken, rfl⟩ ⟨isContinued, rfl⟩ tail.symm
    exact absurd isMagic
      (magic_of_shifted magic (Nat.le_of_add_right_le long) shifted)

end Transmission

end Client

end RmttGo
