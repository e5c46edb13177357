import RmttGo.LengthField

/-!
# Control packets and their frames

The six control packets of the protocol with their fixed header, and the
bytes each `Write` hands to its writer.  Every `Write` assembles the whole
frame first and passes it on in a single call.
-/

namespace RmttGo

namespace Codec

/-- Go strings and byte slices are byte sequences of any content. -/
abbrev Bytes := List UInt8

namespace MessageType

def connect : UInt8 := 1
def connack : UInt8 := 2
def push : UInt8 := 3
def pingreq : UInt8 := 5
def pingresp : UInt8 := 6
def disconnect : UInt8 := 14

end MessageType

structure FixedHeader where
  messageType : UInt8
  flags : UInt8
  remainingLength : Nat
  deriving DecidableEq, Repr

/-- `pack`: the type in the high nibble, no flags, then the length. -/
def FixedHeader.pack (header : FixedHeader) : Bytes :=
  (header.messageType <<< 4 ||| 0x00) :: encodeLength header.remainingLength

/-- The header `NewControlPacket` gives a packet of the given type. -/
def FixedHeader.ofType (messageType : UInt8) : FixedHeader :=
  { messageType, flags := 0, remainingLength := 0 }

structure ConnectPacket where
  fixedHeader : FixedHeader
  magicNumber : UInt32
  protocolVersion : UInt8
  reserved : UInt8
  keepalive : UInt16
  credential : Bytes
  deriving DecidableEq, Repr

structure ConnackPacket where
  fixedHeader : FixedHeader
  returnCode : UInt8
  serverKeepalive : UInt16
  deriving DecidableEq, Repr

structure PushPacket where
  fixedHeader : FixedHeader
  reserved : UInt8
  payload : Bytes
  deriving DecidableEq, Repr

structure PingreqPacket where
  fixedHeader : FixedHeader
  deriving DecidableEq, Repr

structure PingrespPacket where
  fixedHeader : FixedHeader
  deriving DecidableEq, Repr

structure DisconnectPacket where
  fixedHeader : FixedHeader
  returnCode : UInt8
  deriving DecidableEq, Repr

/-- The values behind the `ControlPacket` interface. -/
inductive ControlPacket
  | connect (packet : ConnectPacket)
  | connack (packet : ConnackPacket)
  | push (packet : PushPacket)
  | pingreq (packet : PingreqPacket)
  | pingresp (packet : PingrespPacket)
  | disconnect (packet : DisconnectPacket)
  deriving DecidableEq, Repr

/-- The empty packet of the type carried by a header; `none` for a type the
protocol does not have. -/
def emptyPacket (header : FixedHeader) : Option ControlPacket :=
  if header.messageType = MessageType.connect then
    some (.connect ⟨header, 0, 0, 0, 0, []⟩)
  else if header.messageType = MessageType.connack then
    some (.connack ⟨header, 0, 0⟩)
  else if header.messageType = MessageType.disconnect then
    some (.disconnect ⟨header, 0⟩)
  else if header.messageType = MessageType.push then
    some (.push ⟨header, 0, []⟩)
  else if header.messageType = MessageType.pingreq then
    some (.pingreq ⟨header⟩)
  else if header.messageType = MessageType.pingresp then
    some (.pingresp ⟨header⟩)
  else
    none

def newControlPacket (packetType : UInt8) : Option ControlPacket :=
  emptyPacket (FixedHeader.ofType packetType)

section Encoding

def encodeUint16 (number : UInt16) : Bytes :=
  [(number >>> 8).toUInt8, number.toUInt8]

def encodeUint32 (number : UInt32) : Bytes :=
  [(number >>> 24).toUInt8, (number >>> 16).toUInt8, (number >>> 8).toUInt8,
    number.toUInt8]

/-- `encodeBytes` (and `encodeString`): the length is converted to 16 bits
without a check. -/
def encodeBytes (field : Bytes) : Bytes :=
  encodeUint16 (UInt16.ofNat field.length) ++ field

@[simp]
theorem encodeUint16_length (number : UInt16) :
    (encodeUint16 number).length = 2 :=
  rfl

@[simp]
theorem encodeUint32_length (number : UInt32) :
    (encodeUint32 number).length = 4 :=
  rfl

@[simp]
theorem encodeBytes_length (field : Bytes) :
    (encodeBytes field).length = field.length + 2 := by
  simp [encodeBytes]
  omega

end Encoding

/-! Each `write` returns the bytes handed to the writer and the packet as the
call leaves it: all but the two pings set their remaining length. -/

def ConnectPacket.body (packet : ConnectPacket) : Bytes :=
  encodeUint32 packet.magicNumber ++ [packet.protocolVersion] ++
    [packet.reserved] ++ encodeUint16 packet.keepalive ++
    encodeBytes packet.credential

def ConnectPacket.write (packet : ConnectPacket) : Bytes × ConnectPacket :=
  let header := { packet.fixedHeader with
    remainingLength := packet.body.length }
  (header.pack ++ packet.body, { packet with fixedHeader := header })

def ConnackPacket.body (packet : ConnackPacket) : Bytes :=
  [packet.returnCode] ++ encodeUint16 packet.serverKeepalive

def ConnackPacket.write (packet : ConnackPacket) : Bytes × ConnackPacket :=
  let header := { packet.fixedHeader with remainingLength := 3 }
  (header.pack ++ packet.body, { packet with fixedHeader := header })

/-- The reserved byte on the wire is always zero, whatever the field holds. -/
def PushPacket.write (packet : PushPacket) : Bytes × PushPacket :=
  let body : Bytes := [0x00]
  let header := { packet.fixedHeader with
    remainingLength := body.length + packet.payload.length }
  (header.pack ++ body ++ packet.payload,
    { packet with fixedHeader := header })

def PingreqPacket.write (packet : PingreqPacket) : Bytes × PingreqPacket :=
  (packet.fixedHeader.pack, packet)

def PingrespPacket.write (packet : PingrespPacket) : Bytes × PingrespPacket :=
  (packet.fixedHeader.pack, packet)

def DisconnectPacket.write (packet : DisconnectPacket) :
    Bytes × DisconnectPacket :=
  let body : Bytes := [packet.returnCode]
  let header := { packet.fixedHeader with remainingLength := 1 }
  (header.pack ++ body, { packet with fixedHeader := header })

namespace ControlPacket

def write : ControlPacket → Bytes × ControlPacket
  | connect packet => packet.write.map id connect
  | connack packet => packet.write.map id connack
  | push packet => packet.write.map id push
  | pingreq packet => packet.write.map id pingreq
  | pingresp packet => packet.write.map id pingresp
  | disconnect packet => packet.write.map id disconnect

/-- The bytes one `Write` hands to its writer. -/
def frame (packet : ControlPacket) : Bytes :=
  packet.write.1

def fixedHeader : ControlPacket → FixedHeader
  | connect packet => packet.fixedHeader
  | connack packet => packet.fixedHeader
  | push packet => packet.fixedHeader
  | pingreq packet => packet.fixedHeader
  | pingresp packet => packet.fixedHeader
  | disconnect packet => packet.fixedHeader

/-- The type constant belonging to the packet's Go type. -/
def messageType : ControlPacket → UInt8
  | connect _ => MessageType.connect
  | connack _ => MessageType.connack
  | push _ => MessageType.push
  | pingreq _ => MessageType.pingreq
  | pingresp _ => MessageType.pingresp
  | disconnect _ => MessageType.disconnect

/-- The type of a packet together with its application fields: everything
but the fixed header. -/
inductive Content
  | connect (magicNumber : UInt32) (protocolVersion reserved : UInt8)
      (keepalive : UInt16) (credential : Bytes)
  | connack (returnCode : UInt8) (serverKeepalive : UInt16)
  | push (reserved : UInt8) (payload : Bytes)
  | pingreq
  | pingresp
  | disconnect (returnCode : UInt8)
  deriving DecidableEq, Repr

def content : ControlPacket → Content
  | connect packet => .connect packet.magicNumber packet.protocolVersion
      packet.reserved packet.keepalive packet.credential
  | connack packet => .connack packet.returnCode packet.serverKeepalive
  | push packet => .push packet.reserved packet.payload
  | pingreq _ => .pingreq
  | pingresp _ => .pingresp
  | disconnect packet => .disconnect packet.returnCode

theorem write_content (packet : ControlPacket) :
    packet.write.2.content = packet.content := by
  cases packet <;> rfl

end ControlPacket

/-! The reasons of a DISCONNECT that the code names. -/

namespace Reason

def normalDisconnect : UInt8 := 0x00
def sessionTakenOver : UInt8 := 0x02
def serverShutdown : UInt8 := 0x03
def protocolViolation : UInt8 := 0x04
def keepaliveTimeout : UInt8 := 0x05

end Reason

/-! Packets that client and server build with `NewControlPacket`. -/

def pushPacket (payload : Bytes) : ControlPacket :=
  .push ⟨.ofType MessageType.push, 0, payload⟩

def disconnectPacket (reason : UInt8) : ControlPacket :=
  .disconnect ⟨.ofType MessageType.disconnect, reason⟩

end Codec

end RmttGo
