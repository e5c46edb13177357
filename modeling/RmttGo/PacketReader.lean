import RmttGo.ControlPackets

/-!
# Reading control packets

`ReadPacket` takes the type byte and the length field from the stream, reads
the announced number of bytes, and lets the packet of that type unpack them.
The readers below are generic in the stream they read from; the body of a
packet is always unpacked from a flat buffer.
-/

namespace RmttGo

namespace Codec

inductive Error
  | read (failure : ReadError)
  | nonZeroFlags (flags : UInt8)
  | unsupportedPacketType (messageType : UInt8)
  | missingData
  | negativePayloadLength
  deriving DecidableEq, Repr

section Fields

variable {σ : Type} [ByteReader σ]

def liftRead {α : Type} (result : Except ReadError α) : Except Error α :=
  result.mapError .read

def decodeByte (reader : σ) : Except Error (UInt8 × σ) :=
  liftRead (readByte reader)

def bigEndianUint16 (bytes : Bytes) : UInt16 :=
  (bytes.getD 1 0).toUInt16 ||| ((bytes.getD 0 0).toUInt16 <<< 8)

def bigEndianUint32 (bytes : Bytes) : UInt32 :=
  (bytes.getD 3 0).toUInt32 ||| ((bytes.getD 2 0).toUInt32 <<< 8) |||
    ((bytes.getD 1 0).toUInt32 <<< 16) ||| ((bytes.getD 0 0).toUInt32 <<< 24)

def decodeUint16 (reader : σ) : Except Error (UInt16 × σ) := do
  let (bytes, reader) ← liftRead (readFull 2 reader)
  pure (bigEndianUint16 bytes, reader)

def decodeUint32 (reader : σ) : Except Error (UInt32 × σ) := do
  let (bytes, reader) ← liftRead (readFull 4 reader)
  pure (bigEndianUint32 bytes, reader)

/-- `decodeBytes` (and `decodeString`). -/
def decodeBytes (reader : σ) : Except Error (Bytes × σ) := do
  let (fieldLength, reader) ← decodeUint16 reader
  liftRead (readFull fieldLength.toNat reader)

end Fields

section Unpacking

variable {σ : Type} [ByteReader σ]

def ConnectPacket.unpack (packet : ConnectPacket) (reader : σ) :
    Except Error (ConnectPacket × σ) := do
  let (magicNumber, reader) ← decodeUint32 reader
  let (protocolVersion, reader) ← decodeByte reader
  let (reserved, reader) ← decodeByte reader
  let (keepalive, reader) ← decodeUint16 reader
  let (credential, reader) ← decodeBytes reader
  pure ({ packet with
    magicNumber, protocolVersion, reserved, keepalive, credential }, reader)

def ConnackPacket.unpack (packet : ConnackPacket) (reader : σ) :
    Except Error (ConnackPacket × σ) := do
  let (returnCode, reader) ← decodeByte reader
  let (serverKeepalive, reader) ← decodeUint16 reader
  pure ({ packet with returnCode, serverKeepalive }, reader)

/-- The payload is read with one bare `Read` into a zeroed slice of the
announced size: bytes it does not deliver stay zero. -/
def PushPacket.unpack (packet : PushPacket) (reader : σ) :
    Except Error (PushPacket × σ) := do
  let (reserved, reader) ← decodeByte reader
  let payloadLength : Int := packet.fixedHeader.remainingLength - 1
  if payloadLength < 0 then
    throw .negativePayloadLength
  let (chunk, reader) ← liftRead (ByteReader.read payloadLength.toNat reader)
  let payload :=
    chunk ++ List.replicate (payloadLength.toNat - chunk.length) 0
  pure ({ packet with reserved, payload }, reader)

def DisconnectPacket.unpack (packet : DisconnectPacket) (reader : σ) :
    Except Error (DisconnectPacket × σ) := do
  let (returnCode, reader) ← decodeByte reader
  pure ({ packet with returnCode }, reader)

/-- `Unpack` through the interface; the pings read nothing. -/
def ControlPacket.unpack (packet : ControlPacket) (reader : σ) :
    Except Error (ControlPacket × σ) :=
  match packet with
  | .connect packet => (packet.unpack reader).map (.map .connect id)
  | .connack packet => (packet.unpack reader).map (.map .connack id)
  | .push packet => (packet.unpack reader).map (.map .push id)
  | .pingreq packet => .ok (.pingreq packet, reader)
  | .pingresp packet => .ok (.pingresp packet, reader)
  | .disconnect packet => (packet.unpack reader).map (.map .disconnect id)

/-- `unpack`: flags are rejected before the length is read. -/
def FixedHeader.unpack (typeAndFlags : UInt8) (reader : σ) :
    Except Error (FixedHeader × σ) := do
  let messageType := typeAndFlags >>> 4
  let flags := typeAndFlags &&& 0x0F
  if flags ≠ 0x00 then
    throw (.nonZeroFlags flags)
  let (remainingLength, reader) ← liftRead (decodeLength reader)
  pure ({ messageType, flags, remainingLength }, reader)

def newControlPacketWithHeader (header : FixedHeader) :
    Except Error ControlPacket :=
  match emptyPacket header with
  | some packet => .ok packet
  | none => .error (.unsupportedPacketType header.messageType)

/-- `ReadPacket`.  On an error of `Unpack` the source also returns the half
filled packet, which no caller looks at. -/
def readPacket (reader : σ) : Except Error (ControlPacket × σ) := do
  let (typeAndFlags, reader) ← liftRead (readByte reader)
  let (header, reader) ← FixedHeader.unpack typeAndFlags reader
  let packet ← newControlPacketWithHeader header
  let (packetBytes, reader) ←
    liftRead (readFull header.remainingLength reader)
  if packetBytes.length ≠ header.remainingLength then
    throw .missingData
  let (packet, _) ← packet.unpack (⟨packetBytes⟩ : Buffer)
  pure (packet, reader)

end Unpacking

section FlatBuffer

@[simp]
theorem ok_bind {ε α β : Type} (value : α) (next : α → Except ε β) :
    ((.ok value : Except ε α) >>= next) = next value :=
  rfl

@[simp]
theorem error_bind {ε α β : Type} (failure : ε) (next : α → Except ε β) :
    ((.error failure : Except ε α) >>= next) = .error failure :=
  rfl

@[simp]
theorem liftRead_ok {α : Type} (value : α) : liftRead (.ok value) = .ok value :=
  rfl

@[simp]
theorem liftRead_error {α : Type} (failure : ReadError) :
    liftRead (.error failure : Except ReadError α) = .error (.read failure) :=
  rfl

theorem bigEndianUint16_encodeUint16 (number : UInt16) :
    bigEndianUint16 (encodeUint16 number) = number := by
  apply UInt16.toNat_inj.mp
  have bound := number.toNat_lt
  simp only [bigEndianUint16, encodeUint16, List.getD_cons_zero,
    List.getD_cons_succ, UInt16.toNat_or, UInt16.toNat_shiftLeft,
    UInt8.toNat_toUInt16, UInt16.toNat_toUInt8, UInt16.toNat_shiftRight,
    UInt16.reduceToNat, Nat.reduceMod, Nat.shiftRight_eq_div_pow]
  rw [or_shiftLeft_eq_add _ 8 16 (by omega) (by omega)]
  omega

theorem bigEndianUint32_encodeUint32 (number : UInt32) :
    bigEndianUint32 (encodeUint32 number) = number := by
  apply UInt32.toNat_inj.mp
  have bound := number.toNat_lt
  simp only [bigEndianUint32, encodeUint32, List.getD_cons_zero,
    List.getD_cons_succ, UInt32.toNat_or, UInt32.toNat_shiftLeft,
    UInt8.toNat_toUInt32, UInt32.toNat_toUInt8, UInt32.toNat_shiftRight,
    UInt32.reduceToNat, Nat.reduceMod, Nat.shiftRight_eq_div_pow]
  rw [@or_shiftLeft_eq_add (number.toNat % 2 ^ 8) _ 8 32 (by omega) (by omega),
    or_shiftLeft_eq_add _ 16 32 (by omega) (by omega),
    or_shiftLeft_eq_add _ 24 32 (by omega) (by omega)]
  omega

@[simp]
theorem decodeByte_cons (byte : UInt8) (rest : Bytes) :
    decodeByte (⟨byte :: rest⟩ : Buffer) = .ok (byte, ⟨rest⟩) := by
  simp [decodeByte]

@[simp]
theorem decodeUint16_append (number : UInt16) (rest : Bytes) :
    decodeUint16 (⟨encodeUint16 number ++ rest⟩ : Buffer) =
      .ok (number, ⟨rest⟩) := by
  have read := Buffer.readFull_append (encodeUint16 number) rest
  rw [encodeUint16_length] at read
  simp [decodeUint16, read, bigEndianUint16_encodeUint16]

@[simp]
theorem decodeUint32_append (number : UInt32) (rest : Bytes) :
    decodeUint32 (⟨encodeUint32 number ++ rest⟩ : Buffer) =
      .ok (number, ⟨rest⟩) := by
  have read := Buffer.readFull_append (encodeUint32 number) rest
  rw [encodeUint32_length] at read
  simp [decodeUint32, read, bigEndianUint32_encodeUint32]

/-- The 16-bit length of a field is its length modulo `2 ^ 16`; the rest of a
longer field is left unread. -/
theorem decodeBytes_encodeBytes (field rest : Bytes) :
    decodeBytes (⟨encodeBytes field ++ rest⟩ : Buffer) =
      .ok (field.take (field.length % 65536),
        ⟨field.drop (field.length % 65536) ++ rest⟩) := by
  have length : (UInt16.ofNat field.length).toNat = field.length % 65536 :=
    UInt16.toNat_ofNat'
  have short : (field.take (field.length % 65536)).length =
      field.length % 65536 :=
    List.length_take_of_le (Nat.mod_le _ _)
  have isRead := Buffer.readFull_append (field.take (field.length % 65536))
    (field.drop (field.length % 65536) ++ rest)
  rw [short, ← List.append_assoc, List.take_append_drop] at isRead
  rw [encodeBytes, List.append_assoc, decodeBytes, decodeUint16_append]
  simp [length, isRead]

/-- A field of at most 65535 bytes comes back whole: its length survives the
conversion to 16 bits. -/
theorem decodeBytes_append {field : Bytes} (short : field.length ≤ 65535)
    (rest : Bytes) :
    decodeBytes (⟨encodeBytes field ++ rest⟩ : Buffer) =
      .ok (field, ⟨rest⟩) := by
  rw [decodeBytes_encodeBytes, Nat.mod_eq_of_lt (Nat.lt_succ_of_le short),
    List.take_length, List.drop_length, List.nil_append]

end FlatBuffer

end Codec

end RmttGo
