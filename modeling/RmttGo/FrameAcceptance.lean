import RmttGo.ExactParsing
import RmttGo.PacketReader

/-!
# What `ReadPacket` accepts

The frames the protocol describes, by the type of their packet and the bytes of
their body, and the proof that `ReadPacket` accepts these and no others: one
grammar per reader of the codec, composed in the order in which the code reads.
-/

namespace RmttGo

namespace Codec

inductive PacketType
  | connect
  | connack
  | push
  | pingreq
  | pingresp
  | disconnect
  deriving DecidableEq, Repr

namespace PacketType

def code : PacketType → UInt8
  | connect => 1
  | connack => 2
  | push => 3
  | pingreq => 5
  | pingresp => 6
  | disconnect => 14

theorem code_injective : Function.Injective code := by
  intro packetType other
  cases packetType <;> cases other <;> simp [code]

/-- The least length of a body of the type; that of a CONNECT depends on the
credential length it announces. -/
def minimum (body : Bytes) : PacketType → Nat
  | connect => 10 + (bigEndianUint16 (body.drop 8)).toNat
  | connack => 3
  | push => 1
  | pingreq => 0
  | pingresp => 0
  | disconnect => 1

/-- The packet whose fields stand at their fixed offsets in the body. -/
def packet (header : FixedHeader) (body : Bytes) : PacketType → ControlPacket
  | connect => .connect ⟨header, bigEndianUint32 body, body.getD 4 0,
      body.getD 5 0, bigEndianUint16 (body.drop 6),
      (body.drop 10).take (bigEndianUint16 (body.drop 8)).toNat⟩
  | connack => .connack
      ⟨header, body.getD 0 0, bigEndianUint16 (body.drop 1)⟩
  | push => .push ⟨header, body.getD 0 0, body.drop 1⟩
  | pingreq => .pingreq ⟨header⟩
  | pingresp => .pingresp ⟨header⟩
  | disconnect => .disconnect ⟨header, body.getD 0 0⟩

def empty (header : FixedHeader) : PacketType → ControlPacket
  | connect => .connect ⟨header, 0, 0, 0, 0, []⟩
  | connack => .connack ⟨header, 0, 0⟩
  | push => .push ⟨header, 0, []⟩
  | pingreq => .pingreq ⟨header⟩
  | pingresp => .pingresp ⟨header⟩
  | disconnect => .disconnect ⟨header, 0⟩

theorem emptyPacket_eq_some_iff {header : FixedHeader}
    {controlPacket : ControlPacket} :
    emptyPacket header = some controlPacket ↔
      ∃ packetType : PacketType, header.messageType = packetType.code ∧
        controlPacket = packetType.empty header := by
  constructor
  · intro built
    unfold emptyPacket at built
    split at built
    · exact ⟨connect, ‹_›, (Option.some.inj built).symm⟩
    split at built
    · exact ⟨connack, ‹_›, (Option.some.inj built).symm⟩
    split at built
    · exact ⟨disconnect, ‹_›, (Option.some.inj built).symm⟩
    split at built
    · exact ⟨push, ‹_›, (Option.some.inj built).symm⟩
    split at built
    · exact ⟨pingreq, ‹_›, (Option.some.inj built).symm⟩
    split at built
    · exact ⟨pingresp, ‹_›, (Option.some.inj built).symm⟩
    · cases built
  · rintro ⟨packetType, isType, rfl⟩
    cases packetType <;>
      simp [emptyPacket, isType, code, empty, MessageType.connect,
        MessageType.connack, MessageType.disconnect, MessageType.push,
        MessageType.pingreq, MessageType.pingresp]

end PacketType

section LengthField

/-- The number written in base 128, least significant digit first. -/
def lengthValue : Bytes → Nat
  | [] => 0
  | digit :: digits => digit.toNat % 128 + 128 * lengthValue digits

/-- Only the last digit has its high bit clear. -/
def EndsAtLast (digits : Bytes) : Prop :=
  ∃ continued last, digits = continued ++ [last] ∧
    (∀ digit ∈ continued, 128 ≤ digit.toNat) ∧ last.toNat < 128

/-- The digits `decodeLength` takes while it has room for some more. -/
inductive LengthDigits : Nat → Bytes → Prop
  | full : LengthDigits 0 []
  | last {room : Nat} {digit : UInt8} :
      digit.toNat < 128 → LengthDigits (room + 1) [digit]
  | more {room : Nat} {digit : UInt8} {digits : Bytes} :
      128 ≤ digit.toNat → LengthDigits room digits →
        LengthDigits (room + 1) (digit :: digits)

theorem LengthDigits.cons_iff_of_lt {room : Nat} {digit : UInt8}
    {digits : Bytes} (terminates : digit.toNat < 128) :
    LengthDigits (room + 1) (digit :: digits) ↔ digits = [] := by
  constructor
  · intro taken
    cases taken with
    | last _ => rfl
    | more continues _ => omega
  · rintro rfl
    exact .last terminates

theorem LengthDigits.cons_iff_of_ge {room : Nat} {digit : UInt8}
    {digits : Bytes} (continues : 128 ≤ digit.toNat) :
    LengthDigits (room + 1) (digit :: digits) ↔ LengthDigits room digits := by
  constructor
  · intro taken
    cases taken with
    | last terminates => omega
    | more _ taken => exact taken
  · exact .more continues

/-- While there is room, a first byte of the stream is a first digit. -/
theorem LengthDigits.exists_front_iff {room : Nat} {digit : UInt8}
    {bytes rest : Bytes} {Value : Bytes → Prop} :
    (∃ front, digit :: bytes = front ++ rest ∧
        LengthDigits (room + 1) front ∧ Value front) ↔
      ∃ digits, bytes = digits ++ rest ∧
        LengthDigits (room + 1) (digit :: digits) ∧ Value (digit :: digits) := by
  constructor
  · rintro ⟨front, isSplit, taken, value⟩
    cases front with
    | nil => cases taken
    | cons first digits =>
        obtain ⟨rfl, rfl⟩ := List.cons.inj isSplit
        exact ⟨digits, rfl, taken, value⟩
  · rintro ⟨digits, rfl, taken, value⟩
    exact ⟨digit :: digits, rfl, taken, value⟩

theorem LengthDigits.endsAtLast_or_full {room : Nat} {digits : Bytes}
    (taken : LengthDigits room digits) :
    EndsAtLast digits ∨
      digits.length = room ∧ ∀ digit ∈ digits, 128 ≤ digit.toNat := by
  induction taken with
  | full => exact .inr ⟨rfl, nofun⟩
  | last terminates => exact .inl ⟨[], _, rfl, nofun, terminates⟩
  | more continues _ induction =>
      rcases induction with ⟨continued, last, rfl, allContinue, terminates⟩ |
        ⟨length, allContinue⟩
      · exact .inl ⟨_ :: continued, last, rfl,
          List.forall_mem_cons.mpr ⟨continues, allContinue⟩, terminates⟩
      · exact .inr ⟨congrArg (· + 1) length,
          List.forall_mem_cons.mpr ⟨continues, allContinue⟩⟩

theorem LengthDigits.of_endsAtLast {room : Nat} {continued : Bytes}
    {last : UInt8} (allContinue : ∀ digit ∈ continued, 128 ≤ digit.toNat)
    (terminates : last.toNat < 128) (short : continued.length < room) :
    LengthDigits room (continued ++ [last]) := by
  induction continued generalizing room with
  | nil =>
      obtain ⟨room, rfl⟩ := Nat.exists_eq_succ_of_ne_zero (Nat.ne_of_gt short)
      exact .last terminates
  | cons digit continued induction =>
      obtain ⟨continues, allContinue⟩ := List.forall_mem_cons.mp allContinue
      rw [List.length_cons] at short
      obtain ⟨room, rfl⟩ := Nat.exists_eq_add_of_lt
        (Nat.lt_of_le_of_lt (Nat.zero_le _) short)
      simp only [Nat.zero_add, List.cons_append] at short ⊢
      exact .more continues (induction allContinue (Nat.lt_of_succ_lt_succ short))

theorem LengthDigits.length_le {room : Nat} {digits : Bytes}
    (taken : LengthDigits room digits) :
    digits.length ≤ room := by
  induction taken with
  | full => exact Nat.le_refl 0
  | last => exact Nat.succ_le_succ (Nat.zero_le _)
  | more _ _ induction => exact Nat.succ_le_succ induction

theorem lengthValue_lt (digits : Bytes) :
    lengthValue digits < 128 ^ digits.length := by
  induction digits with
  | nil => exact Nat.one_pos
  | cons digit digits induction =>
      rw [lengthValue, List.length_cons, Nat.pow_succ]
      omega

theorem LengthDigits.lengthValue_lt {digits : Bytes}
    (taken : LengthDigits 4 digits) :
    lengthValue digits < 2 ^ 28 :=
  calc lengthValue digits < 128 ^ digits.length := Codec.lengthValue_lt digits
    _ ≤ 128 ^ 4 := Nat.pow_le_pow_right (by omega) taken.length_le
    _ = 2 ^ 28 := by norm_num

theorem toNat_accumulate_lt {rLength multiplier : UInt32} (digit : UInt8)
    (shift : multiplier.toNat ≤ 21)
    (below : rLength.toNat < 2 ^ multiplier.toNat) :
    (rLength ||| ((digit &&& 127).toUInt32 <<< multiplier)).toNat <
      2 ^ (multiplier + 7).toNat := by
  have digitBelow : digit.toNat % 128 * 2 ^ multiplier.toNat ≤
      127 * 2 ^ multiplier.toNat :=
    Nat.mul_le_mul_right _ (by omega)
  rw [toNat_accumulate digit shift below, toNat_next_multiplier shift,
    Nat.pow_add]
  omega

/-- The loop of `decodeLength` at any place of the field. -/
theorem decodeLengthLoop_accepts {rLength multiplier : UInt32} {room : Nat}
    (place : multiplier.toNat + 7 * room = 28)
    (below : rLength.toNat < 2 ^ multiplier.toNat) :
    Accepts (decodeLengthLoop rLength multiplier) (fun digits result =>
      LengthDigits room digits ∧ result.toNat =
        rLength.toNat + lengthValue digits * 2 ^ multiplier.toNat) := by
  induction room generalizing rLength multiplier with
  | zero =>
      have left : ¬ multiplier < 27 := by
        change ¬ multiplier.toNat < 27
        omega
      intro bytes result rest
      rw [decodeLengthLoop, dif_neg left]
      apply ((Accepts.pure rLength).congr _) bytes result rest
      intro digits result
      rw [← UInt32.toNat_inj]
      constructor
      · rintro ⟨rfl, resultIs⟩
        exact ⟨.full, by simpa [lengthValue] using resultIs⟩
      · rintro ⟨⟨⟩, resultIs⟩
        exact ⟨rfl, by simpa [lengthValue] using resultIs⟩
  | succ room induction =>
      have shift : multiplier.toNat ≤ 21 := by omega
      have bounded : multiplier < 27 := by
        change multiplier.toNat < 27
        omega
      have next := toNat_next_multiplier shift
      intro bytes result rest
      cases bytes with
      | nil =>
          rw [decodeLengthLoop_nil bounded]
          constructor
          · intro accepted
            cases accepted
          · rintro ⟨digits, empty, taken, -⟩
            obtain ⟨rfl, -⟩ := List.append_eq_nil_iff.mp empty.symm
            cases taken
      | cons digit bytes =>
          rw [LengthDigits.exists_front_iff]
          by_cases terminates : digit.toNat < 128
          · rw [decodeLengthLoop_terminate _ bounded terminates, Except.ok.injEq,
              Prod.mk.injEq, Buffer.mk.injEq, ← UInt32.toNat_inj,
              toNat_accumulate digit shift below]
            simp only [LengthDigits.cons_iff_of_lt terminates]
            constructor
            · rintro ⟨resultIs, rfl⟩
              exact ⟨[], rfl, rfl, by rw [← resultIs]; simp [lengthValue]⟩
            · rintro ⟨_, rfl, rfl, resultIs⟩
              exact ⟨by rw [resultIs]; simp [lengthValue], rfl⟩
          · have continues := Nat.le_of_not_lt terminates
            have value (digits : Bytes) :
                rLength.toNat + digit.toNat % 128 * 2 ^ multiplier.toNat +
                    lengthValue digits * 2 ^ (multiplier.toNat + 7) =
                  rLength.toNat + lengthValue (digit :: digits) *
                    2 ^ multiplier.toNat := by
              rw [lengthValue]
              ring
            rw [decodeLengthLoop_continue _ bounded continues,
              induction (by omega) (toNat_accumulate_lt digit shift below),
              toNat_accumulate digit shift below, next]
            simp only [LengthDigits.cons_iff_of_ge continues, value]

theorem decodeLength_accepts :
    Accepts decodeLength (fun digits length =>
      LengthDigits 4 digits ∧ length = lengthValue digits) := by
  have loop := @decodeLengthLoop_accepts 0 0 4 (by decide) (by decide)
  apply (loop.map UInt32.toNat).congr
  intro digits length
  simp only [UInt32.toNat_zero, Nat.zero_add, Nat.pow_zero, Nat.mul_one]
  constructor
  · rintro ⟨result, ⟨taken, resultIs⟩, rfl⟩
    exact ⟨taken, resultIs⟩
  · rintro ⟨taken, rfl⟩
    have value : (UInt32.ofNat (lengthValue digits)).toNat =
        lengthValue digits :=
      UInt32.toNat_ofNat_of_lt'
        (lt_trans taken.lengthValue_lt (by decide))
    exact ⟨_, ⟨taken, value⟩, value.symm⟩

theorem lengthDigits_encodeLength {length : Nat} (fits : length < 2 ^ 28) :
    LengthDigits 4 (encodeLength length) ∧
      length = lengthValue (encodeLength length) := by
  obtain ⟨digits, same, taken⟩ := (decodeLength_accepts _ _ _).mp
    (decodeLength_encodeLength [] fits)
  rw [List.append_cancel_right same]
  exact taken

end LengthField

section Fields

theorem readByte_accepts :
    Accepts readByte (fun front byte => front = [byte]) := by
  apply ((Accepts.readFull 1).map (·.headD 0)).congr
  intro front byte
  constructor
  · rintro ⟨_, ⟨rfl, single⟩, rfl⟩
    obtain ⟨byte, rfl⟩ := List.length_eq_one_iff.mp single
    rfl
  · rintro rfl
    exact ⟨_, ⟨rfl, rfl⟩, rfl⟩

theorem decodeByte_accepts :
    Accepts decodeByte (fun front byte => front = [byte]) :=
  readByte_accepts.mapError Error.read

theorem decodeUint16_accepts :
    Accepts decodeUint16 (fun front number =>
      ∃ high low, front = [high, low] ∧
        number = bigEndianUint16 [high, low]) := by
  apply (((Accepts.readFull 2).mapError Error.read).map bigEndianUint16).congr
  intro front number
  constructor
  · rintro ⟨_, ⟨rfl, two⟩, rfl⟩
    obtain ⟨high, low, rfl⟩ := List.length_eq_two.mp two
    exact ⟨high, low, rfl, rfl⟩
  · rintro ⟨high, low, rfl, rfl⟩
    exact ⟨_, ⟨rfl, rfl⟩, rfl⟩

theorem exists_of_length_eq_four {bytes : Bytes} (four : bytes.length = 4) :
    ∃ first second third fourth, bytes = [first, second, third, fourth] := by
  match bytes, four with
  | [first, second, third, fourth], _ =>
      exact ⟨first, second, third, fourth, rfl⟩

theorem decodeUint32_accepts :
    Accepts decodeUint32 (fun front number =>
      ∃ first second third fourth, front = [first, second, third, fourth] ∧
        number = bigEndianUint32 [first, second, third, fourth]) := by
  apply (((Accepts.readFull 4).mapError Error.read).map bigEndianUint32).congr
  intro front number
  constructor
  · rintro ⟨_, ⟨rfl, four⟩, rfl⟩
    obtain ⟨first, second, third, fourth, rfl⟩ := exists_of_length_eq_four four
    exact ⟨first, second, third, fourth, rfl, rfl⟩
  · rintro ⟨first, second, third, fourth, rfl, rfl⟩
    exact ⟨_, ⟨rfl, rfl⟩, rfl⟩

theorem decodeBytes_accepts :
    Accepts decodeBytes (fun front field =>
      ∃ high low, front = high :: low :: field ∧
        field.length = (bigEndianUint16 [high, low]).toNat) := by
  apply (decodeUint16_accepts.bind fun number =>
    (Accepts.readFull number.toNat).mapError Error.read).congr
  intro front field
  constructor
  · rintro ⟨_, _, _, rfl, ⟨high, low, rfl, rfl⟩, rfl, fieldLength⟩
    exact ⟨high, low, rfl, fieldLength⟩
  · rintro ⟨high, low, rfl, fieldLength⟩
    exact ⟨[high, low], field, _, rfl, ⟨high, low, rfl, rfl⟩, rfl, fieldLength⟩

end Fields

section Bodies

/-- The body of a CONNECT, byte by byte up to its credential. -/
theorem ConnectPacket.unpack_accepts (packet : ConnectPacket) :
    Accepts packet.unpack (fun front unpacked =>
      ∃ first second third fourth version reserved keepaliveHigh keepaliveLow
          sizeHigh sizeLow credential,
        front = first :: second :: third :: fourth :: version :: reserved ::
          keepaliveHigh :: keepaliveLow :: sizeHigh :: sizeLow :: credential ∧
        credential.length = (bigEndianUint16 [sizeHigh, sizeLow]).toNat ∧
        unpacked = ⟨packet.fixedHeader,
          bigEndianUint32 [first, second, third, fourth], version, reserved,
          bigEndianUint16 [keepaliveHigh, keepaliveLow], credential⟩) := by
  apply (decodeUint32_accepts.bind fun magicNumber =>
    decodeByte_accepts.bind fun version =>
      decodeByte_accepts.bind fun reserved =>
        decodeUint16_accepts.bind fun keepalive =>
          decodeBytes_accepts.map fun credential =>
            (⟨packet.fixedHeader, magicNumber, version, reserved, keepalive,
              credential⟩ : ConnectPacket)).congr
  intro front unpacked
  constructor
  · rintro ⟨_, _, _, rfl, ⟨first, second, third, fourth, rfl, rfl⟩,
      _, _, version, rfl, rfl, _, _, reserved, rfl, rfl,
      _, _, _, rfl, ⟨keepaliveHigh, keepaliveLow, rfl, rfl⟩,
      credential, ⟨sizeHigh, sizeLow, rfl, announced⟩, rfl⟩
    exact ⟨first, second, third, fourth, version, reserved, keepaliveHigh,
      keepaliveLow, sizeHigh, sizeLow, credential, rfl, announced, rfl⟩
  · rintro ⟨first, second, third, fourth, version, reserved, keepaliveHigh,
      keepaliveLow, sizeHigh, sizeLow, credential, rfl, announced, rfl⟩
    exact ⟨_, _, _, rfl, ⟨first, second, third, fourth, rfl, rfl⟩,
      [version], _, version, rfl, rfl, [reserved], _, reserved, rfl, rfl,
      _, _, _, rfl, ⟨keepaliveHigh, keepaliveLow, rfl, rfl⟩,
      credential, ⟨sizeHigh, sizeLow, rfl, announced⟩, rfl⟩

theorem ConnackPacket.unpack_accepts (packet : ConnackPacket) :
    Accepts packet.unpack (fun front unpacked =>
      ∃ returnCode high low, front = [returnCode, high, low] ∧
        unpacked =
          ⟨packet.fixedHeader, returnCode, bigEndianUint16 [high, low]⟩) := by
  apply (decodeByte_accepts.bind fun returnCode =>
    decodeUint16_accepts.map fun serverKeepalive =>
      (⟨packet.fixedHeader, returnCode, serverKeepalive⟩ :
        ConnackPacket)).congr
  intro front unpacked
  constructor
  · rintro ⟨_, _, returnCode, rfl, rfl, _, ⟨high, low, rfl, rfl⟩, rfl⟩
    exact ⟨returnCode, high, low, rfl, rfl⟩
  · rintro ⟨returnCode, high, low, rfl, rfl⟩
    exact ⟨[returnCode], _, returnCode, rfl, rfl, _, ⟨high, low, rfl, rfl⟩, rfl⟩

theorem DisconnectPacket.unpack_accepts (packet : DisconnectPacket) :
    Accepts packet.unpack (fun front unpacked =>
      ∃ returnCode, front = [returnCode] ∧
        unpacked = ⟨packet.fixedHeader, returnCode⟩) :=
  decodeByte_accepts.map fun returnCode =>
    (⟨packet.fixedHeader, returnCode⟩ : DisconnectPacket)

theorem exists_of_ten_le_length {body : Bytes} (long : 10 ≤ body.length) :
    ∃ first second third fourth version reserved keepaliveHigh keepaliveLow
        sizeHigh sizeLow tail,
      body = first :: second :: third :: fourth :: version :: reserved ::
        keepaliveHigh :: keepaliveLow :: sizeHigh :: sizeLow :: tail := by
  rcases body with _ | ⟨first, _ | ⟨second, _ | ⟨third, _ | ⟨fourth,
    _ | ⟨version, _ | ⟨reserved, _ | ⟨keepaliveHigh, _ | ⟨keepaliveLow,
    _ | ⟨sizeHigh, _ | ⟨sizeLow, tail⟩⟩⟩⟩⟩⟩⟩⟩⟩⟩
  case cons.cons.cons.cons.cons.cons.cons.cons.cons.cons =>
    exact ⟨first, second, third, fourth, version, reserved, keepaliveHigh,
      keepaliveLow, sizeHigh, sizeLow, tail, rfl⟩
  all_goals simp at long

theorem ConnectPacket.unpack_body_iff {header : FixedHeader} {body : Bytes}
    {unpacked : ConnectPacket} :
    (∃ rest, ConnectPacket.unpack ⟨header, 0, 0, 0, 0, []⟩ (⟨body⟩ : Buffer) =
        .ok (unpacked, rest)) ↔
      10 + (bigEndianUint16 (body.drop 8)).toNat ≤ body.length ∧
        unpacked = ⟨header, bigEndianUint32 body, body.getD 4 0,
          body.getD 5 0, bigEndianUint16 (body.drop 6),
          (body.drop 10).take (bigEndianUint16 (body.drop 8)).toNat⟩ := by
  rw [(ConnectPacket.unpack_accepts _).exists_rest_iff]
  constructor
  · rintro ⟨_, rest, rfl, first, second, third, fourth, version, reserved,
      keepaliveHigh, keepaliveLow, sizeHigh, sizeLow, credential, rfl,
      announced, rfl⟩
    have size : bigEndianUint16 (sizeHigh :: sizeLow :: (credential ++ rest)) =
        bigEndianUint16 [sizeHigh, sizeLow] :=
      rfl
    simp only [List.cons_append, List.drop_succ_cons, List.drop_zero, size,
      ← announced, List.take_left, List.length_cons, List.length_append]
    exact ⟨by omega, rfl⟩
  · rintro ⟨long, rfl⟩
    obtain ⟨first, second, third, fourth, version, reserved, keepaliveHigh,
      keepaliveLow, sizeHigh, sizeLow, tail, rfl⟩ :=
      exists_of_ten_le_length (Nat.le_of_add_right_le long)
    refine ⟨_, tail.drop (bigEndianUint16 [sizeHigh, sizeLow]).toNat, ?_, first,
      second, third, fourth, version, reserved, keepaliveHigh, keepaliveLow,
      sizeHigh, sizeLow, tail.take (bigEndianUint16 [sizeHigh, sizeLow]).toNat,
      rfl, ?_, rfl⟩
    · simp only [List.cons_append, List.take_append_drop]
    · apply List.length_take_of_le
      change 10 + (bigEndianUint16 [sizeHigh, sizeLow]).toNat ≤ tail.length + 10
        at long
      omega

theorem ConnackPacket.unpack_body_iff {header : FixedHeader} {body : Bytes}
    {unpacked : ConnackPacket} :
    (∃ rest, ConnackPacket.unpack ⟨header, 0, 0⟩ (⟨body⟩ : Buffer) =
        .ok (unpacked, rest)) ↔
      3 ≤ body.length ∧
        unpacked = ⟨header, body.getD 0 0, bigEndianUint16 (body.drop 1)⟩ := by
  rw [(ConnackPacket.unpack_accepts _).exists_rest_iff]
  constructor
  · rintro ⟨_, rest, rfl, returnCode, high, low, rfl, rfl⟩
    exact ⟨Nat.le_add_left 3 rest.length, rfl⟩
  · rintro ⟨long, rfl⟩
    rcases body with _ | ⟨returnCode, _ | ⟨high, _ | ⟨low, rest⟩⟩⟩
    · simp at long
    · simp at long
    · simp at long
    · exact ⟨_, rest, rfl, returnCode, high, low, rfl, rfl⟩

theorem DisconnectPacket.unpack_body_iff {header : FixedHeader} {body : Bytes}
    {unpacked : DisconnectPacket} :
    (∃ rest, DisconnectPacket.unpack ⟨header, 0⟩ (⟨body⟩ : Buffer) =
        .ok (unpacked, rest)) ↔
      1 ≤ body.length ∧ unpacked = ⟨header, body.getD 0 0⟩ := by
  rw [(DisconnectPacket.unpack_accepts _).exists_rest_iff]
  constructor
  · rintro ⟨_, rest, rfl, returnCode, rfl, rfl⟩
    exact ⟨Nat.le_add_left 1 rest.length, rfl⟩
  · rintro ⟨long, rfl⟩
    obtain ⟨returnCode, rest, rfl⟩ := List.exists_cons_of_length_pos long
    exact ⟨_, rest, rfl, returnCode, rfl, rfl⟩

/-- The payload is read with a bare read, from a buffer that holds exactly
what the header announced: the read delivers all of it. -/
theorem PushPacket.unpack_body_iff {header : FixedHeader} {body : Bytes}
    (announced : header.remainingLength = body.length) {unpacked : PushPacket} :
    (∃ rest, PushPacket.unpack ⟨header, 0, []⟩ (⟨body⟩ : Buffer) =
        .ok (unpacked, rest)) ↔
      1 ≤ body.length ∧ unpacked = ⟨header, body.getD 0 0, body.drop 1⟩ := by
  cases body with
  | nil => simp [PushPacket.unpack, decodeByte]
  | cons reserved payload =>
      have delivered := Buffer.read_append payload []
      rw [List.append_nil] at delivered
      have notNegative : ¬ (payload.length : Int) < 0 := by omega
      simp [PushPacket.unpack, announced, delivered, notNegative, eq_comm]

theorem PacketType.unpack_body_iff (packetType : PacketType)
    {header : FixedHeader} {body : Bytes}
    (announced : header.remainingLength = body.length)
    {unpacked : ControlPacket} :
    (∃ rest, (packetType.empty header).unpack (⟨body⟩ : Buffer) =
        .ok (unpacked, rest)) ↔
      packetType.minimum body ≤ body.length ∧
        unpacked = packetType.packet header body := by
  cases packetType with
  | pingreq => simp [empty, ControlPacket.unpack, minimum, packet, eq_comm]
  | pingresp => simp [empty, ControlPacket.unpack, minimum, packet, eq_comm]
  | _ =>
      simp only [empty, ControlPacket.unpack, exists_map_eq_ok_iff,
        ConnectPacket.unpack_body_iff, ConnackPacket.unpack_body_iff,
        PushPacket.unpack_body_iff announced, DisconnectPacket.unpack_body_iff,
        minimum, packet, and_assoc, exists_and_left, exists_eq_left]

end Bodies

section Frames

theorem FixedHeader.unpack_of_no_flags {σ : Type} [ByteReader σ]
    {typeAndFlags : UInt8} (noFlags : typeAndFlags &&& 0x0F = 0) :
    FixedHeader.unpack typeAndFlags = fun reader : σ =>
      liftRead (decodeLength reader) >>= fun parsed =>
        .ok (⟨typeAndFlags >>> 4, 0, parsed.1⟩, parsed.2) := by
  funext reader
  rw [FixedHeader.unpack, if_neg (not_not.mpr noFlags), noFlags]
  rfl

theorem FixedHeader.unpack_of_flags {σ : Type} [ByteReader σ]
    {typeAndFlags : UInt8} (flags : typeAndFlags &&& 0x0F ≠ 0) :
    FixedHeader.unpack typeAndFlags = fun _ : σ =>
      .error (.nonZeroFlags (typeAndFlags &&& 0x0F)) := by
  funext reader
  rw [FixedHeader.unpack, if_pos flags]
  rfl

theorem FixedHeader.unpack_accepts (typeAndFlags : UInt8) :
    Accepts (FixedHeader.unpack typeAndFlags) (fun digits header =>
      typeAndFlags &&& 0x0F = 0 ∧ LengthDigits 4 digits ∧
        header = ⟨typeAndFlags >>> 4, 0, lengthValue digits⟩) := by
  by_cases noFlags : typeAndFlags &&& 0x0F = 0
  · rw [FixedHeader.unpack_of_no_flags noFlags]
    apply ((decodeLength_accepts.mapError Error.read).map _).congr
    simp [noFlags]
  · rw [FixedHeader.unpack_of_flags noFlags]
    apply (Accepts.fail _).congr
    simp [noFlags]

/-! The two stages of `ReadPacket` behind the fixed header. -/

def unpackBytes {σ : Type} (packet : ControlPacket) (remainingLength : Nat)
    (packetBytes : Bytes) (reader : σ) : Except Error (ControlPacket × σ) := do
  if packetBytes.length ≠ remainingLength then
    throw .missingData
  let (packet, _) ← packet.unpack (⟨packetBytes⟩ : Buffer)
  pure (packet, reader)

def readBody {σ : Type} [ByteReader σ] (header : FixedHeader) (reader : σ) :
    Except Error (ControlPacket × σ) := do
  let packet ← newControlPacketWithHeader header
  let (packetBytes, reader) ←
    liftRead (readFull header.remainingLength reader)
  unpackBytes packet header.remainingLength packetBytes reader

theorem unpackBytes_of_eq {σ : Type} {packet : ControlPacket}
    {remainingLength : Nat} {packetBytes : Bytes}
    (delivered : packetBytes.length = remainingLength) :
    unpackBytes packet remainingLength packetBytes = fun reader : σ =>
      packet.unpack (⟨packetBytes⟩ : Buffer) >>= fun outcome =>
        .ok (outcome.1, reader) := by
  funext reader
  rw [unpackBytes, if_neg (not_not.mpr delivered)]
  rfl

theorem unpackBytes_of_ne {σ : Type} {packet : ControlPacket}
    {remainingLength : Nat} {packetBytes : Bytes}
    (missing : packetBytes.length ≠ remainingLength) :
    unpackBytes packet remainingLength packetBytes = fun _ : σ =>
      .error .missingData := by
  funext reader
  rw [unpackBytes, if_pos missing]
  rfl

theorem unpackBytes_accepts (packet : ControlPacket) (remainingLength : Nat)
    (packetBytes : Bytes) :
    Accepts (unpackBytes packet remainingLength packetBytes)
      (fun front unpacked => packetBytes.length = remainingLength ∧ front = [] ∧
        ∃ rest, packet.unpack (⟨packetBytes⟩ : Buffer) =
          .ok (unpacked, rest)) := by
  by_cases delivered : packetBytes.length = remainingLength
  · rw [unpackBytes_of_eq delivered]
    apply (Accepts.embed _).congr
    simp [delivered]
  · rw [unpackBytes_of_ne delivered]
    apply (Accepts.fail _).congr
    simp [delivered]

theorem readBody_of_unknown {σ : Type} [ByteReader σ] {header : FixedHeader}
    (unknown : emptyPacket header = none) :
    readBody header = fun _ : σ =>
      .error (.unsupportedPacketType header.messageType) := by
  funext reader
  simp [readBody, newControlPacketWithHeader, unknown]

theorem readBody_of_known {σ : Type} [ByteReader σ] {header : FixedHeader}
    {packet : ControlPacket} (known : emptyPacket header = some packet) :
    readBody header = fun reader : σ =>
      liftRead (readFull header.remainingLength reader) >>= fun parsed =>
        unpackBytes packet header.remainingLength parsed.1 parsed.2 := by
  funext reader
  rw [readBody, newControlPacketWithHeader, known]
  rfl

theorem readBody_accepts (header : FixedHeader) :
    Accepts (readBody header) (fun body unpacked =>
      ∃ packetType : PacketType, header.messageType = packetType.code ∧
        body.length = header.remainingLength ∧
        packetType.minimum body ≤ body.length ∧
        unpacked = packetType.packet header body) := by
  have known := @PacketType.emptyPacket_eq_some_iff header
  cases built : emptyPacket header with
  | none =>
      rw [readBody_of_unknown built]
      apply (Accepts.fail _).congr
      intro body unpacked
      constructor
      · nofun
      · rintro ⟨packetType, isType, -⟩
        have some := known.mpr ⟨packetType, isType, rfl⟩
        rw [built] at some
        cases some
  | some empty =>
      obtain ⟨packetType, isType, rfl⟩ := known.mp built
      rw [readBody_of_known built]
      apply (((Accepts.readFull _).mapError Error.read).bind
        (unpackBytes_accepts (packetType.empty header) _)).congr
      intro body unpacked
      constructor
      · rintro ⟨_, _, _, rfl, ⟨rfl, bodyLength⟩, -, rfl, unpacks⟩
        rw [packetType.unpack_body_iff bodyLength.symm] at unpacks
        rw [List.append_nil]
        exact ⟨packetType, isType, bodyLength, unpacks⟩
      · rintro ⟨sameType, isSameType, bodyLength, unpacks⟩
        obtain rfl := PacketType.code_injective (isSameType.symm.trans isType)
        rw [← sameType.unpack_body_iff bodyLength.symm] at unpacks
        exact ⟨body, [], body, (List.append_nil body).symm, ⟨rfl, bodyLength⟩,
          bodyLength, rfl, unpacks⟩

/-- The bytes of a frame: the type in the high nibble and no flags, the digits
of the length, and the body they announce. -/
def FrameOf (Digits : Bytes → Prop) (front : Bytes)
    (controlPacket : ControlPacket) : Prop :=
  ∃ (packetType : PacketType) (digits body : Bytes),
    front = packetType.code * 16 :: (digits ++ body) ∧ Digits digits ∧
      body.length = lengthValue digits ∧
      packetType.minimum body ≤ body.length ∧
      controlPacket =
        packetType.packet ⟨packetType.code, 0, body.length⟩ body

theorem eq_high_nibble_of_no_flags {typeAndFlags : UInt8}
    (noFlags : typeAndFlags &&& 0x0F = 0) :
    typeAndFlags = (typeAndFlags >>> 4) * 16 := by
  have table : ∀ value < 256, UInt8.ofNat value &&& 0x0F = 0 →
      UInt8.ofNat value = (UInt8.ofNat value >>> 4) * 16 := by
    decide +kernel
  have entry := table typeAndFlags.toNat typeAndFlags.toNat_lt
  rw [UInt8.ofNat_toNat] at entry
  exact entry noFlags

theorem PacketType.typeAndFlags_iff {typeAndFlags : UInt8}
    {packetType : PacketType} :
    typeAndFlags &&& 0x0F = 0 ∧ typeAndFlags >>> 4 = packetType.code ↔
      typeAndFlags = packetType.code * 16 := by
  constructor
  · rintro ⟨noFlags, isType⟩
    rw [← isType]
    exact eq_high_nibble_of_no_flags noFlags
  · rintro rfl
    cases packetType <;> decide

/-- `ReadPacket` accepts the frames whose length field it can end, and stops
right behind them. -/
theorem readPacket_accepts :
    Accepts readPacket (FrameOf (LengthDigits 4)) := by
  apply ((readByte_accepts.mapError Error.read).bind fun typeAndFlags =>
    (FixedHeader.unpack_accepts typeAndFlags).bind fun header =>
      readBody_accepts header).congr
  intro front controlPacket
  constructor
  · rintro ⟨_, _, typeAndFlags, rfl, rfl, digits, body, _, rfl,
      ⟨noFlags, taken, rfl⟩, packetType, isType, announced, long, rfl⟩
    obtain rfl := PacketType.typeAndFlags_iff.mp ⟨noFlags, isType⟩
    have typeIs : (packetType.code * 16) >>> 4 = packetType.code := isType
    have lengthIs : body.length = lengthValue digits := announced
    refine ⟨packetType, digits, body, rfl, taken, announced, long, ?_⟩
    rw [typeIs, lengthIs]
  · rintro ⟨packetType, digits, body, rfl, taken, announced, long, rfl⟩
    obtain ⟨noFlags, isType⟩ := PacketType.typeAndFlags_iff.mpr
      (Eq.refl (packetType.code * 16))
    refine ⟨[_], digits ++ body, _, rfl, rfl, digits, body, _, rfl,
      ⟨noFlags, taken, rfl⟩, packetType, isType, announced, long, ?_⟩
    rw [announced, isType]

/-- Of the four bytes the length field may take, one has its high bit clear,
unless the stream is cut off before that. -/
def LengthFieldEnds (bytes : Bytes) : Prop :=
  ((bytes.drop 1).take 4).length = 4 →
    ∃ digit ∈ (bytes.drop 1).take 4, digit.toNat < 128

theorem LengthFieldEnds.not_all_continue {first : UInt8} {digits rest : Bytes}
    (ends : LengthFieldEnds (first :: (digits ++ rest)))
    (long : 4 ≤ digits.length)
    (allContinue : ∀ digit ∈ digits, 128 ≤ digit.toNat) :
    False := by
  have field : ((first :: (digits ++ rest)).drop 1).take 4 = digits.take 4 :=
    List.take_append_of_le_length long
  rw [LengthFieldEnds, field] at ends
  obtain ⟨digit, isDigit, terminates⟩ := ends (List.length_take_of_le long)
  have continues := allContinue digit (List.mem_of_mem_take isDigit)
  omega

theorem LengthFieldEnds.lengthDigits_iff {first : UInt8} {digits rest : Bytes}
    (ends : LengthFieldEnds (first :: (digits ++ rest))) :
    LengthDigits 4 digits ↔ EndsAtLast digits := by
  constructor
  · intro taken
    rcases taken.endsAtLast_or_full with atLast | ⟨four, allContinue⟩
    · exact atLast
    · exact (ends.not_all_continue (Nat.le_of_eq four.symm) allContinue).elim
  · rintro ⟨continued, last, rfl, allContinue, terminates⟩
    rw [List.append_assoc] at ends
    have short : continued.length < 4 := by
      by_contra long
      exact ends.not_all_continue (Nat.le_of_not_lt long) allContinue
    exact .of_endsAtLast allContinue terminates short

/-- On a stream whose length field ends, `ReadPacket` succeeds exactly on the
frames of the protocol, returns their fields and leaves the rest unread. -/
theorem readPacket_eq_ok_iff {bytes : Bytes} (ends : LengthFieldEnds bytes)
    (controlPacket : ControlPacket) (rest : Bytes) :
    readPacket (⟨bytes⟩ : Buffer) = .ok (controlPacket, ⟨rest⟩) ↔
      ∃ front, bytes = front ++ rest ∧
        FrameOf EndsAtLast front controlPacket := by
  rw [readPacket_accepts]
  constructor
  · rintro ⟨_, rfl, packetType, digits, body, rfl, taken, isFrame⟩
    rw [List.cons_append, List.append_assoc] at ends
    exact ⟨_, rfl, packetType, digits, body, rfl,
      ends.lengthDigits_iff.mp taken, isFrame⟩
  · rintro ⟨_, rfl, packetType, digits, body, rfl, atLast, isFrame⟩
    rw [List.cons_append, List.append_assoc] at ends
    exact ⟨_, rfl, packetType, digits, body, rfl,
      ends.lengthDigits_iff.mpr atLast, isFrame⟩

/-- A DISCONNECT in front of a byte that is not its own. -/
theorem readPacket_eq_ok_iff_disconnect :
    LengthFieldEnds [0xE0, 1, 7, 99] ∧
      readPacket (⟨[0xE0, 1, 7, 99]⟩ : Buffer) =
        .ok (.disconnect ⟨⟨14, 0, 1⟩, 7⟩, ⟨[99]⟩) := by
  have ends : LengthFieldEnds [0xE0, 1, 7, 99] := nofun
  exact ⟨ends, (readPacket_eq_ok_iff ends _ _).mpr ⟨[0xE0, 1, 7], rfl,
    .disconnect, [1], [7], rfl, ⟨[], 1, rfl, nofun, by decide⟩, rfl,
    Nat.le_refl 1, rfl⟩⟩

end Frames

end Codec

end RmttGo
