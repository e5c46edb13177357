import Mathlib.Data.List.Infix
import RmttGo.FrameAcceptance

/-!
# The errors of `ReadPacket`

Both ends of a connection look at the text of an error of `ReadPacket` to tell
an unknown packet type from everything else that can go wrong with a frame.
On a stream that ends in end of stream the two agree: the words are in the text
exactly if the frame has no flags, a length field that can be read, and a type
that the protocol does not have.
-/

namespace RmttGo

namespace Codec

section Texts

/-- `%x`. -/
def hexadecimal (number : UInt8) : List Char :=
  Nat.toDigits 16 number.toNat

/-- `Error()`. -/
def Error.text : Error → List Char
  | .read .eof => "EOF".toList
  | .read .unexpectedEOF => "unexpected EOF".toList
  | .read (.transport message) => message.toList
  | .nonZeroFlags flags =>
      "non-zero fixed header flags: 0x".toList ++ hexadecimal flags
  | .unsupportedPacketType messageType =>
      "unsupported packet type 0x".toList ++ hexadecimal messageType
  | .missingData => "failed to read expected data".toList
  | .negativePayloadLength => "error unpacking, payload length < 0".toList

/-- `strings.Contains` on the text of the error. -/
def Error.Mentions (failure : Error) (words : List Char) : Prop :=
  words <:+: failure.text

instance (failure : Error) (words : List Char) :
    Decidable (failure.Mentions words) :=
  inferInstanceAs (Decidable (_ <:+: _))

def unsupportedWords : List Char := "unsupported packet type".toList

/-- The errors of a stream, apart from the one for an unknown type. -/
def Error.Plain : Error → Prop
  | .read (.transport _) | .unsupportedPacketType _ => False
  | _ => True

theorem Error.mentions_unsupported (messageType : UInt8) :
    (Error.unsupportedPacketType messageType).Mentions unsupportedWords := by
  refine ⟨[], " 0x".toList ++ hexadecimal messageType, ?_⟩
  rw [List.nil_append, ← List.append_assoc]
  rfl

theorem not_mem_hexadecimal (number : UInt8) : 'u' ∉ hexadecimal number := by
  have table : ∀ value < 256, 'u' ∉ Nat.toDigits 16 value := by decide +kernel
  exact table number.toNat number.toNat_lt

theorem Error.Plain.not_mentions {failure : Error} (plain : failure.Plain) :
    ¬ failure.Mentions unsupportedWords := by
  cases failure with
  | read failure =>
      cases failure with
      | eof => decide +kernel
      | unexpectedEOF => decide +kernel
      | transport message => cases plain
  | nonZeroFlags flags =>
      intro mentions
      have isFirst : 'u' ∈ unsupportedWords := by decide +kernel
      rcases List.mem_append.mp (mentions.subset isFirst) with isThere | isThere
      · revert isThere
        decide +kernel
      · exact not_mem_hexadecimal flags isThere
  | unsupportedPacketType messageType => cases plain
  | missingData => decide +kernel
  | negativePayloadLength => decide +kernel

end Texts

section Failures

theorem liftRead_failsWith {α : Type}
    {parse : Buffer → Except ReadError (α × Buffer)}
    (fails : FailsWith parse ReadError.AtEnd) :
    FailsWith (fun reader => liftRead (parse reader)) Error.Plain := by
  refine fails.mapError ?_
  rintro failure (rfl | rfl)
  · trivial
  · trivial

theorem readByte_failsWith : FailsWith readByte ReadError.AtEnd :=
  (Buffer.readFull_failsWith 1).bind fun bytes => FailsWith.pure (bytes.headD 0)

theorem decodeLengthLoop_failsWith (rLength multiplier : UInt32) :
    FailsWith (decodeLengthLoop rLength multiplier) ReadError.AtEnd := by
  intro buffer
  fun_induction decodeLengthLoop rLength multiplier buffer with
  | case1 rLength multiplier reader bounded ih =>
      intro failure failed
      cases isRead : readByte reader with
      | error first =>
          rw [isRead] at failed
          obtain rfl : first = failure := Except.error.inj failed
          exact readByte_failsWith reader first isRead
      | ok outcome =>
          obtain ⟨digit, later⟩ := outcome
          rw [isRead] at failed
          change (if digit &&& 128 = 0 then _ else _) = _ at failed
          split at failed
          · cases failed
          · exact ih digit later failure failed
  | case2 rLength multiplier reader unbounded =>
      intro failure failed
      cases failed

theorem decodeLength_failsWith : FailsWith decodeLength ReadError.AtEnd :=
  (decodeLengthLoop_failsWith 0 0).bind fun rLength => FailsWith.pure rLength.toNat

theorem decodeByte_failsWith : FailsWith decodeByte Error.Plain :=
  liftRead_failsWith readByte_failsWith

theorem decodeUint16_failsWith : FailsWith decodeUint16 Error.Plain :=
  (liftRead_failsWith (Buffer.readFull_failsWith 2)).bind fun bytes =>
    FailsWith.pure (bigEndianUint16 bytes)

theorem decodeUint32_failsWith : FailsWith decodeUint32 Error.Plain :=
  (liftRead_failsWith (Buffer.readFull_failsWith 4)).bind fun bytes =>
    FailsWith.pure (bigEndianUint32 bytes)

theorem decodeBytes_failsWith : FailsWith decodeBytes Error.Plain :=
  decodeUint16_failsWith.bind fun fieldLength =>
    liftRead_failsWith (Buffer.readFull_failsWith fieldLength.toNat)

theorem PushPacket.unpack_failsWith (packet : PushPacket) :
    FailsWith packet.unpack Error.Plain := by
  intro reader failure failed
  unfold PushPacket.unpack at failed
  cases isRead : decodeByte reader with
  | error first =>
      rw [isRead] at failed
      obtain rfl : first = failure := Except.error.inj failed
      exact decodeByte_failsWith reader first isRead
  | ok outcome =>
      rw [isRead, ok_bind] at failed
      by_cases negative : (packet.fixedHeader.remainingLength : Int) - 1 < 0
      · simp only [negative, if_true] at failed
        obtain rfl : Error.negativePayloadLength = failure :=
          Except.error.inj failed
        trivial
      · simp only [negative, if_false] at failed
        generalize ((packet.fixedHeader.remainingLength : Int) - 1).toNat = want
          at failed
        exact (liftRead_failsWith (Buffer.read_failsWith want)).bind
          (fun chunk => FailsWith.pure
            (⟨packet.fixedHeader, outcome.1,
              chunk ++ List.replicate (want - chunk.length) 0⟩ : PushPacket))
          outcome.2 failure failed

theorem ControlPacket.unpack_failsWith (packet : ControlPacket) :
    FailsWith packet.unpack Error.Plain := by
  cases packet with
  | connect packet =>
      refine FailsWith.map ?_ _
      exact decodeUint32_failsWith.bind fun magicNumber =>
        decodeByte_failsWith.bind fun version =>
          decodeByte_failsWith.bind fun reserved =>
            decodeUint16_failsWith.bind fun keepalive =>
              decodeBytes_failsWith.bind fun credential => FailsWith.pure _
  | connack packet =>
      refine FailsWith.map ?_ _
      exact decodeByte_failsWith.bind fun returnCode =>
        decodeUint16_failsWith.bind fun serverKeepalive => FailsWith.pure _
  | push packet => exact packet.unpack_failsWith.map _
  | pingreq packet => exact FailsWith.pure _
  | pingresp packet => exact FailsWith.pure _
  | disconnect packet =>
      refine FailsWith.map ?_ _
      exact decodeByte_failsWith.bind fun returnCode => FailsWith.pure _

theorem FixedHeader.unpack_failsWith (typeAndFlags : UInt8) :
    FailsWith (FixedHeader.unpack typeAndFlags) Error.Plain := by
  by_cases noFlags : typeAndFlags &&& 0x0F = 0
  · rw [FixedHeader.unpack_of_no_flags noFlags]
    exact (liftRead_failsWith decodeLength_failsWith).bind fun length =>
      FailsWith.pure (⟨typeAndFlags >>> 4, 0, length⟩ : FixedHeader)
  · rw [FixedHeader.unpack_of_flags noFlags]
    exact FailsWith.fail trivial

theorem unpackBytes_failsWith (packet : ControlPacket) (remainingLength : Nat)
    (packetBytes : Bytes) :
    FailsWith (unpackBytes packet remainingLength packetBytes) Error.Plain := by
  intro reader failure failed
  by_cases delivered : packetBytes.length = remainingLength
  · rw [unpackBytes_of_eq delivered] at failed
    cases unpacked : packet.unpack (⟨packetBytes⟩ : Buffer) with
    | error first =>
        rw [unpacked] at failed
        obtain rfl : first = failure := Except.error.inj failed
        exact packet.unpack_failsWith ⟨packetBytes⟩ first unpacked
    | ok outcome =>
        rw [unpacked] at failed
        cases failed
  · rw [unpackBytes_of_ne delivered] at failed
    exact FailsWith.fail trivial reader failure failed

theorem readBody_failsWith {header : FixedHeader} {packet : ControlPacket}
    (known : emptyPacket header = some packet) :
    FailsWith (readBody header) Error.Plain := by
  rw [readBody_of_known known]
  exact (liftRead_failsWith (Buffer.readFull_failsWith _)).bind
    (unpackBytes_failsWith packet _)

end Failures

section UnknownTypes

/-- A frame without flags, with a length field that `decodeLength` accepts and
with a type the protocol does not have. -/
def UnknownFrame (bytes : Bytes) : Prop :=
  ∃ (typeAndFlags : UInt8) (rest : Bytes) (length : Nat) (behind : Buffer),
    bytes = typeAndFlags :: rest ∧ typeAndFlags &&& 0x0F = 0 ∧
      decodeLength (⟨rest⟩ : Buffer) = .ok (length, behind) ∧
      ∀ packetType : PacketType, typeAndFlags >>> 4 ≠ packetType.code

theorem emptyPacket_eq_none_iff {header : FixedHeader} :
    emptyPacket header = none ↔
      ∀ packetType : PacketType, header.messageType ≠ packetType.code := by
  rw [Option.eq_none_iff_forall_ne_some]
  constructor
  · intro none packetType isType
    exact none _ (PacketType.emptyPacket_eq_some_iff.mpr ⟨packetType, isType, rfl⟩)
  · intro unknown packet built
    obtain ⟨packetType, isType, -⟩ := PacketType.emptyPacket_eq_some_iff.mp built
    exact unknown packetType isType

theorem readPacket_cons (typeAndFlags : UInt8) (rest : Bytes) :
    readPacket (⟨typeAndFlags :: rest⟩ : Buffer) =
      FixedHeader.unpack typeAndFlags (⟨rest⟩ : Buffer) >>= fun parsed =>
        readBody parsed.1 parsed.2 := by
  rw [readPacket, readByte_cons]
  rfl

theorem readPacket_cons_of_length {typeAndFlags : UInt8} {rest : Bytes}
    {length : Nat} {behind : Buffer} (noFlags : typeAndFlags &&& 0x0F = 0)
    (decoded : decodeLength (⟨rest⟩ : Buffer) = .ok (length, behind)) :
    readPacket (⟨typeAndFlags :: rest⟩ : Buffer) =
      readBody ⟨typeAndFlags >>> 4, 0, length⟩ behind := by
  rw [readPacket_cons]
  simp only [FixedHeader.unpack_of_no_flags noFlags, decoded]
  rfl

theorem UnknownFrame.readPacket_eq {bytes : Bytes} (unknown : UnknownFrame bytes) :
    ∃ messageType, readPacket (⟨bytes⟩ : Buffer) =
      .error (.unsupportedPacketType messageType) := by
  obtain ⟨typeAndFlags, rest, length, behind, rfl, noFlags, decoded, unknown⟩ :=
    unknown
  rw [readPacket_cons_of_length noFlags decoded,
    readBody_of_unknown (emptyPacket_eq_none_iff.mpr unknown)]
  exact ⟨_, rfl⟩

theorem unknownFrame_or_plain {bytes : Bytes} {failure : Error}
    (failed : readPacket (⟨bytes⟩ : Buffer) = .error failure) :
    UnknownFrame bytes ∨ failure.Plain := by
  cases bytes with
  | nil =>
      rw [readPacket, readByte_nil] at failed
      obtain rfl := Except.error.inj failed
      exact .inr trivial
  | cons typeAndFlags rest =>
      cases isHeader : FixedHeader.unpack typeAndFlags (⟨rest⟩ : Buffer) with
      | error first =>
          rw [readPacket_cons, isHeader] at failed
          obtain rfl : first = failure := Except.error.inj failed
          exact .inr (FixedHeader.unpack_failsWith typeAndFlags ⟨rest⟩ first isHeader)
      | ok outcome =>
          obtain ⟨header, ⟨body⟩⟩ := outcome
          rw [readPacket_cons, isHeader] at failed
          cases built : emptyPacket header with
          | some packet => exact .inr (readBody_failsWith built ⟨body⟩ failure failed)
          | none =>
              obtain ⟨digits, rfl, noFlags, taken, rfl⟩ :=
                (FixedHeader.unpack_accepts typeAndFlags _ _ _).mp isHeader
              exact .inl ⟨typeAndFlags, _, _, ⟨body⟩, rfl, noFlags,
                (decodeLength_accepts _ _ _).mpr ⟨digits, rfl, taken, rfl⟩,
                emptyPacket_eq_none_iff.mp built⟩

/-- The error of a frame has the words both ends look for exactly if the frame
is one of an unknown type. -/
theorem mentions_unsupported_iff {bytes : Bytes} {failure : Error}
    (failed : readPacket (⟨bytes⟩ : Buffer) = .error failure) :
    failure.Mentions unsupportedWords ↔ UnknownFrame bytes := by
  constructor
  · intro mentions
    exact (unknownFrame_or_plain failed).resolve_right fun plain =>
      plain.not_mentions mentions
  · intro unknown
    obtain ⟨messageType, isUnsupported⟩ := unknown.readPacket_eq
    rw [failed] at isUnsupported
    obtain rfl := Except.error.inj isUnsupported
    exact Error.mentions_unsupported messageType

end UnknownTypes

end Codec

end RmttGo
