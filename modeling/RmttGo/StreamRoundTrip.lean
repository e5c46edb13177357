import RmttGo.PacketReader

/-!
# Streams of frames survive the wire

Every packet that fits the two length fields is read back from its own frame
and leaves what follows untouched; a frame that is cut short anywhere is an
error.  Both together describe what a reader sees of a truncated stream of
frames.
-/

namespace RmttGo

namespace Codec

namespace ControlPacket

/-- The sizes the 16-bit credential length and the four digits of the
remaining length can express, and the reserved byte of a push as it is
written. -/
def WithinLimits : ControlPacket → Prop
  | connect packet => packet.credential.length ≤ 65535
  | push packet => packet.reserved = 0 ∧ packet.payload.length ≤ 2 ^ 28 - 2
  | _ => True

/-- A packet as `NewControlPacket` and the assignment of its application
fields leave it, within the limits of the length fields. -/
def Representable (packet : ControlPacket) : Prop :=
  (newControlPacket packet.messageType).map fixedHeader =
      some packet.fixedHeader ∧
    packet.WithinLimits

instance : DecidablePred WithinLimits
  | connect packet =>
      inferInstanceAs (Decidable (packet.credential.length ≤ 65535))
  | push packet =>
      inferInstanceAs (Decidable
        (packet.reserved = 0 ∧ packet.payload.length ≤ 2 ^ 28 - 2))
  | connack _ | pingreq _ | pingresp _ | disconnect _ => .isTrue trivial

instance : DecidablePred Representable :=
  fun _ => inferInstanceAs (Decidable (_ ∧ _))

theorem Representable.header_eq {packet : ControlPacket}
    (representable : packet.Representable) :
    packet.fixedHeader = FixedHeader.ofType packet.messageType := by
  obtain ⟨built, -⟩ := representable
  cases packet <;> exact (Option.some.inj built).symm

def body : ControlPacket → Bytes
  | connect packet => packet.body
  | connack packet => packet.body
  | push packet => 0x00 :: packet.payload
  | pingreq _ => []
  | pingresp _ => []
  | disconnect packet => [packet.returnCode]

theorem frame_eq (packet : ControlPacket) :
    packet.frame = packet.write.2.fixedHeader.pack ++ packet.body := by
  cases packet <;>
    simp [frame, write, fixedHeader, body, ConnectPacket.write,
      ConnackPacket.write, PushPacket.write, PingreqPacket.write,
      PingrespPacket.write, DisconnectPacket.write]

/-- `Write` announces exactly the body it emits.  The pings announce what
their header already held, which is nothing for a new packet. -/
theorem Representable.written_header {packet : ControlPacket}
    (representable : packet.Representable) :
    packet.write.2.fixedHeader =
      { FixedHeader.ofType packet.messageType with
        remainingLength := packet.body.length } := by
  have headerEq := representable.header_eq
  cases packet with
  | push packet =>
      simp_all [write, fixedHeader, body, PushPacket.write, Nat.add_comm]
  | _ =>
      simp_all [write, fixedHeader, body, ConnectPacket.write,
        ConnackPacket.write, ConnackPacket.body, PingreqPacket.write,
        PingrespPacket.write, DisconnectPacket.write, FixedHeader.ofType]

theorem Representable.body_length_lt {packet : ControlPacket}
    (representable : packet.Representable) :
    packet.body.length < 2 ^ 28 := by
  obtain ⟨-, limits⟩ := representable
  cases packet with
  | connect packet =>
      have short : packet.credential.length ≤ 65535 := limits
      simp only [body, ConnectPacket.body, List.length_append,
        List.length_singleton, encodeUint32_length, encodeUint16_length,
        encodeBytes_length]
      omega
  | push packet =>
      obtain ⟨-, short⟩ :
          packet.reserved = 0 ∧ packet.payload.length ≤ 2 ^ 28 - 2 := limits
      simp only [body, List.length_cons]
      omega
  | _ => simp [body, ConnackPacket.body]

theorem ConnectPacket.unpack_body {packet : ConnectPacket}
    (short : packet.credential.length ≤ 65535) (header : FixedHeader) :
    ConnectPacket.unpack ⟨header, 0, 0, 0, 0, []⟩ (⟨packet.body⟩ : Buffer) =
      .ok ({ packet with fixedHeader := header }, ⟨[]⟩) := by
  have credential := decodeBytes_append short []
  rw [List.append_nil] at credential
  simp [ConnectPacket.unpack, ConnectPacket.body, credential]

theorem PushPacket.unpack_body {packet : PushPacket} {header : FixedHeader}
    (reserved : packet.reserved = 0)
    (announced : header.remainingLength = packet.payload.length + 1) :
    PushPacket.unpack ⟨header, 0, []⟩ (⟨0x00 :: packet.payload⟩ : Buffer) =
      .ok ({ packet with fixedHeader := header }, ⟨[]⟩) := by
  have payload := Buffer.read_append packet.payload []
  rw [List.append_nil] at payload
  simp [PushPacket.unpack, announced, payload, reserved]

/-- The body unpacks into the packet as its own `Write` left it. -/
theorem Representable.unpack_body {packet : ControlPacket}
    (representable : packet.Representable) :
    ∃ empty rest, emptyPacket packet.write.2.fixedHeader = some empty ∧
      empty.unpack (⟨packet.body⟩ : Buffer) = .ok (packet.write.2, rest) := by
  have headerEq := representable.header_eq
  have limits := representable.2
  cases packet with
  | connect packet =>
      obtain ⟨header, magicNumber, version, reserved, keepalive, credential⟩ :=
        packet
      obtain rfl : header = FixedHeader.ofType MessageType.connect :=
        headerEq
      refine ⟨_, ⟨[]⟩, rfl, ?_⟩
      simp only [unpack, body, ConnectPacket.unpack_body limits]
      rfl
  | connack packet =>
      obtain ⟨header, returnCode, serverKeepalive⟩ := packet
      obtain rfl : header = FixedHeader.ofType MessageType.connack :=
        headerEq
      refine ⟨_, ⟨[]⟩, rfl, ?_⟩
      have keepalive := decodeUint16_append serverKeepalive []
      rw [List.append_nil] at keepalive
      simp [unpack, body, ConnackPacket.unpack, ConnackPacket.body, keepalive,
        write, ConnackPacket.write, fixedHeader, Except.map]
  | push packet =>
      obtain ⟨header, reserved, payload⟩ := packet
      obtain rfl : header = FixedHeader.ofType MessageType.push :=
        headerEq
      refine ⟨_, ⟨[]⟩, rfl, ?_⟩
      simp only [unpack, body]
      rw [PushPacket.unpack_body limits.1 (Nat.add_comm 1 payload.length)]
      rfl
  | pingreq packet =>
      obtain ⟨header⟩ := packet
      obtain rfl : header = FixedHeader.ofType MessageType.pingreq :=
        headerEq
      exact ⟨_, ⟨[]⟩, rfl, rfl⟩
  | pingresp packet =>
      obtain ⟨header⟩ := packet
      obtain rfl : header = FixedHeader.ofType MessageType.pingresp :=
        headerEq
      exact ⟨_, ⟨[]⟩, rfl, rfl⟩
  | disconnect packet =>
      obtain ⟨header, returnCode⟩ := packet
      obtain rfl : header = FixedHeader.ofType MessageType.disconnect :=
        headerEq
      refine ⟨_, ⟨[]⟩, rfl, ?_⟩
      simp [unpack, body, DisconnectPacket.unpack, write,
        DisconnectPacket.write, fixedHeader, Except.map]

theorem messageType_lt (packet : ControlPacket) : packet.messageType.toNat < 16 := by
  cases packet with
  | _ => exact Nat.lt_of_sub_eq_succ rfl

theorem Representable.type_lt {packet : ControlPacket}
    (representable : packet.Representable) :
    packet.write.2.fixedHeader.messageType.toNat < 16 := by
  rw [representable.written_header]
  exact packet.messageType_lt

end ControlPacket

section Frames

theorem unpack_typeAndFlags {messageType : UInt8}
    (small : messageType.toNat < 16) :
    (messageType <<< 4 ||| 0x00) >>> 4 = messageType ∧
      (messageType <<< 4 ||| 0x00) &&& 0x0F = 0 := by
  have table : ∀ value < 16,
      (UInt8.ofNat value <<< 4 ||| 0x00) >>> 4 = UInt8.ofNat value ∧
        (UInt8.ofNat value <<< 4 ||| 0x00) &&& 0x0F = 0 := by decide
  simpa using table messageType.toNat small

theorem FixedHeader.unpack_pack {header : FixedHeader} (tail : Bytes)
    (small : header.messageType.toNat < 16) (noFlags : header.flags = 0)
    (fits : header.remainingLength < 2 ^ 28) :
    FixedHeader.unpack (header.messageType <<< 4 ||| 0x00)
        (⟨encodeLength header.remainingLength ++ tail⟩ : Buffer) =
      .ok (header, ⟨tail⟩) := by
  obtain ⟨typeEq, flagsEq⟩ := unpack_typeAndFlags small
  rw [FixedHeader.unpack, typeEq, flagsEq, decodeLength_encodeLength tail fits]
  obtain ⟨messageType, flags, remainingLength⟩ := header
  simp_all

theorem readPacket_pack_append {header : FixedHeader} {body : Bytes}
    (tail : Bytes) (small : header.messageType.toNat < 16)
    (noFlags : header.flags = 0)
    (announced : header.remainingLength = body.length)
    (fits : body.length < 2 ^ 28) :
    readPacket (⟨header.pack ++ (body ++ tail)⟩ : Buffer) = (do
      let packet ← newControlPacketWithHeader header
      let (packet, _) ← packet.unpack (⟨body⟩ : Buffer)
      pure (packet, ⟨tail⟩)) := by
  have headerRead := FixedHeader.unpack_pack (body ++ tail) small noFlags
    (by omega)
  have bodyRead : readFull header.remainingLength
      (⟨body ++ tail⟩ : Buffer) = .ok (body, ⟨tail⟩) := by
    rw [announced]
    exact Buffer.readFull_append body tail
  simp only [readPacket, FixedHeader.pack, List.cons_append, readByte_cons,
    liftRead_ok, ok_bind, headerRead, bodyRead]
  simp [announced]

/-- Reading a frame from the front of a stream returns its packet and leaves
the rest of the stream. -/
theorem readPacket_frame_append {packet : ControlPacket}
    (representable : packet.Representable) (tail : Bytes) :
    readPacket (⟨packet.frame ++ tail⟩ : Buffer) =
      .ok (packet.write.2, ⟨tail⟩) := by
  have written := representable.written_header
  obtain ⟨empty, rest, isEmpty, unpacked⟩ := representable.unpack_body
  rw [packet.frame_eq, List.append_assoc, readPacket_pack_append tail
    representable.type_lt (by rw [written]; rfl) (by rw [written])
    representable.body_length_lt]
  simp [newControlPacketWithHeader, isEmpty, unpacked]

theorem readPacket_pack_cut {header : FixedHeader} {digits missing : Bytes}
    (small : header.messageType.toNat < 16)
    (fits : header.remainingLength < 2 ^ 28)
    (cut : digits ++ missing = encodeLength header.remainingLength)
    (lost : missing ≠ []) :
    readPacket (⟨(header.messageType <<< 4 ||| 0x00) :: digits⟩ : Buffer) =
      .error (.read .eof) := by
  obtain ⟨-, flagsEq⟩ := unpack_typeAndFlags small
  simp only [readPacket, readByte_cons, liftRead_ok, ok_bind,
    FixedHeader.unpack, flagsEq, decodeLength_truncated fits cut lost]
  simp

theorem readPacket_pack_short {header : FixedHeader} {body : Bytes}
    (small : header.messageType.toNat < 16) (noFlags : header.flags = 0)
    (fits : header.remainingLength < 2 ^ 28)
    (short : body.length < header.remainingLength) :
    ∃ failure, readPacket (⟨header.pack ++ body⟩ : Buffer) =
      .error failure := by
  simp only [readPacket, FixedHeader.pack, List.cons_append, readByte_cons,
    liftRead_ok, ok_bind, FixedHeader.unpack_pack body small noFlags fits,
    Buffer.readFull_error_of_lt short, liftRead_error, error_bind]
  cases newControlPacketWithHeader header with
  | error failure => exact ⟨failure, rfl⟩
  | ok packet => exact ⟨_, rfl⟩

/-- A frame that is cut short is never read as a packet: the type byte, a
digit of the length or part of the body is missing. -/
theorem readPacket_truncated {packet : ControlPacket}
    (representable : packet.Representable) {front missing : Bytes}
    (cut : front ++ missing = packet.frame) (lost : missing ≠ []) :
    ∃ failure, readPacket (⟨front⟩ : Buffer) = .error failure := by
  have written := representable.written_header
  have small := representable.type_lt
  have noFlags : packet.write.2.fixedHeader.flags = 0 := by rw [written]; rfl
  have announced :
      packet.write.2.fixedHeader.remainingLength = packet.body.length := by
    rw [written]
  have fits := representable.body_length_lt
  rw [← announced] at fits
  rw [packet.frame_eq] at cut
  have shortBody : ∀ {bodyFront : Bytes},
      bodyFront ++ missing = packet.body → ∃ failure, readPacket
        (⟨packet.write.2.fixedHeader.pack ++ bodyFront⟩ : Buffer) =
          .error failure := by
    intro bodyFront bodyEq
    apply readPacket_pack_short small noFlags fits
    have := congrArg List.length bodyEq
    have := List.length_pos_iff.mpr lost
    rw [List.length_append] at *
    omega
  -- the cut falls into the header or into the body
  rcases List.append_eq_append_iff.mp cut with
    ⟨missingHeader, headerEq, missingEq⟩ | ⟨bodyFront, rfl, bodyEq⟩
  · by_cases complete : missingHeader = []
    · subst complete
      rw [List.append_nil] at headerEq
      subst headerEq
      simpa using @shortBody [] missingEq
    · cases front with
      | nil => exact ⟨.read .eof, by simp [readPacket]⟩
      | cons typeAndFlags digits =>
          obtain ⟨rfl, digitsEq⟩ := List.cons.inj headerEq
          exact ⟨_, readPacket_pack_cut small fits digitsEq.symm complete⟩
  · exact shortBody bodyEq.symm

end Frames

section Streams

open ControlPacket

/-- Whatever the cut, draining a stream of frames yields the packets whose
frames it kept whole, and then an error. -/
theorem drainsTo_take_frames {packets : List ControlPacket}
    (representable : ∀ packet ∈ packets, packet.Representable) (cut : Nat) :
    ∃ kept failure, kept ≤ packets.length ∧
      DrainsTo readPacket (⟨(packets.flatMap frame).take cut⟩ : Buffer)
        ((packets.take kept).map fun packet => packet.write.2) failure ∧
      ∀ index < packets.length,
        index < kept ↔
          ((packets.take (index + 1)).flatMap frame).length ≤ cut := by
  induction packets generalizing cut with
  | nil =>
      exact ⟨0, .read .eof, by simp, .stop (by simp [readPacket]), by simp⟩
  | cons packet packets ih =>
      have isRepresentable := representable packet (by simp)
      have restRepresentable : ∀ other ∈ packets, other.Representable :=
        fun other member => representable other (by simp [member])
      rw [List.flatMap_cons]
      by_cases whole : packet.frame.length ≤ cut
      · obtain ⟨kept, failure, bound, drains, counted⟩ :=
          ih restRepresentable (cut - packet.frame.length)
        refine ⟨kept + 1, failure, by simp; omega, ?_, ?_⟩
        · rw [List.take_append, List.take_of_length_le whole,
            List.take_succ_cons, List.map_cons]
          exact .step (readPacket_frame_append isRepresentable _) drains
        · intro index indexLt
          cases index with
          | zero => simp [whole]
          | succ index =>
              have := counted index (by simpa using indexLt)
              simp only [List.take_succ_cons, List.flatMap_cons,
                List.length_append]
              omega
      · have lost : packet.frame.drop cut ≠ [] := by
          rw [ne_eq, List.drop_eq_nil_iff]
          omega
        obtain ⟨failure, failed⟩ := readPacket_truncated isRepresentable
          (List.take_append_drop cut packet.frame) lost
        refine ⟨0, failure, by simp, ?_, ?_⟩
        · rw [List.take_append_of_le_length (by omega)]
          exact .stop failed
        · intro index _
          simp only [List.take_succ_cons, List.flatMap_cons,
            List.length_append]
          omega

/-- Reading the first `cut` bytes of a stream of frames returns, in order,
packets with the type and application fields of exactly those packets whose
frames end within these bytes, and then fails. -/
theorem truncated_stream_round_trip (packets : List ControlPacket)
    (representable : ∀ packet ∈ packets, packet.Representable) (cut : Nat) :
    ∃ decoded failure,
      DrainsTo readPacket (⟨(packets.flatMap frame).take cut⟩ : Buffer)
        decoded failure ∧
      decoded.length ≤ packets.length ∧
      decoded.map content = (packets.take decoded.length).map content ∧
      ∀ index < packets.length,
        index < decoded.length ↔
          ((packets.take (index + 1)).flatMap frame).length ≤ cut := by
  obtain ⟨kept, failure, bound, drains, counted⟩ :=
    drainsTo_take_frames representable cut
  have length : ((packets.take kept).map fun packet =>
      packet.write.2).length = kept := by
    simp [bound]
  refine ⟨_, failure, drains, ?_, ?_, ?_⟩
  · rw [length]
    exact bound
  · rw [length, List.map_map]
    exact List.map_congr_left fun packet _ => packet.write_content
  · rw [length]
    exact counted

/-- A ping, a push of three bytes and a refused connection, cut in the middle
of the push. -/
theorem truncated_stream_round_trip_push_cut :
    let packets : List ControlPacket :=
      [.pingreq ⟨.ofType MessageType.pingreq⟩,
        .push ⟨.ofType MessageType.push, 0, [7, 8, 9]⟩,
        .connack ⟨.ofType MessageType.connack, 3, 0⟩]
    ∃ decoded failure,
      DrainsTo readPacket (⟨(packets.flatMap frame).take 6⟩ : Buffer)
        decoded failure ∧
      decoded.length ≤ packets.length ∧
      decoded.map content = (packets.take decoded.length).map content ∧
      ∀ index < packets.length,
        index < decoded.length ↔
          ((packets.take (index + 1)).flatMap frame).length ≤ 6 :=
  truncated_stream_round_trip _ (by decide +kernel) 6

end Streams

end Codec

end RmttGo
