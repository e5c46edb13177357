import RmttGo.LengthLimits
import RmttGo.StreamRoundTrip

/-!
# Writing packets of any size and packets that were read

`Write` checks neither the credential against its 16-bit length nor the body
against the four digits of the remaining length, and the pings announce whatever
length their header holds.  This file says which packets are read back from
their own frames, both for packets an application fills in and for packets that
come out of `ReadPacket`.
-/

namespace RmttGo

namespace Codec

namespace ControlPacket

/-- The content as `Write` puts it on the wire. -/
def Content.normalised : Content → Content
  | .push _ payload => .push 0 payload
  | content => content

/-- The packet with the header `NewControlPacket` gives it and the reserved byte
`Write` emits. -/
def renewed : ControlPacket → ControlPacket
  | connect packet =>
      connect { packet with fixedHeader := .ofType MessageType.connect }
  | connack packet =>
      connack { packet with fixedHeader := .ofType MessageType.connack }
  | push packet =>
      push { packet with
        fixedHeader := .ofType MessageType.push, reserved := 0 }
  | pingreq _ => pingreq ⟨.ofType MessageType.pingreq⟩
  | pingresp _ => pingresp ⟨.ofType MessageType.pingresp⟩
  | disconnect packet =>
      disconnect { packet with fixedHeader := .ofType MessageType.disconnect }

/-- The length fields can express the sizes of the packet. -/
def Expressible : ControlPacket → Prop
  | connect packet => packet.credential.length ≤ 65535
  | push packet => packet.payload.length ≤ 2 ^ 28 - 2
  | _ => True

/-- A ping has no body, so that the header it holds has to announce none. -/
def AnnouncesItsBody : ControlPacket → Prop
  | pingreq packet => packet.fixedHeader.remainingLength = 0
  | pingresp packet => packet.fixedHeader.remainingLength = 0
  | _ => True

/-- In front of `tail` the frame of the packet is read to its end, as a packet
with the same content that has the same frame. -/
def ReadsBack (packet : ControlPacket) (tail : Bytes) : Prop :=
  ∃ again, readPacket (⟨packet.frame ++ tail⟩ : Buffer) = .ok (again, ⟨tail⟩) ∧
    again.content = packet.content.normalised ∧ again.frame = packet.frame

theorem announcesItsBody_of_ne {packet : ControlPacket}
    (notPingreq : packet.messageType ≠ MessageType.pingreq)
    (notPingresp : packet.messageType ≠ MessageType.pingresp) :
    packet.AnnouncesItsBody := by
  cases packet with
  | pingreq _ => exact absurd rfl notPingreq
  | pingresp _ => exact absurd rfl notPingresp
  | _ => trivial

theorem content_renewed (packet : ControlPacket) :
    packet.renewed.content = packet.content.normalised := by
  cases packet <;> rfl

theorem frame_write (packet : ControlPacket) :
    packet.write.2.frame = packet.frame := by
  cases packet <;> rfl

theorem frame_ne_nil (packet : ControlPacket) : packet.frame ≠ [] := by
  rw [frame_eq]
  exact List.cons_ne_nil _ _

theorem frame_renewed {packet : ControlPacket}
    (own : packet.fixedHeader.messageType = packet.messageType)
    (announces : packet.AnnouncesItsBody) :
    packet.renewed.frame = packet.frame := by
  have sameBody : packet.renewed.body = packet.body := by
    cases packet <;> rfl
  have sameType : packet.renewed.write.2.fixedHeader.messageType =
      packet.write.2.fixedHeader.messageType := by
    cases packet <;> exact own.symm
  have sameLength : packet.renewed.write.2.fixedHeader.remainingLength =
      packet.write.2.fixedHeader.remainingLength := by
    cases packet with
    | pingreq packet => exact announces.symm
    | pingresp packet => exact announces.symm
    | _ => rfl
  rw [frame_eq, frame_eq, sameBody, FixedHeader.pack, FixedHeader.pack, sameType,
    sameLength]

theorem Expressible.representable {packet : ControlPacket}
    (expressible : packet.Expressible) : packet.renewed.Representable := by
  cases packet with
  | connect packet => exact ⟨rfl, expressible⟩
  | push packet => exact ⟨rfl, rfl, expressible⟩
  | _ => exact ⟨rfl, trivial⟩

theorem Expressible.readsBack {packet : ControlPacket}
    (expressible : packet.Expressible) (announces : packet.AnnouncesItsBody)
    (own : packet.fixedHeader.messageType = packet.messageType)
    (tail : Bytes) :
    packet.ReadsBack tail := by
  have sameFrame := frame_renewed own announces
  have isRead := readPacket_frame_append expressible.representable tail
  rw [sameFrame] at isRead
  refine ⟨packet.renewed.write.2, isRead, ?_, ?_⟩
  · rw [write_content, content_renewed]
  · rw [frame_write, sameFrame]

end ControlPacket

section Accepted

open ControlPacket

variable {bytes rest : Bytes} {controlPacket : ControlPacket}

theorem fixedHeader_of_readPacket
    (accepted : readPacket (⟨bytes⟩ : Buffer) = .ok (controlPacket, ⟨rest⟩)) :
    controlPacket.fixedHeader.messageType = controlPacket.messageType ∧
      controlPacket.fixedHeader.flags = 0 ∧
      controlPacket.fixedHeader.remainingLength < 2 ^ 28 := by
  obtain ⟨_, -, packetType, digits, body, -, taken, announced, -, rfl⟩ :=
    (readPacket_accepts _ _ _).mp accepted
  have below := taken.lengthValue_lt
  rw [← announced] at below
  cases packetType <;> exact ⟨rfl, rfl, below⟩

/-- What `ReadPacket` returns is never larger than the length fields express. -/
theorem expressible_of_readPacket
    (accepted : readPacket (⟨bytes⟩ : Buffer) = .ok (controlPacket, ⟨rest⟩)) :
    controlPacket.Expressible := by
  obtain ⟨_, -, packetType, digits, body, -, taken, announced, -, rfl⟩ :=
    (readPacket_accepts _ _ _).mp accepted
  cases packetType with
  | connect =>
      have below := (bigEndianUint16 (body.drop 8)).toNat_lt
      have short := List.length_take_le
        (bigEndianUint16 (body.drop 8)).toNat (body.drop 10)
      change ((body.drop 10).take _).length ≤ 65535
      omega
  | push =>
      have below := taken.lengthValue_lt
      change (body.drop 1).length ≤ 2 ^ 28 - 2
      rw [List.length_drop]
      omega
  | _ => trivial

theorem expressible_normalised {packet again : ControlPacket}
    (same : again.content = packet.content.normalised)
    (expressible : again.Expressible) : packet.Expressible := by
  cases packet with
  | connect packet =>
      cases again with
      | connect other =>
          obtain ⟨-, -, -, -, credential⟩ := Content.connect.inj same
          change packet.credential.length ≤ 65535
          rw [← credential]
          exact expressible
      | _ => cases same
  | push packet =>
      cases again with
      | push other =>
          obtain ⟨-, payload⟩ := Content.push.inj same
          change packet.payload.length ≤ 2 ^ 28 - 2
          rw [← payload]
          exact expressible
      | _ => cases same
  | _ => trivial

/-- The header of a ping is all it writes, so that what it announces is missing
behind it. -/
theorem remainingLength_of_pack_accepted {header : FixedHeader}
    (small : header.messageType.toNat < 16) (noFlags : header.flags = 0)
    (fits : header.remainingLength < 2 ^ 28)
    (accepted : readPacket (⟨header.pack⟩ : Buffer) =
      .ok (controlPacket, ⟨rest⟩)) :
    header.remainingLength = 0 := by
  by_contra announcing
  obtain ⟨failure, failed⟩ := @readPacket_pack_short header [] small noFlags fits
    (Nat.pos_of_ne_zero announcing)
  rw [List.append_nil, accepted] at failed
  cases failed

/-- A packet that was read is written as a frame that reads back, and the frame
of that is the same again, unless it is a ping that came with a body. -/
theorem readsBack_of_readPacket_iff
    (accepted : readPacket (⟨bytes⟩ : Buffer) = .ok (controlPacket, ⟨rest⟩)) :
    controlPacket.ReadsBack [] ↔ controlPacket.AnnouncesItsBody := by
  obtain ⟨own, noFlags, fits⟩ := fixedHeader_of_readPacket accepted
  constructor
  · rintro ⟨again, isRead, -, -⟩
    rw [List.append_nil] at isRead
    have small : controlPacket.fixedHeader.messageType.toNat < 16 := by
      rw [own]
      exact controlPacket.messageType_lt
    cases controlPacket with
    | pingreq packet =>
        exact remainingLength_of_pack_accepted small noFlags fits isRead
    | pingresp packet =>
        exact remainingLength_of_pack_accepted small noFlags fits isRead
    | _ => trivial
  · intro announces
    exact (expressible_of_readPacket accepted).readsBack announces own []

/-- A DISCONNECT with a body that is longer than its one field. -/
theorem readsBack_of_readPacket_iff_disconnect :
    readPacket (⟨[0xE0, 2, 7, 8]⟩ : Buffer) =
        .ok (.disconnect ⟨⟨14, 0, 2⟩, 7⟩, ⟨[]⟩) ∧
      (ControlPacket.disconnect ⟨⟨14, 0, 2⟩, 7⟩).ReadsBack [] := by
  have accepted : readPacket (⟨[0xE0, 2, 7, 8]⟩ : Buffer) =
      .ok (.disconnect ⟨⟨14, 0, 2⟩, 7⟩, ⟨[]⟩) := by
    apply (readPacket_accepts _ _ _).mpr
    exact ⟨_, rfl, .disconnect, [2], [7, 8], rfl, .last (by decide), rfl,
      by decide, rfl⟩
  exact ⟨accepted, (readsBack_of_readPacket_iff accepted).mpr trivial⟩

/-- A PINGREQ that came with one byte is written without it, under a header that
still announces it. -/
theorem pingreq_with_body_not_reencoded :
    readPacket (⟨[0x50, 1, 7]⟩ : Buffer) =
        .ok (.pingreq ⟨⟨5, 0, 1⟩⟩, ⟨[]⟩) ∧
      (ControlPacket.pingreq ⟨⟨5, 0, 1⟩⟩).frame = [0x50, 1] ∧
      ∃ failure, readPacket (⟨[0x50, 1]⟩ : Buffer) = .error failure := by
  refine ⟨?_, ?_, ?_⟩
  · apply (readPacket_accepts _ _ _).mpr
    exact ⟨_, rfl, .pingreq, [1], [7], rfl, .last (by decide), rfl,
      by decide, rfl⟩
  · exact congrArg (_ :: ·) (encodeLength_of_lt (by decide))
  · have short := @readPacket_pack_short ⟨5, 0, 1⟩ [] (by decide) rfl (by decide)
      Nat.one_pos
    rwa [List.append_nil, FixedHeader.pack, encodeLength_of_lt (by decide)]
      at short

end Accepted

section Oversize

open ControlPacket

/-- A credential is read with its length modulo `2 ^ 16`, as long as the whole
body fits the remaining length. -/
theorem readPacket_connect_frame {packet : ConnectPacket}
    (own : packet.fixedHeader = FixedHeader.ofType MessageType.connect)
    (fits : packet.body.length < 2 ^ 28) (tail : Bytes) :
    readPacket (⟨(ControlPacket.connect packet).frame ++ tail⟩ : Buffer) =
      .ok (.connect { packet.write.2 with
        credential := packet.credential.take
          (packet.credential.length % 65536) }, ⟨tail⟩) := by
  have credential := decodeBytes_encodeBytes packet.credential []
  rw [List.append_nil, List.append_nil] at credential
  rw [frame_eq, List.append_assoc]
  have isRead := @readPacket_pack_append
    { FixedHeader.ofType MessageType.connect with
      remainingLength := packet.body.length } packet.body tail
    (show MessageType.connect.toNat < 16 by decide) rfl rfl fits
  simp only [write, fixedHeader, body, ConnectPacket.write, own, Prod.map_snd,
    isRead]
  simp [newControlPacketWithHeader, emptyPacket, FixedHeader.ofType,
    ControlPacket.unpack, ConnectPacket.unpack, ConnectPacket.body, credential]
  rfl

/-- `Write` emits something for every packet.  A CONNECT or PUSH is read back
from it if the length fields can express its size, and otherwise its credential
or payload is read from it in no stream. -/
theorem readsBack_iff_expressible {packet : ControlPacket}
    (sized : packet.messageType = MessageType.connect ∨
      packet.messageType = MessageType.push)
    (own : packet.fixedHeader.messageType = packet.messageType) :
    (packet.Expressible → ∀ tail, packet.ReadsBack tail) ∧
      ((packet.frame = [] ∨ ∃ tail, packet.ReadsBack tail) →
        packet.Expressible) := by
  constructor
  · intro expressible tail
    have announces : packet.AnnouncesItsBody := by
      apply announcesItsBody_of_ne
      · rcases sized with isType | isType <;> rw [isType] <;> decide
      · rcases sized with isType | isType <;> rw [isType] <;> decide
    exact expressible.readsBack announces own tail
  · rintro (empty | ⟨tail, again, isRead, same, -⟩)
    · exact absurd empty packet.frame_ne_nil
    · exact expressible_normalised same (expressible_of_readPacket isRead)

/-- A CONNECT of sixteen credential bytes. -/
theorem readsBack_iff_expressible_connect :
    (ControlPacket.connect ⟨FixedHeader.ofType MessageType.connect, 0x637a7175,
      1, 0, 60, List.replicate 16 97⟩).ReadsBack [] := by
  apply (readsBack_iff_expressible (.inl rfl) rfl).1
  change (List.replicate 16 (97 : UInt8)).length ≤ 65535
  decide

/-- Of a credential of 65537 bytes one is read. -/
theorem readPacket_long_credential {credential : Bytes}
    (size : credential.length = 65537) :
    readPacket (⟨(ControlPacket.connect
        ⟨FixedHeader.ofType MessageType.connect, 0x637a7175, 1, 0, 60,
          credential⟩).frame⟩ : Buffer) =
      .ok (.connect ⟨⟨1, 0, 65547⟩, 0x637a7175, 1, 0, 60, credential.take 1⟩,
        ⟨[]⟩) := by
  have bodySize : (ConnectPacket.body ⟨FixedHeader.ofType MessageType.connect,
      0x637a7175, 1, 0, 60, credential⟩).length = 65547 := by
    simp only [ConnectPacket.body, List.length_append, List.length_singleton,
      encodeUint32_length, encodeUint16_length, encodeBytes_length, size]
  have isRead := @readPacket_connect_frame
    ⟨FixedHeader.ofType MessageType.connect, 0x637a7175, 1, 0, 60, credential⟩ rfl
    (by rw [bodySize]; omega) []
  rw [List.append_nil] at isRead
  simp only [ConnectPacket.write, bodySize, size] at isRead
  exact isRead

/-- A credential of 65537 bytes is written and read as one of a single byte, and
a payload of `2 ^ 28` bytes as an empty one in front of a stray body. -/
theorem oversize_not_refused :
    readPacket (⟨(ControlPacket.connect
        ⟨FixedHeader.ofType MessageType.connect, 0x637a7175, 1, 0, 60,
          List.replicate 65537 97⟩).frame⟩ : Buffer) =
        .ok (.connect ⟨⟨1, 0, 65547⟩, 0x637a7175, 1, 0, 60, [97]⟩, ⟨[]⟩) ∧
      readPacket (⟨(ControlPacket.push ⟨FixedHeader.ofType MessageType.push, 0,
          List.replicate (2 ^ 28) 97⟩).frame⟩ : Buffer) =
        .ok (.push ⟨⟨3, 0, 1⟩, 1, []⟩,
          ⟨0x00 :: List.replicate (2 ^ 28) 97⟩) := by
  have isRead := @readPacket_long_credential (List.replicate 65537 97)
    List.length_replicate
  rw [List.take_replicate] at isRead
  exact ⟨isRead, readPacket_long_push List.length_replicate 0⟩

end Oversize

end Codec

end RmttGo
