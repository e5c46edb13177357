import RmttGo.StreamRoundTrip
import RmttGo.Transport

/-!
# What a reader makes of a wire

A reader that has received some beginning of the bytes on a wire reads a
beginning of the packets that are on the wire in full, as long as no byte
follows a torn frame.
-/

namespace RmttGo

namespace Codec

open ControlPacket

/-- A proper prefix of a frame, which may be empty. -/
def CutFrame (bytes : Bytes) : Prop :=
  bytes = [] ∨ ∃ packet : ControlPacket, packet.Representable ∧
    bytes <+: packet.frame ∧ bytes.length < packet.frame.length

theorem CutFrame.readPacket_error {bytes : Bytes} (cut : CutFrame bytes) :
    ∃ failure, readPacket (⟨bytes⟩ : Buffer) = .error failure := by
  rcases cut with rfl | ⟨packet, representable, ⟨missing, isFrame⟩, shorter⟩
  · exact ⟨.read .eof, by simp [readPacket]⟩
  · apply readPacket_truncated representable isFrame
    rintro rfl
    rw [List.append_nil] at isFrame
    exact absurd (congrArg List.length isFrame) shorter.ne

theorem CutFrame.of_prefix {bytes front : Bytes} (cut : CutFrame bytes)
    (isFront : front <+: bytes) : CutFrame front := by
  rcases cut with rfl | ⟨packet, representable, isPrefix, shorter⟩
  · exact .inl (List.prefix_nil.mp isFront)
  · exact .inr ⟨packet, representable, isFront.trans isPrefix,
      isFront.length_le.trans_lt shorter⟩

/-- The packets that are read from a beginning of a stream of frames are a
beginning of its packets. -/
theorem readsTo_prefix {received : Buffer} {read : List ControlPacket}
    {unread : Buffer} (reads : ReadsTo readPacket received read unread)
    {packets : List ControlPacket} {tail : Bytes}
    (representable : ∀ packet ∈ packets, packet.Representable)
    (cut : CutFrame tail)
    (isPrefix : received.unread <+: packets.flatMap frame ++ tail) :
    read <+: packets.map fun packet => packet.write.2 := by
  induction reads generalizing packets with
  | done => exact List.nil_prefix
  | @step received later unread packet read isRead _ ih =>
      have notCut : ¬ CutFrame received.unread := by
        intro isCut
        obtain ⟨failure, failed⟩ := isCut.readPacket_error
        cases isRead.symm.trans failed
      cases packets with
      | nil => exact absurd (cut.of_prefix isPrefix) notCut
      | cons first packets =>
          have firstRepresentable := representable first List.mem_cons_self
          rw [List.flatMap_cons, List.append_assoc] at isPrefix
          by_cases whole : first.frame.length ≤ received.unread.length
          · obtain ⟨rest, split⟩ : first.frame <+: received.unread :=
              List.prefix_of_prefix_length_le (List.prefix_append _ _) isPrefix whole
            have isFirst : readPacket received = .ok (first.write.2, ⟨rest⟩) := by
              rw [← readPacket_frame_append firstRepresentable rest, split]
            rw [← split, List.prefix_append_right_inj] at isPrefix
            cases isRead.symm.trans isFirst
            rw [List.map_cons, List.cons_prefix_cons]
            exact ⟨rfl, ih (fun packet isPacket =>
              representable packet (List.mem_cons_of_mem _ isPacket)) isPrefix⟩
          · refine absurd (.inr ⟨first, firstRepresentable, ?_, not_le.mp whole⟩) notCut
            exact List.prefix_of_prefix_length_le isPrefix (List.prefix_append _ _)
              (not_le.mp whole).le

/-- A reader that gets no further on a whole stream has read all its packets. -/
theorem readsTo_eq {received : Buffer} {read : List ControlPacket} {unread : Buffer}
    (reads : ReadsTo readPacket received read unread) {failure : Error}
    (stuck : readPacket unread = .error failure)
    {packets : List ControlPacket} {tail : Bytes}
    (representable : ∀ packet ∈ packets, packet.Representable)
    (cut : CutFrame tail) (whole : received.unread = packets.flatMap frame ++ tail) :
    read = packets.map fun packet => packet.write.2 := by
  induction reads generalizing packets with
  | @done received =>
      cases packets with
      | nil => rfl
      | cons first packets =>
          have isFirst := readPacket_frame_append
            (representable first List.mem_cons_self) (packets.flatMap frame ++ tail)
          rw [← List.append_assoc, ← List.flatMap_cons, ← whole] at isFirst
          cases isFirst.symm.trans stuck
  | @step received later unread packet read isRead _ ih =>
      cases packets with
      | nil =>
          obtain ⟨failure, failed⟩ := cut.readPacket_error
          rw [List.flatMap_nil, List.nil_append] at whole
          rw [← whole] at failed
          cases isRead.symm.trans failed
      | cons first packets =>
          have isFirst := readPacket_frame_append
            (representable first List.mem_cons_self) (packets.flatMap frame ++ tail)
          rw [← List.append_assoc, ← List.flatMap_cons, ← whole] at isFirst
          cases isRead.symm.trans isFirst
          rw [List.map_cons]
          exact congrArg _ (ih stuck (fun packet isPacket =>
            representable packet (List.mem_cons_of_mem _ isPacket)) rfl)

section Writes

variable {Message : Type*} {encode : Message → Bytes} {packet : Message → ControlPacket}
  {writes : List (Delivery encode)} {stream : Bytes} {read : List ControlPacket}
  {unread : Buffer}

/-- Framed writes amount to the frames that are on the wire in full. -/
theorem exists_cutFrame_of_framed
    (isFrame : ∀ message, encode message = (packet message).frame)
    (framed : Framed writes)
    (representable : ∀ delivery ∈ writes, (packet delivery.message).Representable) :
    ∃ tail, CutFrame tail ∧ writes.flatMap Delivery.bytes =
        ((completeMessages writes).map packet).flatMap frame ++ tail ∧
      ∀ sent ∈ (completeMessages writes).map packet, sent.Representable := by
  obtain ⟨tail, bytes, cut⟩ := framed.bytes_eq
  have frames (messages : List Message) :
      messages.flatMap encode = (messages.map packet).flatMap frame := by
    rw [List.flatMap_map]
    exact congrArg (messages.flatMap ·) (funext isFrame)
  rw [frames] at bytes
  refine ⟨tail, ?_, bytes, ?_⟩
  · rcases cut with rfl | ⟨delivery, isWritten, isPrefix, shorter⟩
    · exact .inl rfl
    · rw [isFrame] at isPrefix shorter
      exact .inr ⟨_, representable delivery isWritten, isPrefix, shorter⟩
  · intro sent isSent
    obtain ⟨message, isMessage, rfl⟩ := List.mem_map.mp isSent
    obtain ⟨delivery, isWritten, rfl⟩ := List.mem_map.mp isMessage
    exact representable delivery (List.mem_filter.mp isWritten).1

theorem readsTo_prefix_of_framed
    (isFrame : ∀ message, encode message = (packet message).frame)
    (framed : Framed writes)
    (representable : ∀ delivery ∈ writes, (packet delivery.message).Representable)
    (reads : ReadsTo readPacket ⟨stream⟩ read unread)
    (received : stream <+: writes.flatMap Delivery.bytes) :
    read <+: (completeMessages writes).map fun message => (packet message).write.2 := by
  obtain ⟨tail, cut, bytes, sent⟩ :=
    exists_cutFrame_of_framed isFrame framed representable
  rw [bytes] at received
  have isPrefix := readsTo_prefix reads sent cut received
  rwa [List.map_map] at isPrefix

theorem readsTo_eq_of_framed
    (isFrame : ∀ message, encode message = (packet message).frame)
    (framed : Framed writes)
    (representable : ∀ delivery ∈ writes, (packet delivery.message).Representable)
    (reads : ReadsTo readPacket ⟨stream⟩ read unread) {failure : Error}
    (stuck : readPacket unread = .error failure)
    (received : stream = writes.flatMap Delivery.bytes) :
    read = (completeMessages writes).map fun message => (packet message).write.2 := by
  obtain ⟨tail, cut, bytes, sent⟩ :=
    exists_cutFrame_of_framed isFrame framed representable
  rw [readsTo_eq reads stuck sent cut (received.trans bytes), List.map_map]
  rfl

end Writes

end Codec

end RmttGo
