import RmttGo.ChunkingIndependence
import RmttGo.PacketErrors

/-!
# Where a read loop stops

A loop around `ReadPacket` that goes on until an error or until a packet of
certain kinds.  What it has read is determined by the bytes up to the end of the
frame it stops at.
-/

namespace RmttGo

namespace Codec

section Extent

/-- How many of the bytes belong to the frame in front, as far as `ReadPacket`
looks at it: flags end it at once, and an unknown type behind the length field.
A frame that is cut off takes all there is. -/
def frameExtent : Bytes → Nat
  | [] => 0
  | typeAndFlags :: rest =>
      if typeAndFlags &&& 0x0F ≠ 0 then
        1
      else
        match decodeLength (⟨rest⟩ : Buffer) with
        | .error _ => rest.length + 1
        | .ok (remainingLength, ⟨body⟩) =>
            let headerLength := rest.length + 1 - body.length
            match emptyPacket ⟨typeAndFlags >>> 4, 0, remainingLength⟩ with
            | none => headerLength
            | some _ => headerLength + min remainingLength body.length

theorem frameExtent_of_flags {typeAndFlags : UInt8} {rest : Bytes}
    (flags : typeAndFlags &&& 0x0F ≠ 0) :
    frameExtent (typeAndFlags :: rest) = 1 :=
  if_pos flags

theorem frameExtent_of_cut {typeAndFlags : UInt8} {rest : Bytes}
    {failure : ReadError} (noFlags : typeAndFlags &&& 0x0F = 0)
    (failed : decodeLength (⟨rest⟩ : Buffer) = .error failure) :
    frameExtent (typeAndFlags :: rest) = rest.length + 1 := by
  simp [frameExtent, noFlags, failed]

theorem frameExtent_of_unknown {typeAndFlags : UInt8} {digits body : Bytes}
    {length : Nat} (noFlags : typeAndFlags &&& 0x0F = 0)
    (decoded : decodeLength (⟨digits ++ body⟩ : Buffer) = .ok (length, ⟨body⟩))
    (unknown : emptyPacket ⟨typeAndFlags >>> 4, 0, length⟩ = none) :
    frameExtent (typeAndFlags :: (digits ++ body)) = digits.length + 1 := by
  simp [frameExtent, noFlags, decoded, unknown]
  omega

theorem frameExtent_of_known {typeAndFlags : UInt8} {digits body : Bytes}
    {length : Nat} {packet : ControlPacket}
    (noFlags : typeAndFlags &&& 0x0F = 0)
    (decoded : decodeLength (⟨digits ++ body⟩ : Buffer) = .ok (length, ⟨body⟩))
    (known : emptyPacket ⟨typeAndFlags >>> 4, 0, length⟩ = some packet) :
    frameExtent (typeAndFlags :: (digits ++ body)) =
      digits.length + 1 + min length body.length := by
  simp [frameExtent, noFlags, decoded, known]
  omega

theorem readBody_take_append {header : FixedHeader} {packet : ControlPacket}
    (known : emptyPacket header = some packet) {body : Bytes}
    (enough : header.remainingLength ≤ body.length) (other : Bytes) :
    readBody header (⟨body.take header.remainingLength ++ other⟩ : Buffer) =
      (packet.unpack (⟨body.take header.remainingLength⟩ : Buffer)).map
        fun parsed => (parsed.1, ⟨other⟩) := by
  have length := List.length_take_of_le enough
  have isRead := Buffer.readFull_append (body.take header.remainingLength) other
  rw [length] at isRead
  simp only [readBody_of_known known, isRead, liftRead_ok, ok_bind,
    unpackBytes_of_eq length]
  cases packet.unpack (⟨body.take header.remainingLength⟩ : Buffer) <;> rfl

/-- Bytes behind the frame in front can be replaced by any others: `ReadPacket`
returns the same, and leaves those unread. -/
theorem readPacket_take_append {bytes : Bytes}
    (followed : frameExtent bytes < bytes.length) (other : Bytes) :
    readPacket (⟨bytes.take (frameExtent bytes) ++ other⟩ : Buffer) =
      (readPacket (⟨bytes⟩ : Buffer)).map fun parsed => (parsed.1, ⟨other⟩) := by
  cases bytes with
  | nil => simp at followed
  | cons typeAndFlags rest =>
      by_cases noFlags : typeAndFlags &&& 0x0F = 0
      · cases decoded : decodeLength (⟨rest⟩ : Buffer) with
        | error failure =>
            rw [frameExtent_of_cut noFlags decoded] at followed
            simp at followed
        | ok outcome =>
            obtain ⟨length, ⟨body⟩⟩ := outcome
            obtain ⟨digits, rfl, taken⟩ := (decodeLength_accepts _ _ _).mp decoded
            have decodedOther (behind : Bytes) :
                decodeLength (⟨digits ++ behind⟩ : Buffer) =
                  .ok (length, ⟨behind⟩) :=
              (decodeLength_accepts _ _ _).mpr ⟨digits, rfl, taken⟩
            rw [readPacket_cons_of_length noFlags decoded]
            cases built : emptyPacket ⟨typeAndFlags >>> 4, 0, length⟩ with
            | none =>
                rw [frameExtent_of_unknown noFlags decoded built,
                  List.take_succ_cons, List.take_left, List.cons_append,
                  readPacket_cons_of_length noFlags (decodedOther other),
                  readBody_of_unknown built]
                rfl
            | some packet =>
                rw [frameExtent_of_known noFlags decoded built] at followed ⊢
                have enough : length ≤ body.length := by
                  simp only [List.length_cons, List.length_append] at followed
                  omega
                rw [Nat.min_eq_left enough, Nat.add_right_comm,
                  List.take_succ_cons, List.take_length_add_append,
                  List.cons_append, List.append_assoc,
                  readPacket_cons_of_length noFlags (decodedOther _),
                  readBody_take_append built enough]
                have whole := readBody_take_append built enough (body.drop length)
                rw [List.take_append_drop] at whole
                rw [whole]
                cases packet.unpack (⟨body.take length⟩ : Buffer) <;> rfl
      · rw [frameExtent_of_flags noFlags]
        simp only [List.take_succ_cons, List.take_zero, List.cons_append,
          List.nil_append, readPacket_cons, FixedHeader.unpack_of_flags noFlags]
        rfl

end Extent

section Reading

inductive Stop
  | failure (failure : Error)
  | packet (packet : ControlPacket)
  deriving DecidableEq, Repr

/-- What a read loop has found in a stream. -/
structure Reading where
  /-- The packets before the stopping point. -/
  packets : List ControlPacket
  stop : Stop
  /-- What was unread as the loop came to the frame it stops at. -/
  last : Bytes
  deriving DecidableEq, Repr

def readUntil (ends : ControlPacket → Bool) (bytes : Bytes) : Reading :=
  match isRead : readPacket (⟨bytes⟩ : Buffer) with
  | .error failure => ⟨[], .failure failure, bytes⟩
  | .ok (packet, later) =>
      if ends packet then
        ⟨[], .packet packet, bytes⟩
      else
        have := length_lt_of_readPacket isRead
        let reading := readUntil ends later.unread
        { reading with packets := packet :: reading.packets }
termination_by bytes.length

/-- The number of bytes up to the end of the frame the loop stops at. -/
def stopPoint (ends : ControlPacket → Bool) (bytes : Bytes) : Nat :=
  bytes.length - (readUntil ends bytes).last.length +
    frameExtent (readUntil ends bytes).last

variable {ends : ControlPacket → Bool} {bytes : Bytes}

theorem readUntil_of_error {failure : Error}
    (failed : readPacket (⟨bytes⟩ : Buffer) = .error failure) :
    readUntil ends bytes = ⟨[], .failure failure, bytes⟩ := by
  rw [readUntil]
  split <;> simp_all

theorem readUntil_of_end {packet : ControlPacket} {later : Buffer}
    (isRead : readPacket (⟨bytes⟩ : Buffer) = .ok (packet, later))
    (isEnd : ends packet = true) :
    readUntil ends bytes = ⟨[], .packet packet, bytes⟩ := by
  rw [readUntil]
  split <;> simp_all

theorem readUntil_of_packet {packet : ControlPacket} {later : Buffer}
    (isRead : readPacket (⟨bytes⟩ : Buffer) = .ok (packet, later))
    (goesOn : ends packet = false) :
    readUntil ends bytes =
      { readUntil ends later.unread with
        packets := packet :: (readUntil ends later.unread).packets } := by
  rw [readUntil]
  split <;> simp_all

/-- The stop is what `ReadPacket` made of the last frame. -/
def Reading.StopsAtLast (ends : ControlPacket → Bool) (reading : Reading) : Prop :=
  match reading.stop with
  | .failure failure => readPacket (⟨reading.last⟩ : Buffer) = .error failure
  | .packet packet => ends packet = true ∧
      ∃ later, readPacket (⟨reading.last⟩ : Buffer) = .ok (packet, later)

theorem readUntil_stopsAtLast (ends : ControlPacket → Bool) (bytes : Bytes) :
    (readUntil ends bytes).StopsAtLast ends := by
  fun_induction readUntil ends bytes with
  | case1 bytes failure failed => exact failed
  | case2 bytes packet later isRead isEnd => exact ⟨isEnd, later, isRead⟩
  | case3 bytes packet later isRead goesOn shorter reading ih => exact ih

theorem goesOn_of_mem_packets {packet : ControlPacket}
    (isRead : packet ∈ (readUntil ends bytes).packets) : ends packet = false := by
  fun_induction readUntil ends bytes with
  | case1 bytes failure failed => cases isRead
  | case2 bytes first later isFirst isEnd => cases isRead
  | case3 bytes first later isFirst goesOn shorter reading ih =>
      rcases List.mem_cons.mp isRead with rfl | isLater
      · exact Bool.eq_false_of_not_eq_true goesOn
      · exact ih isLater

theorem length_last_le (ends : ControlPacket → Bool) (bytes : Bytes) :
    (readUntil ends bytes).last.length ≤ bytes.length := by
  fun_induction readUntil ends bytes with
  | case1 bytes failure failed => exact le_rfl
  | case2 bytes packet later isRead isEnd => exact le_rfl
  | case3 bytes packet later isRead goesOn shorter reading ih =>
      exact ih.trans shorter.le

theorem stopPoint_of_last (stops : (readUntil ends bytes).last = bytes) :
    stopPoint ends bytes = frameExtent bytes := by
  simp [stopPoint, stops]

theorem stopPoint_append {front behind : Bytes} {packet : ControlPacket}
    (isRead : readPacket (⟨front ++ behind⟩ : Buffer) = .ok (packet, ⟨behind⟩))
    (goesOn : ends packet = false) :
    stopPoint ends (front ++ behind) = front.length + stopPoint ends behind := by
  have shorter := length_last_le ends behind
  simp only [stopPoint, readUntil_of_packet isRead goesOn, List.length_append]
  omega

/-- The bytes behind the stopping point can be replaced by any others. -/
theorem readUntil_take_append (followed : stopPoint ends bytes < bytes.length)
    (other : Bytes) :
    (readUntil ends (bytes.take (stopPoint ends bytes) ++ other)).packets =
        (readUntil ends bytes).packets ∧
      (readUntil ends (bytes.take (stopPoint ends bytes) ++ other)).stop =
        (readUntil ends bytes).stop := by
  induction size : bytes.length using Nat.strongRecOn generalizing bytes with
  | ind size ih =>
      cases isRead : readPacket (⟨bytes⟩ : Buffer) with
      | error failure =>
          have stops := @readUntil_of_error ends bytes failure isRead
          rw [stopPoint_of_last (by rw [stops])] at followed ⊢
          have replaced := readPacket_take_append followed other
          rw [isRead] at replaced
          rw [readUntil_of_error replaced, stops]
          exact ⟨rfl, rfl⟩
      | ok outcome =>
          obtain ⟨packet, ⟨behind⟩⟩ := outcome
          cases isEnd : ends packet with
          | true =>
              have stops := readUntil_of_end isRead isEnd
              rw [stopPoint_of_last (by rw [stops])] at followed ⊢
              have replaced := readPacket_take_append followed other
              rw [isRead] at replaced
              rw [readUntil_of_end replaced isEnd, stops]
              exact ⟨rfl, rfl⟩
          | false =>
              obtain ⟨front, rfl, isFrame⟩ := (readPacket_accepts _ _ _).mp isRead
              have shorter := length_lt_of_readPacket isRead
              have point := stopPoint_append isRead isEnd
              rw [point, List.length_append] at followed
              obtain ⟨samePackets, sameStop⟩ :=
                ih behind.length (size ▸ shorter) (Nat.lt_of_add_lt_add_left followed)
                  rfl
              have replaced : readPacket
                  (⟨front ++ (behind.take (stopPoint ends behind) ++ other)⟩ :
                    Buffer) =
                  .ok (packet, ⟨behind.take (stopPoint ends behind) ++ other⟩) :=
                (readPacket_accepts _ _ _).mpr ⟨front, rfl, isFrame⟩
              rw [point, List.take_length_add_append, List.append_assoc,
                readUntil_of_packet replaced isEnd, readUntil_of_packet isRead isEnd]
              exact ⟨congrArg (packet :: ·) samePackets, sameStop⟩

end Reading

end Codec

end RmttGo
