import RmttGo.FrameAcceptance

/-!
# The length field at its limits

Below `2 ^ 28` the digits `encodeLength` writes are the shortest ones that
`decodeLength` reads as the number.  From there on a fifth digit is written
which `decodeLength` does not look for: it takes four digits that all announce
a further one for a length, and leaves the rest of the field to the body.
-/

namespace RmttGo

namespace Codec

section Canonical

theorem encodeLength_length_le_iff (length count : Nat) :
    (encodeLength length).length ≤ count + 1 ↔ length < 128 ^ (count + 1) := by
  induction count generalizing length with
  | zero =>
      by_cases small : length < 128
      · simp [encodeLength_of_lt small, small]
      · have further := List.length_pos_iff.mpr
          (encodeLength_ne_nil (length / 128))
        rw [encodeLength_of_ge (Nat.le_of_not_lt small), List.length_cons]
        omega
  | succ count ih =>
      by_cases small : length < 128
      · have below : 128 ≤ 128 ^ (count + 1 + 1) :=
          Nat.le_self_pow (Nat.succ_ne_zero _) 128
        simp only [encodeLength_of_lt small, List.length_singleton]
        omega
      · rw [encodeLength_of_ge (Nat.le_of_not_lt small), List.length_cons,
          Nat.add_le_add_iff_right, ih, Nat.pow_succ 128 (count + 1)]
        exact Nat.div_lt_iff_lt_mul (by omega)

/-- The digits of a number are at least as many as `encodeLength` writes. -/
theorem encodeLength_length_le_of_lengthValue {digits : Bytes}
    (nonempty : digits ≠ []) :
    (encodeLength (lengthValue digits)).length ≤ digits.length := by
  obtain ⟨count, length⟩ := Nat.exists_eq_succ_of_ne_zero
    (Nat.ne_of_gt (List.length_pos_iff.mpr nonempty))
  rw [length, Nat.succ_eq_add_one, encodeLength_length_le_iff]
  have below := lengthValue_lt digits
  rwa [length] at below

/-- Below `2 ^ 28` the length field is read back in front of anything, takes
one to four bytes, and no fewer bytes are read as the same length. -/
theorem encodeLength_canonical {length : Nat} (fits : length < 2 ^ 28) :
    (∀ tail : Bytes, decodeLength (⟨encodeLength length ++ tail⟩ : Buffer) =
        .ok (length, ⟨tail⟩)) ∧
      1 ≤ (encodeLength length).length ∧ (encodeLength length).length ≤ 4 ∧
      ∀ digits tail : Bytes,
        decodeLength (⟨digits ++ tail⟩ : Buffer) = .ok (length, ⟨tail⟩) →
          (encodeLength length).length ≤ digits.length := by
  refine ⟨fun tail => decodeLength_encodeLength tail fits,
    List.length_pos_iff.mpr (encodeLength_ne_nil length),
    (encodeLength_length_le_iff length 3).mpr fits, ?_⟩
  intro digits tail decoded
  obtain ⟨front, isFront, taken, value⟩ :=
    (decodeLength_accepts _ _ _).mp decoded
  obtain rfl : digits = front := List.append_cancel_right isFront
  rw [value]
  apply encodeLength_length_le_of_lengthValue
  rintro rfl
  cases taken

/-- A length on the boundary between two and three digits. -/
theorem encodeLength_canonical_16384 :
    16384 < 2 ^ 28 ∧
      decodeLength (⟨encodeLength 16384 ++ [7]⟩ : Buffer) =
        .ok (16384, ⟨[7]⟩) :=
  ⟨by decide, (encodeLength_canonical (by decide)).1 [7]⟩

end Canonical

section Unterminated

theorem LengthDigits.of_all_continue {digits : Bytes}
    (allContinue : ∀ digit ∈ digits, 128 ≤ digit.toNat) :
    LengthDigits digits.length digits := by
  induction digits with
  | nil => exact .full
  | cons digit digits ih =>
      obtain ⟨continues, laterContinue⟩ := List.forall_mem_cons.mp allContinue
      exact .more continues (ih laterContinue)

/-- The first digits of a long length stand for the length modulo their place
value, and all announce a further one. -/
theorem encodeLength_of_large {length : Nat} (count : Nat)
    (large : 128 ^ count ≤ length) :
    ∃ continued : Bytes, continued.length = count ∧
      (∀ digit ∈ continued, 128 ≤ digit.toNat) ∧
      lengthValue continued = length % 128 ^ count ∧
      encodeLength length = continued ++ encodeLength (length / 128 ^ count) := by
  induction count generalizing length with
  | zero => exact ⟨[], rfl, nofun, by simp [lengthValue, Nat.mod_one], by simp⟩
  | succ count ih =>
      have positive : 0 < 128 ^ count := Nat.pow_pos (by omega)
      rw [Nat.pow_succ] at large ⊢
      have quotientLarge : 128 ^ count ≤ length / 128 :=
        (Nat.le_div_iff_mul_le (by omega)).mpr large
      obtain ⟨continued, size, allContinue, value, encoded⟩ := ih quotientLarge
      have digit := toNat_continued (Nat.mod_lt length (by omega : 0 < 128))
      refine ⟨(UInt8.ofNat (length % 128) ||| 0x80) :: continued, ?_, ?_, ?_, ?_⟩
      · rw [List.length_cons, size]
      · rw [List.forall_mem_cons, digit]
        exact ⟨by omega, allContinue⟩
      · rw [lengthValue, digit, value, Nat.mul_comm (128 ^ count), Nat.mod_mul]
        omega
      · rw [encodeLength_of_ge (by omega), encoded, Nat.div_div_eq_div_mul,
          Nat.mul_comm (128 ^ count), List.cons_append]

theorem decodeLength_unterminated {digits : Bytes} (four : digits.length = 4)
    (allContinue : ∀ digit ∈ digits, 128 ≤ digit.toNat) (rest : Bytes) :
    decodeLength (⟨digits ++ rest⟩ : Buffer) =
      .ok (lengthValue digits, ⟨rest⟩) := by
  have taken := LengthDigits.of_all_continue allContinue
  rw [four] at taken
  exact (decodeLength_accepts _ _ _).mpr ⟨digits, rfl, taken, rfl⟩

/-- The bytes behind four unterminated digits make up a body of the type and of
the length these digits are taken for. -/
def TakenAsBody (packetType : PacketType) (typeAndFlags : UInt8)
    (digits rest : Bytes) : Prop :=
  typeAndFlags = packetType.code * 16 ∧ lengthValue digits ≤ rest.length ∧
    packetType.minimum (rest.take (lengthValue digits)) ≤ lengthValue digits

theorem readPacket_unterminated_eq_ok_iff {typeAndFlags : UInt8}
    {digits : Bytes} (four : digits.length = 4)
    (allContinue : ∀ digit ∈ digits, 128 ≤ digit.toNat)
    (rest : Bytes) (controlPacket : ControlPacket) (behind : Bytes) :
    readPacket (⟨typeAndFlags :: (digits ++ rest)⟩ : Buffer) =
        .ok (controlPacket, ⟨behind⟩) ↔
      ∃ packetType : PacketType, TakenAsBody packetType typeAndFlags digits rest ∧
        behind = rest.drop (lengthValue digits) ∧
        controlPacket = packetType.packet
          ⟨packetType.code, 0, lengthValue digits⟩
          (rest.take (lengthValue digits)) := by
  have unterminated := LengthDigits.of_all_continue allContinue
  rw [four] at unterminated
  rw [readPacket_accepts]
  constructor
  · rintro ⟨_, split, packetType, other, body, rfl, taken, announced, long, rfl⟩
    rw [List.cons_append, List.cons.injEq, List.append_assoc] at split
    obtain ⟨isType, split⟩ := split
    obtain ⟨sameLength, sameRest⟩ := decodeLength_accepts.unique
      ⟨unterminated, rfl⟩ ⟨taken, rfl⟩ split
    rw [← sameLength] at announced
    have isBody : rest.take (lengthValue digits) = body := by
      rw [sameRest, ← announced, List.take_left]
    have isBehind : rest.drop (lengthValue digits) = behind := by
      rw [sameRest, ← announced, List.drop_left]
    refine ⟨packetType, ⟨isType, ?_, ?_⟩, isBehind.symm, ?_⟩
    · rw [sameRest, List.length_append]
      omega
    · rwa [isBody, ← announced]
    · rw [isBody, announced]
  · rintro ⟨packetType, ⟨rfl, long, enough⟩, rfl, rfl⟩
    have length : (rest.take (lengthValue digits)).length = lengthValue digits :=
      List.length_take_of_le long
    refine ⟨packetType.code * 16 :: (digits ++ rest.take (lengthValue digits)),
      ?_, packetType, digits, _, rfl, unterminated, length, ?_, ?_⟩
    · simp
    · rwa [length]
    · rw [length]

/-- Four length bytes that all have the continuation bit set are never an error
of `decodeLength`; `ReadPacket` fails on them exactly if nothing behind them can
be taken for a packet of the length they stand for. -/
theorem readPacket_unterminated_fails_iff {typeAndFlags : UInt8}
    {digits : Bytes} (four : digits.length = 4)
    (allContinue : ∀ digit ∈ digits, 128 ≤ digit.toNat) (rest : Bytes) :
    decodeLength (⟨digits ++ rest⟩ : Buffer) =
        .ok (lengthValue digits, ⟨rest⟩) ∧
      ((∃ failure, readPacket (⟨typeAndFlags :: (digits ++ rest)⟩ : Buffer) =
          .error failure) ↔
        ∀ packetType, ¬ TakenAsBody packetType typeAndFlags digits rest) := by
  refine ⟨decodeLength_unterminated four allContinue rest, ?_⟩
  have accepts := @readPacket_unterminated_eq_ok_iff typeAndFlags digits four
    allContinue rest
  constructor
  · rintro ⟨failure, failed⟩ packetType isBody
    have accepted := (accepts _ _).mpr ⟨packetType, isBody, rfl, rfl⟩
    rw [failed] at accepted
    cases accepted
  · intro nothing
    cases result : readPacket (⟨typeAndFlags :: (digits ++ rest)⟩ : Buffer) with
    | error failure => exact ⟨failure, rfl⟩
    | ok outcome =>
        obtain ⟨controlPacket, ⟨behind⟩⟩ := outcome
        obtain ⟨packetType, isBody, -, -⟩ := (accepts _ _).mp result
        exact (nothing packetType isBody).elim

/-- A DISCONNECT whose unterminated field stands for a body of two bytes, of
which only one is there. -/
theorem readPacket_unterminated_fails_iff_disconnect :
    ([0x82, 0x80, 0x80, 0x80] : Bytes).length = 4 ∧
      ∃ failure, readPacket
        (⟨0xE0 :: ([0x82, 0x80, 0x80, 0x80] ++ [7])⟩ : Buffer) =
          .error failure := by
  refine ⟨rfl, ((readPacket_unterminated_fails_iff rfl ?_ [7]).2).mpr ?_⟩
  · simp
  · rintro packetType ⟨-, long, -⟩
    revert long
    decide

theorem encodeLength_five_digits :
    encodeLength (1 + 2 ^ 28) = [0x81, 0x80, 0x80, 0x80, 0x01] := by
  rw [encodeLength_of_ge (by omega), encodeLength_of_ge (by omega),
    encodeLength_of_ge (by omega), encodeLength_of_ge (by omega),
    encodeLength_of_lt (by omega)]
  decide

/-- The fifth length byte of a long PUSH is read as the reserved byte of an
empty one, and the body is left for the next packet. -/
theorem readPacket_long_push {payload : Bytes} (size : payload.length = 2 ^ 28)
    (reserved : UInt8) :
    readPacket (⟨(ControlPacket.push ⟨FixedHeader.ofType MessageType.push,
        reserved, payload⟩).frame⟩ : Buffer) =
      .ok (.push ⟨⟨3, 0, 1⟩, 1, []⟩, ⟨0x00 :: payload⟩) := by
  have written : (ControlPacket.push ⟨FixedHeader.ofType MessageType.push,
      reserved, payload⟩).frame =
        0x30 :: ([0x81, 0x80, 0x80, 0x80] ++ 0x01 :: 0x00 :: payload) := by
    simp only [ControlPacket.frame, ControlPacket.write, Prod.map_fst, id,
      PushPacket.write, FixedHeader.pack, List.length_singleton, size,
      encodeLength_five_digits]
    rfl
  rw [written]
  apply (@readPacket_unterminated_eq_ok_iff 0x30 [0x81, 0x80, 0x80, 0x80] rfl
    (by simp) _ _ _).mpr
  refine ⟨.push, ⟨rfl, ?_, Nat.le_refl 1⟩, rfl, rfl⟩
  exact Nat.succ_le_succ (Nat.zero_le _)

/-- Four continued bytes are a length and, behind a type, a whole PINGREQ.  A
PUSH of `2 ^ 28` bytes is read as an empty one. -/
theorem unterminated_accepted :
    decodeLength (⟨[0x80, 0x80, 0x80, 0x80]⟩ : Buffer) = .ok (0, ⟨[]⟩) ∧
      readPacket (⟨[0x50, 0x80, 0x80, 0x80, 0x80]⟩ : Buffer) =
        .ok (.pingreq ⟨⟨5, 0, 0⟩⟩, ⟨[]⟩) ∧
      readPacket (⟨(ControlPacket.push ⟨FixedHeader.ofType MessageType.push, 0,
          List.replicate (2 ^ 28) 7⟩).frame⟩ : Buffer) =
        .ok (.push ⟨⟨3, 0, 1⟩, 1, []⟩,
          ⟨0x00 :: List.replicate (2 ^ 28) 7⟩) := by
  refine ⟨?_, ?_, ?_⟩
  · exact @decodeLength_unterminated [0x80, 0x80, 0x80, 0x80] rfl (by simp) []
  · apply (@readPacket_unterminated_eq_ok_iff 0x50 [0x80, 0x80, 0x80, 0x80] rfl
      (by simp) [] _ _).mpr
    exact ⟨.pingreq, ⟨rfl, by decide, by decide⟩, rfl, rfl⟩
  · exact readPacket_long_push List.length_replicate 0

end Unterminated

end Codec

end RmttGo
