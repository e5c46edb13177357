import RmttGo.ByteReader
import Mathlib.Data.Nat.Bitwise
import Mathlib.Tactic.Ring

/-!
# The remaining-length field

The frame header carries the length of what follows it in base 128, least
significant digit first, with the high bit of a byte announcing a further
one.  This file models `encodeLength` and `decodeLength` and connects the
shift-and-or accumulator of the decoder with ordinary addition.
-/

namespace RmttGo

namespace Codec

/-- `encodeLength`: emit digits until nothing is left of `length`. -/
def encodeLength (length : Nat) : List UInt8 :=
  let digit := UInt8.ofNat (length % 128)
  if 0 < length / 128 then
    (digit ||| 0x80) :: encodeLength (length / 128)
  else
    [digit]
termination_by length
decreasing_by omega

section Decoding

variable {σ : Type} [ByteReader σ]

def readByte (reader : σ) : Except ReadError (UInt8 × σ) := do
  let (bytes, reader) ← readFull 1 reader
  pure (bytes.headD 0, reader)

/-- The loop of `decodeLength`.  It is left at a digit without the
continuation bit, or when four digits have been read. -/
def decodeLengthLoop (rLength multiplier : UInt32) (reader : σ) :
    Except ReadError (UInt32 × σ) :=
  if _bounded : multiplier < 27 then do
    let (digit, reader) ← readByte reader
    let rLength := rLength ||| ((digit &&& 127).toUInt32 <<< multiplier)
    if digit &&& 128 = 0 then
      pure (rLength, reader)
    else
      decodeLengthLoop rLength (multiplier + 7) reader
  else
    pure (rLength, reader)
termination_by 27 - multiplier.toNat
decreasing_by
  have below : multiplier.toNat < 27 := _bounded
  have next : (multiplier + 7).toNat = multiplier.toNat + 7 := by
    rw [UInt32.toNat_add]
    exact Nat.mod_eq_of_lt (by change multiplier.toNat + 7 < 2 ^ 32; omega)
  omega

def decodeLength (reader : σ) : Except ReadError (Nat × σ) := do
  let (rLength, reader) ← decodeLengthLoop 0 0 reader
  pure (rLength.toNat, reader)

end Decoding

section Digits

theorem encodeLength_of_lt {length : Nat} (small : length < 128) :
    encodeLength length = [UInt8.ofNat length] := by
  rw [encodeLength]
  simp [Nat.div_eq_of_lt small, Nat.mod_eq_of_lt small]

theorem encodeLength_of_ge {length : Nat} (large : 128 ≤ length) :
    encodeLength length =
      (UInt8.ofNat (length % 128) ||| 0x80) :: encodeLength (length / 128) := by
  conv_lhs => rw [encodeLength]
  simp [Nat.div_pos large (by omega)]

theorem encodeLength_ne_nil (length : Nat) : encodeLength length ≠ [] := by
  rw [encodeLength]
  split <;> simp

theorem and_continuation_eq_zero_iff (digit : UInt8) :
    digit &&& 128 = 0 ↔ digit.toNat < 128 := by
  have table : ∀ value < 256,
      UInt8.ofNat value &&& 128 = 0 ↔ value < 128 := by decide +kernel
  simpa using table digit.toNat digit.toNat_lt

theorem toNat_and_127 (digit : UInt8) :
    (digit &&& 127).toUInt32.toNat = digit.toNat % 128 := by
  simpa using Nat.and_two_pow_sub_one_eq_mod digit.toNat 7

theorem toNat_continued {digit : Nat} (small : digit < 128) :
    (UInt8.ofNat digit ||| 0x80).toNat = digit + 128 := by
  have digitValue : (UInt8.ofNat digit).toNat = digit :=
    UInt8.toNat_ofNat_of_lt' (by change digit < 256; omega)
  rw [UInt8.toNat_or, digitValue]
  exact Nat.or_two_pow_eq_add_of_lt (n := 7) small

/-- Or-ing a number shifted past another one adds the two, as long as the
shifted one stays within the word. -/
theorem or_shiftLeft_eq_add {low : Nat} (high shift width : Nat)
    (below : low < 2 ^ shift) (fits : high * 2 ^ shift < 2 ^ width) :
    low ||| high <<< shift % 2 ^ width = low + high * 2 ^ shift := by
  rw [Nat.shiftLeft_eq, Nat.mod_eq_of_lt fits, Nat.or_comm,
    ← Nat.shiftLeft_eq, ← Nat.shiftLeft_add_eq_or_of_lt below,
    Nat.shiftLeft_eq, Nat.add_comm]

theorem toNat_accumulate {rLength multiplier : UInt32} (digit : UInt8)
    (shift : multiplier.toNat ≤ 21)
    (below : rLength.toNat < 2 ^ multiplier.toNat) :
    (rLength ||| ((digit &&& 127).toUInt32 <<< multiplier)).toNat =
      rLength.toNat + digit.toNat % 128 * 2 ^ multiplier.toNat := by
  have power : 2 ^ multiplier.toNat ≤ 2 ^ 21 :=
    Nat.pow_le_pow_right (by omega) shift
  have product : digit.toNat % 128 * 2 ^ multiplier.toNat ≤ 127 * 2 ^ 21 :=
    Nat.mul_le_mul (by omega) power
  rw [UInt32.toNat_or, UInt32.toNat_shiftLeft, toNat_and_127,
    Nat.mod_eq_of_lt (by omega : multiplier.toNat < 32),
    or_shiftLeft_eq_add _ _ 32 below (by omega)]

end Digits

section FlatBuffer

@[simp]
theorem readByte_cons (byte : UInt8) (rest : List UInt8) :
    readByte (⟨byte :: rest⟩ : Buffer) = .ok (byte, ⟨rest⟩) := by
  have read := Buffer.readFull_append [byte] rest
  simp only [List.length_singleton, List.cons_append, List.nil_append] at read
  simp [readByte, read, bind, Except.bind, pure, Except.pure]

@[simp]
theorem readByte_nil : readByte (⟨[]⟩ : Buffer) = .error .eof := by
  have read := @Buffer.readFull_error_of_lt 1 [] (by simp)
  simp [readByte, read, bind, Except.bind]

theorem decodeLengthLoop_terminate {rLength multiplier : UInt32}
    {digit : UInt8} (rest : List UInt8) (bounded : multiplier < 27)
    (terminates : digit.toNat < 128) :
    decodeLengthLoop rLength multiplier (⟨digit :: rest⟩ : Buffer) =
      .ok (rLength ||| ((digit &&& 127).toUInt32 <<< multiplier), ⟨rest⟩) := by
  rw [decodeLengthLoop, dif_pos bounded, readByte_cons]
  simp [bind, Except.bind, pure, Except.pure,
    (and_continuation_eq_zero_iff digit).mpr terminates]

theorem decodeLengthLoop_continue {rLength multiplier : UInt32}
    {digit : UInt8} (rest : List UInt8) (bounded : multiplier < 27)
    (continues : 128 ≤ digit.toNat) :
    decodeLengthLoop rLength multiplier (⟨digit :: rest⟩ : Buffer) =
      decodeLengthLoop
        (rLength ||| ((digit &&& 127).toUInt32 <<< multiplier))
        (multiplier + 7) (⟨rest⟩ : Buffer) := by
  have notZero : digit &&& 128 ≠ 0 := by
    rw [ne_eq, and_continuation_eq_zero_iff]
    omega
  conv_lhs => rw [decodeLengthLoop, dif_pos bounded, readByte_cons]
  simp [bind, Except.bind, notZero]

theorem decodeLengthLoop_nil {rLength multiplier : UInt32}
    (bounded : multiplier < 27) :
    decodeLengthLoop rLength multiplier (⟨[]⟩ : Buffer) = .error .eof := by
  rw [decodeLengthLoop, dif_pos bounded, readByte_nil]
  rfl

theorem toNat_next_multiplier {multiplier : UInt32}
    (shift : multiplier.toNat ≤ 21) :
    (multiplier + 7).toNat = multiplier.toNat + 7 := by
  rw [UInt32.toNat_add]
  exact Nat.mod_eq_of_lt (by change multiplier.toNat + 7 < 2 ^ 32; omega)

theorem split_digit (length place : Nat) :
    length * 2 ^ place =
      length % 128 * 2 ^ place + length / 128 * 2 ^ (place + 7) := by
  conv_lhs => rw [← Nat.mod_add_div length 128]
  ring

theorem next_place {length place : Nat} (large : 128 ≤ length)
    (aligned : place % 7 = 0) (fits : length * 2 ^ place < 2 ^ 28) :
    place + 7 ≤ 21 ∧ length / 128 * 2 ^ (place + 7) < 2 ^ 28 := by
  have power : 2 ^ (place + 7) = 128 * 2 ^ place := by ring
  have inRange : 2 ^ (place + 7) < 2 ^ 28 := by
    rw [power]
    exact lt_of_le_of_lt (Nat.mul_le_mul_right _ large) fits
  have := (Nat.pow_lt_pow_iff_right (by omega)).mp inRange
  have := split_digit length place
  omega

/-- From any position of the field, the decoder reads the digits of a length
that fits in the remaining positions and stops right behind them. -/
theorem decodeLengthLoop_encodeLength {rLength multiplier : UInt32}
    {length : Nat} (tail : List UInt8) (shift : multiplier.toNat ≤ 21)
    (aligned : multiplier.toNat % 7 = 0)
    (below : rLength.toNat < 2 ^ multiplier.toNat)
    (fits : length * 2 ^ multiplier.toNat < 2 ^ 28) :
    ∃ result : UInt32,
      decodeLengthLoop rLength multiplier
          (⟨encodeLength length ++ tail⟩ : Buffer) =
        .ok (result, ⟨tail⟩) ∧
      result.toNat = rLength.toNat + length * 2 ^ multiplier.toNat := by
  induction length using Nat.strong_induction_on generalizing
    rLength multiplier with
  | _ length ih =>
      have bounded : multiplier < 27 := by
        change multiplier.toNat < 27
        omega
      by_cases small : length < 128
      · have value : (UInt8.ofNat length).toNat = length :=
          UInt8.toNat_ofNat_of_lt' (by change length < 256; omega)
        rw [encodeLength_of_lt small, List.cons_append, List.nil_append,
          decodeLengthLoop_terminate tail bounded (by omega)]
        refine ⟨_, rfl, ?_⟩
        rw [toNat_accumulate _ shift below, value, Nat.mod_eq_of_lt small]
      · have large : 128 ≤ length := by omega
        have value := toNat_continued (Nat.mod_lt length (by omega : 128 > 0))
        have accumulated := toNat_accumulate
          (UInt8.ofNat (length % 128) ||| 0x80) shift below
        rw [value, show (length % 128 + 128) % 128 = length % 128 by omega]
          at accumulated
        have next := toNat_next_multiplier shift
        obtain ⟨room, restFits⟩ := next_place large aligned fits
        have digitBelow : length % 128 * 2 ^ multiplier.toNat ≤
            127 * 2 ^ multiplier.toNat :=
          Nat.mul_le_mul_right _ (by omega)
        have power : 2 ^ (multiplier.toNat + 7) =
            128 * 2 ^ multiplier.toNat := by
          ring
        rw [encodeLength_of_ge large, List.cons_append,
          decodeLengthLoop_continue _ bounded (by omega)]
        obtain ⟨result, decoded, resultValue⟩ := ih (length / 128) (by omega)
          (by omega : (multiplier + 7).toNat ≤ 21) (by omega)
          (by rw [accumulated, next, power]; omega)
          (by rw [next]; exact restFits)
        refine ⟨result, decoded, ?_⟩
        rw [resultValue, accumulated, next, split_digit length]
        omega

/-- A length below `2 ^ 28` is decoded from its own digits, whatever follows
them, and what follows stays unread. -/
theorem decodeLength_encodeLength {length : Nat} (tail : List UInt8)
    (fits : length < 2 ^ 28) :
    decodeLength (⟨encodeLength length ++ tail⟩ : Buffer) =
      .ok (length, ⟨tail⟩) := by
  obtain ⟨result, decoded, value⟩ :=
    @decodeLengthLoop_encodeLength 0 0 length tail
      (by decide) (by decide) (by decide) (by simpa)
  have resultValue : result.toNat = length := by simpa using value
  simp [decodeLength, decoded, bind, Except.bind, pure, Except.pure,
    resultValue]

theorem decodeLengthLoop_truncated {rLength multiplier : UInt32}
    {length : Nat} {front missing : List UInt8}
    (shift : multiplier.toNat ≤ 21) (aligned : multiplier.toNat % 7 = 0)
    (fits : length * 2 ^ multiplier.toNat < 2 ^ 28)
    (cut : front ++ missing = encodeLength length) (lost : missing ≠ []) :
    decodeLengthLoop rLength multiplier (⟨front⟩ : Buffer) = .error .eof := by
  induction length using Nat.strong_induction_on generalizing
    rLength multiplier front with
  | _ length ih =>
      have bounded : multiplier < 27 := by
        change multiplier.toNat < 27
        omega
      cases front with
      | nil => exact decodeLengthLoop_nil bounded
      | cons digit front =>
          by_cases small : length < 128
          · rw [encodeLength_of_lt small] at cut
            simp_all
          · rw [encodeLength_of_ge (by omega)] at cut
            obtain ⟨rfl, cutTail⟩ := List.cons.inj cut
            have value :=
              toNat_continued (Nat.mod_lt length (by omega : 128 > 0))
            have next := toNat_next_multiplier shift
            obtain ⟨room, restFits⟩ := next_place (by omega) aligned fits
            rw [decodeLengthLoop_continue _ bounded (by omega)]
            exact ih (length / 128) (by omega) (by omega) (by omega)
              (by rw [next]; exact restFits) cutTail

/-- Digits that are cut off before the last one end in an error: every digit
that is there announces another. -/
theorem decodeLength_truncated {length : Nat} {front missing : List UInt8}
    (fits : length < 2 ^ 28)
    (cut : front ++ missing = encodeLength length) (lost : missing ≠ []) :
    decodeLength (⟨front⟩ : Buffer) = .error .eof := by
  have ended := @decodeLengthLoop_truncated 0 0 length front missing
    (by decide) (by decide) (by simpa) cut lost
  simp [decodeLength, ended, bind, Except.bind]

end FlatBuffer

end Codec

end RmttGo
