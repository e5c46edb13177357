import RmttGo.StreamReaders
import RmttGo.FrameAcceptance

/-!
# Packets do not depend on how the bytes arrive

Both ends read packets from a stream that reaches them in pieces: the chunks a
socket returns, or WebSocket messages read through an adapter that keeps the
rest of the current message.  `ReadPacket` takes everything from the stream by
full reads, so the packets it returns and the error it ends with are those of
one flat buffer with the same bytes.
-/

namespace RmttGo

namespace Server

/-- `wsConn`: the messages the socket has yet to deliver and `buf`. -/
structure WsConn where
  messages : BufferedMessages
  deriving DecidableEq, Repr

def WsConn.read (want : Nat) (conn : WsConn) :
    Except ReadError (List UInt8 × WsConn) :=
  (conn.messages.read want).map (Prod.map id WsConn.mk)

instance : StreamReader WsConn :=
  { StreamReader.within WsConn.mk WsConn.messages fun _ => rfl with
    read := WsConn.read }

def WsConn.receiving (messages : List (List UInt8)) : WsConn :=
  ⟨⟨messages, []⟩⟩

end Server

namespace Client

/-- `wsStreamConn`, whose `Read` is that of the server's `wsConn`. -/
structure WsStreamConn where
  messages : BufferedMessages
  deriving DecidableEq, Repr

def WsStreamConn.read (want : Nat) (conn : WsStreamConn) :
    Except ReadError (List UInt8 × WsStreamConn) :=
  (conn.messages.read want).map (Prod.map id WsStreamConn.mk)

instance : StreamReader WsStreamConn :=
  { StreamReader.within WsStreamConn.mk WsStreamConn.messages fun _ => rfl with
    read := WsStreamConn.read }

def WsStreamConn.receiving (messages : List (List UInt8)) : WsStreamConn :=
  ⟨⟨messages, []⟩⟩

end Client

namespace Codec

open StreamReader

section Agreement

variable {σ : Type} [StreamReader σ]

theorem readByte_agrees : Agrees (readByte : σ → _) readByte :=
  (Agrees.readFull 1).bind fun bytes => Agrees.pure (bytes.headD 0)

theorem decodeLengthLoop_agrees {rLength multiplier : UInt32} {room : Nat}
    (place : multiplier.toNat + 7 * room = 28) :
    Agrees (decodeLengthLoop rLength multiplier : σ → _)
      (decodeLengthLoop rLength multiplier) := by
  induction room generalizing rLength multiplier with
  | zero =>
      have left : ¬ multiplier < 27 := by
        change ¬ multiplier.toNat < 27
        omega
      intro reader
      rw [decodeLengthLoop, decodeLengthLoop, dif_neg left, dif_neg left]
      rfl
  | succ room induction =>
      have bounded : multiplier < 27 := by
        change multiplier.toNat < 27
        omega
      have next := toNat_next_multiplier (by omega : multiplier.toNat ≤ 21)
      have continuation (digit : UInt8) :
          Agrees (fun reader : σ =>
              let rLength := rLength ||| ((digit &&& 127).toUInt32 <<< multiplier)
              if digit &&& 128 = 0 then
                (.ok (rLength, reader) : Except ReadError _)
              else
                decodeLengthLoop rLength (multiplier + 7) reader)
            (fun reader =>
              let rLength := rLength ||| ((digit &&& 127).toUInt32 <<< multiplier)
              if digit &&& 128 = 0 then
                .ok (rLength, reader)
              else
                decodeLengthLoop rLength (multiplier + 7) reader) := by
        by_cases terminates : digit &&& 128 = 0
        · simp only [terminates, if_true]
          exact Agrees.pure _
        · simp only [terminates, if_false]
          exact induction (by omega)
      intro reader
      rw [decodeLengthLoop, decodeLengthLoop, dif_pos bounded, dif_pos bounded]
      exact readByte_agrees.bind continuation reader

theorem decodeLength_agrees : Agrees (decodeLength : σ → _) decodeLength :=
  (decodeLengthLoop_agrees (by decide : (0 : UInt32).toNat + 7 * 4 = 28)).bind
    fun rLength => Agrees.pure rLength.toNat

theorem FixedHeader.unpack_agrees (typeAndFlags : UInt8) :
    Agrees (FixedHeader.unpack typeAndFlags : σ → _)
      (FixedHeader.unpack typeAndFlags) := by
  by_cases noFlags : typeAndFlags &&& 0x0F = 0
  · rw [FixedHeader.unpack_of_no_flags noFlags, FixedHeader.unpack_of_no_flags noFlags]
    exact (decodeLength_agrees.mapError Error.read).bind fun length =>
      Agrees.pure (⟨typeAndFlags >>> 4, 0, length⟩ : FixedHeader)
  · rw [FixedHeader.unpack_of_flags noFlags, FixedHeader.unpack_of_flags noFlags]
    exact Agrees.fail _

theorem unpackBytes_agrees (packet : ControlPacket) (remainingLength : Nat)
    (packetBytes : Bytes) :
    Agrees (unpackBytes packet remainingLength packetBytes : σ → _)
      (unpackBytes packet remainingLength packetBytes) := by
  by_cases delivered : packetBytes.length = remainingLength
  · rw [unpackBytes_of_eq delivered, unpackBytes_of_eq delivered]
    exact Agrees.embed _
  · rw [unpackBytes_of_ne delivered, unpackBytes_of_ne delivered]
    exact Agrees.fail _

theorem readBody_agrees (header : FixedHeader) :
    Agrees (readBody header : σ → _) (readBody header) := by
  cases built : emptyPacket header with
  | none =>
      rw [readBody_of_unknown built, readBody_of_unknown built]
      exact Agrees.fail _
  | some packet =>
      rw [readBody_of_known built, readBody_of_known built]
      exact ((Agrees.readFull _).mapError Error.read).bind
        (unpackBytes_agrees packet _)

theorem readPacket_agrees : Agrees (readPacket : σ → _) readPacket :=
  (readByte_agrees.mapError Error.read).bind fun typeAndFlags =>
    (FixedHeader.unpack_agrees typeAndFlags).bind fun header =>
      readBody_agrees header

end Agreement

theorem length_lt_of_readPacket {buffer later : Buffer} {packet : ControlPacket}
    (read : readPacket buffer = .ok (packet, later)) :
    later.unread.length < buffer.unread.length := by
  obtain ⟨bytes⟩ := buffer
  obtain ⟨rest⟩ := later
  obtain ⟨_, rfl, _, digits, body, rfl, -⟩ :=
    (readPacket_accepts bytes packet rest).mp read
  simp only [List.length_append, List.length_cons]
  omega

/-- Whatever stream reader delivers the bytes, and into whatever messages they
are divided for the two WebSocket adapters, reading packets until an error
returns the same packets and the same error as reading them from one buffer. -/
theorem packets_independent_of_chunks (bytes : Bytes) :
    ∃ packets failure,
      DrainsTo readPacket (⟨bytes⟩ : Buffer) packets failure ∧
        (∀ (σ : Type) [StreamReader σ] (reader : σ), unread reader = bytes →
          DrainsTo readPacket reader packets failure) ∧
        ∀ messages : List Bytes, messages.flatten = bytes →
          DrainsTo readPacket (Server.WsConn.receiving messages)
              packets failure ∧
            DrainsTo readPacket (Client.WsStreamConn.receiving messages)
              packets failure := by
  obtain ⟨packets, failure, drains⟩ := exists_drainsTo
    (fun buffer : Buffer => buffer.unread.length) length_lt_of_readPacket ⟨bytes⟩
  have everyReader (σ : Type) [StreamReader σ] (reader : σ)
      (delivers : unread reader = bytes) :
      DrainsTo readPacket reader packets failure := by
    subst delivers
    exact readPacket_agrees.drainsTo drains
  refine ⟨packets, failure, drains, everyReader, ?_⟩
  intro messages divided
  exact ⟨everyReader _ (Server.WsConn.receiving messages) divided,
    everyReader _ (Client.WsStreamConn.receiving messages) divided⟩

/-- A DISCONNECT, in chunks of every size and in two messages with an empty one
between them. -/
theorem packets_independent_of_chunks_disconnect :
    (∀ sizes, DrainsTo readPacket (⟨[0xE0, 1, 7], sizes⟩ : ChunkedStream)
        [.disconnect ⟨⟨14, 0, 1⟩, 7⟩] (.read .eof)) ∧
      DrainsTo readPacket (Server.WsConn.receiving [[0xE0], [], [1, 7]])
        [.disconnect ⟨⟨14, 0, 1⟩, 7⟩] (.read .eof) := by
  obtain ⟨packets, failure, drains, everyReader, everyDivision⟩ :=
    packets_independent_of_chunks [0xE0, 1, 7]
  have frame : readPacket (⟨[0xE0, 1, 7]⟩ : Buffer) =
      .ok (.disconnect ⟨⟨14, 0, 1⟩, 7⟩, ⟨[]⟩) :=
    (readPacket_accepts _ _ _).mpr ⟨[0xE0, 1, 7], rfl, .disconnect, [1], [7], rfl,
      .last (by decide), rfl, Nat.le_refl 1, rfl⟩
  have ended : readPacket (⟨[]⟩ : Buffer) = .error (.read .eof) := by
    rw [readPacket, readByte_nil]
    rfl
  obtain ⟨rfl, rfl⟩ := drains.unique (.step frame (.stop ended))
  exact ⟨fun sizes => everyReader ChunkedStream ⟨_, sizes⟩ rfl,
    (everyDivision [[0xE0], [], [1, 7]] rfl).1⟩

end Codec

end RmttGo
