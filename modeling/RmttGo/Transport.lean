import Mathlib.Data.List.Basic
import Mathlib.Data.List.Infix

/-!
# A network connection as its writers see it

Each write hands one message to the transport.  Behind a closed connection or
an expired deadline nothing is taken; otherwise the transport takes the whole
encoding, or a proper prefix of it and reports an error.  The connection
remembers what was taken of which message, so that the bytes on the wire and
their division into messages can both be read off.
-/

namespace RmttGo

/-- Instants and durations are in nanoseconds. -/
def second : Nat := 1000000000

inductive TransportOutcome
  | whole
  | part (taken : Nat)
  deriving DecidableEq, Repr

variable {Message : Type*}

/-- How much of the encoding of a message reached the wire. -/
structure Delivery (encode : Message → List UInt8) where
  message : Message
  taken : Nat
  taken_le : taken ≤ (encode message).length

namespace Delivery

variable {encode : Message → List UInt8}

def bytes (delivery : Delivery encode) : List UInt8 :=
  (encode delivery.message).take delivery.taken

def Complete (delivery : Delivery encode) : Prop :=
  delivery.taken = (encode delivery.message).length

/-- Something of the message is on the wire, but not all of it. -/
def Torn (delivery : Delivery encode) : Prop :=
  0 < delivery.taken ∧ delivery.taken < (encode delivery.message).length

instance (delivery : Delivery encode) : Decidable delivery.Complete :=
  inferInstanceAs (Decidable (_ = _))

instance (delivery : Delivery encode) : Decidable delivery.Torn :=
  inferInstanceAs (Decidable (_ ∧ _))

theorem bytes_eq_nil {delivery : Delivery encode} (nothing : delivery.taken = 0) :
    delivery.bytes = [] := by
  simp [bytes, nothing]

theorem Complete.bytes_eq {delivery : Delivery encode}
    (complete : delivery.Complete) : delivery.bytes = encode delivery.message := by
  rw [bytes, complete, List.take_length]

theorem nothing_or_torn_or_complete (delivery : Delivery encode) :
    delivery.taken = 0 ∨ delivery.Torn ∨ delivery.Complete := by
  have bound := delivery.taken_le
  unfold Torn Complete
  omega

end Delivery

section Framing

variable {encode : Message → List UInt8}

/-- No byte follows a torn message. -/
def Framed (writes : List (Delivery encode)) : Prop :=
  writes.Pairwise fun earlier later => earlier.Torn → later.taken = 0

instance (writes : List (Delivery encode)) : Decidable (Framed writes) :=
  inferInstanceAs (Decidable (writes.Pairwise _))

theorem framed_append_singleton {writes : List (Delivery encode)}
    {delivery : Delivery encode} :
    Framed (writes ++ [delivery]) ↔
      Framed writes ∧ ((∃ earlier ∈ writes, earlier.Torn) →
        delivery.taken = 0) := by
  simp [Framed, List.pairwise_append]

/-- The bytes of framed writes are whole encodings, followed by at most one
proper prefix of an encoding at the very end. -/
theorem Framed.exists_messages {writes : List (Delivery encode)}
    (framed : Framed writes) :
    ∃ (messages : List Message) (tail : List UInt8),
      writes.flatMap Delivery.bytes = messages.flatMap encode ++ tail ∧
        (tail = [] ∨ ∃ message, tail <+: encode message ∧
          tail.length < (encode message).length) := by
  induction writes with
  | nil => exact ⟨[], [], rfl, .inl rfl⟩
  | cons delivery writes ih =>
      obtain ⟨silent, framed⟩ := List.pairwise_cons.mp framed
      obtain ⟨messages, tail, bytes, cut⟩ := ih framed
      rcases delivery.nothing_or_torn_or_complete with nothing | torn | complete
      · refine ⟨messages, tail, ?_, cut⟩
        rw [List.flatMap_cons, Delivery.bytes_eq_nil nothing, bytes,
          List.nil_append]
      · have noMore : writes.flatMap Delivery.bytes = [] := by
          rw [List.flatMap_eq_nil_iff]
          intro later member
          exact Delivery.bytes_eq_nil (silent later member torn)
        refine ⟨[], delivery.bytes, ?_, .inr ⟨delivery.message, ?_, ?_⟩⟩
        · rw [List.flatMap_cons, noMore, List.append_nil]
          rfl
        · exact List.take_prefix _ _
        · rw [Delivery.bytes, List.length_take]
          exact lt_of_le_of_lt (min_le_left _ _) torn.2
      · refine ⟨delivery.message :: messages, tail, ?_, cut⟩
        rw [List.flatMap_cons, complete.bytes_eq, bytes, List.flatMap_cons,
          List.append_assoc]

/-- The messages that are on the wire in full. -/
def completeMessages (writes : List (Delivery encode)) : List Message :=
  (writes.filter fun delivery => delivery.Complete).map Delivery.message

/-- The bytes of framed writes are the encodings of the messages that are on the
wire in full, followed by at most a proper prefix of another one. -/
theorem Framed.bytes_eq {writes : List (Delivery encode)} (framed : Framed writes) :
    ∃ tail, writes.flatMap Delivery.bytes =
        (completeMessages writes).flatMap encode ++ tail ∧
      (tail = [] ∨ ∃ delivery ∈ writes, tail <+: encode delivery.message ∧
        tail.length < (encode delivery.message).length) := by
  induction writes with
  | nil => exact ⟨[], rfl, .inl rfl⟩
  | cons delivery writes ih =>
      obtain ⟨silent, framed⟩ := List.pairwise_cons.mp framed
      obtain ⟨tail, bytes, cut⟩ := ih framed
      have cutLater : tail = [] ∨ ∃ other ∈ delivery :: writes,
          tail <+: encode other.message ∧
            tail.length < (encode other.message).length :=
        cut.imp_right fun ⟨other, isWritten, proper⟩ =>
          ⟨other, List.mem_cons_of_mem _ isWritten, proper⟩
      by_cases complete : delivery.Complete
      · refine ⟨tail, ?_, cutLater⟩
        rw [List.flatMap_cons, complete.bytes_eq, bytes]
        simp [completeMessages, complete]
      · have others : completeMessages (delivery :: writes) =
            completeMessages writes := by
          simp [completeMessages, complete]
        rcases delivery.nothing_or_torn_or_complete with nothing | torn | isComplete
        · refine ⟨tail, ?_, cutLater⟩
          rw [List.flatMap_cons, Delivery.bytes_eq_nil nothing, bytes, others,
            List.nil_append]
        · -- Nothing is written behind the torn message.
          have noMore : writes.flatMap Delivery.bytes = [] :=
            List.flatMap_eq_nil_iff.mpr fun later isLater =>
              Delivery.bytes_eq_nil (silent later isLater torn)
          rw [noMore] at bytes
          have noOther := (List.append_eq_nil_iff.mp bytes.symm).1
          refine ⟨delivery.bytes, ?_, .inr ⟨delivery, List.mem_cons_self, ?_, ?_⟩⟩
          · rw [List.flatMap_cons, noMore, others, noOther, List.append_nil,
              List.nil_append]
          · exact List.take_prefix _ _
          · rw [Delivery.bytes, List.length_take]
            exact lt_of_le_of_lt (min_le_left _ _) torn.2
        · exact absurd isComplete complete

end Framing

structure NetConn (encode : Message → List UInt8) where
  writeDeadline : Option Nat
  closed : Bool
  writes : List (Delivery encode)

namespace NetConn

variable {encode : Message → List UInt8}

def fresh : NetConn encode :=
  ⟨none, false, []⟩

def Expired (conn : NetConn encode) (now : Nat) : Prop :=
  match conn.writeDeadline with
  | none => False
  | some deadline => deadline ≤ now

instance (conn : NetConn encode) (now : Nat) : Decidable (conn.Expired now) :=
  match stored : conn.writeDeadline with
  | none => .isFalse (by simp [Expired, stored])
  | some deadline => decidable_of_iff (deadline ≤ now) (by simp [Expired, stored])

/-- What is taken of the message; `none` when the write fails at once. -/
def accept (conn : NetConn encode) (now : Nat) (outcome : TransportOutcome)
    (message : Message) : Option (Delivery encode) :=
  if conn.closed ∨ conn.Expired now then
    none
  else
    match outcome with
    | .whole => some ⟨message, (encode message).length, le_rfl⟩
    | .part taken =>
        some ⟨message, min taken ((encode message).length - 1), by omega⟩

/-- `Write`: whether it succeeded, and the connection after it. -/
def write (conn : NetConn encode) (now : Nat) (outcome : TransportOutcome)
    (message : Message) : Bool × NetConn encode :=
  match conn.accept now outcome message with
  | none => (false, conn)
  | some delivery =>
      (decide delivery.Complete, { conn with writes := conn.writes ++ [delivery] })

def setWriteDeadline (conn : NetConn encode) (deadline : Nat) : NetConn encode :=
  { conn with writeDeadline := some deadline }

def clearWriteDeadline (conn : NetConn encode) : NetConn encode :=
  { conn with writeDeadline := none }

def close (conn : NetConn encode) : NetConn encode :=
  { conn with closed := true }

@[simp]
theorem setWriteDeadline_closed (conn : NetConn encode) (deadline : Nat) :
    (conn.setWriteDeadline deadline).closed = conn.closed :=
  rfl

theorem accept_whole {conn : NetConn encode} {now : Nat}
    (isOpen : conn.closed = false) (inTime : ¬ conn.Expired now)
    (message : Message) :
    conn.accept now .whole message =
      some ⟨message, (encode message).length, le_rfl⟩ := by
  simp [accept, isOpen, inTime]

theorem accept_eq_none_iff {conn : NetConn encode} {now : Nat}
    {outcome : TransportOutcome} {message : Message} :
    conn.accept now outcome message = none ↔
      conn.closed = true ∨ conn.Expired now := by
  unfold accept
  split
  · rename_i refused
    simp [refused]
  · rename_i taken
    cases outcome <;> simp [taken]

theorem accept_message {conn : NetConn encode} {now : Nat}
    {outcome : TransportOutcome} {message : Message} {delivery : Delivery encode}
    (accepted : conn.accept now outcome message = some delivery) :
    delivery.message = message := by
  unfold accept at accepted
  split at accepted
  · cases accepted
  · cases outcome <;> cases accepted <;> rfl

@[simp]
theorem write_closed (conn : NetConn encode) (now : Nat)
    (outcome : TransportOutcome) (message : Message) :
    (conn.write now outcome message).2.closed = conn.closed := by
  unfold write
  split <;> rfl

@[simp]
theorem write_writeDeadline (conn : NetConn encode) (now : Nat)
    (outcome : TransportOutcome) (message : Message) :
    (conn.write now outcome message).2.writeDeadline = conn.writeDeadline := by
  unfold write
  split <;> rfl

theorem write_writes (conn : NetConn encode) (now : Nat)
    (outcome : TransportOutcome) (message : Message) :
    (conn.write now outcome message).2.writes =
      conn.writes ++ (conn.accept now outcome message).toList := by
  unfold write
  split
  · rename_i refused
    simp [refused]
  · rename_i delivery accepted
    simp [accepted]

theorem exists_complete_of_write {conn : NetConn encode} {now : Nat}
    {outcome : TransportOutcome} {message : Message}
    (succeeded : (conn.write now outcome message).1 = true) :
    ∃ delivery ∈ (conn.write now outcome message).2.writes,
      delivery.message = message ∧ delivery.Complete := by
  unfold write at succeeded ⊢
  split at succeeded
  · cases succeeded
  · rename_i delivery accepted
    exact ⟨delivery, List.mem_append_right _ (List.mem_singleton_self _),
      accept_message accepted, of_decide_eq_true succeeded⟩

/-- A write adds its message to those on the wire exactly when it succeeds. -/
theorem completeMessages_write (conn : NetConn encode) (now : Nat)
    (outcome : TransportOutcome) (message : Message) :
    completeMessages (conn.write now outcome message).2.writes =
      completeMessages conn.writes ++
        if (conn.write now outcome message).1 then [message] else [] := by
  unfold completeMessages write
  split
  · rw [if_neg Bool.false_ne_true, List.append_nil]
  · rename_i delivery accepted
    rw [← accept_message accepted]
    by_cases complete : delivery.Complete <;> simp [complete]

end NetConn

end RmttGo
