import RmttGo.ByteReader

/-!
# Readers that deliver a stream

A stream reader hands out the bytes of a stream in order and in chunks of its
own choosing, and then reports the end of the stream.  Forgetting the chunks
turns it into the flat buffer of what it has not delivered yet.  A parser that
only uses full reads cannot tell the two apart; the rules below establish this
for composed parsers.
-/

namespace RmttGo

class StreamReader (σ : Type) extends ByteReader σ where
  unread : σ → List UInt8
  read_ended : ∀ {want : Nat} {reader : σ},
    0 < want → unread reader = [] → read want reader = .error .eof
  read_delivers : ∀ {want : Nat} {reader : σ},
    0 < want → unread reader ≠ [] → ∃ chunk next,
      read want reader = .ok (chunk, next) ∧
        unread reader = chunk ++ unread next

namespace StreamReader

variable {σ ε ε' α β : Type} [StreamReader σ]

/-- The reader with its chunks forgotten. -/
def flat (reader : σ) : Buffer :=
  ⟨unread reader⟩

def flatten (result : Except ε (α × σ)) : Except ε (α × Buffer) :=
  result.map (Prod.map id flat)

/-- A full read depends only on the bytes that are left. -/
theorem readAtLeast_flatten (missing : Nat) (got : List UInt8) (reader : σ) :
    flatten (readAtLeast missing got reader) =
      if missing ≤ (unread reader).length then
        .ok (got ++ (unread reader).take missing,
          ⟨(unread reader).drop missing⟩)
      else
        .error (if got ++ unread reader = [] then .eof else .unexpectedEOF) := by
  induction missing using Nat.strongRecOn generalizing got reader with
  | ind missing ih =>
      by_cases wanted : 0 < missing
      · by_cases ended : unread reader = []
        · have tooShort : ¬ missing ≤ (unread reader).length := by
            rw [ended]
            exact Nat.not_le_of_lt wanted
          rw [readAtLeast_of_eof got wanted (read_ended wanted ended),
            if_neg tooShort, ended, List.append_nil]
          rfl
        · obtain ⟨chunk, next, chunkRead, split⟩ := read_delivers wanted ended
          obtain ⟨progress, within⟩ :=
            ByteReader.read_progress wanted chunkRead
          rw [readAtLeast_of_chunk got wanted chunkRead,
            ih _ (Nat.sub_lt wanted progress), split, List.length_append,
            List.take_append, List.take_of_length_le within, List.drop_append,
            List.drop_of_length_le within, List.append_assoc, List.append_assoc,
            List.nil_append]
          simp only [Nat.sub_le_iff_le_add']
      · obtain rfl : missing = 0 := by omega
        rw [readAtLeast_zero, if_pos (Nat.zero_le _), List.take_zero,
          List.append_nil]
        rfl

/-- A parser on readers that does the same as one on flat buffers. -/
def Agrees (parse : σ → Except ε (α × σ))
    (parseFlat : Buffer → Except ε (α × Buffer)) : Prop :=
  ∀ reader, flatten (parse reader) = parseFlat (flat reader)

namespace Agrees

variable {parse : σ → Except ε (α × σ)}
  {parseFlat : Buffer → Except ε (α × Buffer)}

theorem pure (value : α) :
    Agrees (fun reader : σ => (.ok (value, reader) : Except ε (α × σ)))
      (fun buffer => .ok (value, buffer)) :=
  fun _ => rfl

theorem fail (failure : ε) :
    Agrees (fun _ : σ => (.error failure : Except ε (α × σ)))
      (fun _ => .error failure) :=
  fun _ => rfl

theorem embed {τ : Type} (parsed : Except ε (α × τ)) :
    Agrees (fun reader : σ => parsed >>= fun outcome => .ok (outcome.1, reader))
      (fun buffer => parsed >>= fun outcome => .ok (outcome.1, buffer)) := by
  intro reader
  cases parsed <;> rfl

theorem bind {next : α → σ → Except ε (β × σ)}
    {nextFlat : α → Buffer → Except ε (β × Buffer)}
    (agrees : Agrees parse parseFlat)
    (agreesNext : ∀ value, Agrees (next value) (nextFlat value)) :
    Agrees (fun reader => parse reader >>= fun parsed => next parsed.1 parsed.2)
      (fun buffer => parseFlat buffer >>= fun parsed =>
        nextFlat parsed.1 parsed.2) := by
  intro reader
  beta_reduce
  rw [← agrees reader]
  cases parse reader with
  | error failure => rfl
  | ok outcome => exact agreesNext outcome.1 outcome.2

theorem mapError (agrees : Agrees parse parseFlat) (transform : ε → ε') :
    Agrees (fun reader => (parse reader).mapError transform)
      (fun buffer => (parseFlat buffer).mapError transform) := by
  intro reader
  beta_reduce
  rw [← agrees reader]
  cases parse reader <;> rfl

theorem readFull (want : Nat) :
    Agrees (readFull want : σ → _) (readFull want) := by
  intro reader
  rw [RmttGo.readFull, readAtLeast_flatten, List.nil_append, List.nil_append]
  by_cases enough : want ≤ (unread reader).length
  · have read := Buffer.readFull_append ((unread reader).take want)
      ((unread reader).drop want)
    rw [List.take_append_drop, List.length_take_of_le enough] at read
    rw [if_pos enough, flat, read]
  · rw [if_neg enough, flat,
      Buffer.readFull_error_of_lt (Nat.lt_of_not_le enough)]

/-- Draining a reader yields what draining its flat buffer yields. -/
theorem drainsTo (agrees : Agrees parse parseFlat) {reader : σ}
    {values : List α} {failure : ε}
    (drains : DrainsTo parseFlat (flat reader) values failure) :
    DrainsTo parse reader values failure := by
  generalize bufferIs : flat reader = buffer at drains
  induction drains generalizing reader with
  | stop failed =>
      rw [← bufferIs, ← agrees reader] at failed
      cases parsed : parse reader with
      | error failure =>
          rw [parsed] at failed
          cases failed
          exact .stop parsed
      | ok outcome =>
          rw [parsed] at failed
          cases failed
  | step read _ ih =>
      rw [← bufferIs, ← agrees reader] at read
      cases parsed : parse reader with
      | error failure =>
          rw [parsed] at read
          cases read
      | ok outcome =>
          rw [parsed] at read
          cases read
          exact .step parsed (ih rfl)

end Agrees

end StreamReader

/-- A stream whose reads return as many bytes as its list of sizes says, within
what is asked for and what is left, and never nothing. -/
structure ChunkedStream where
  unread : List UInt8
  sizes : Nat → Nat

namespace ChunkedStream

def read (want : Nat) (stream : ChunkedStream) :
    Except ReadError (List UInt8 × ChunkedStream) :=
  if stream.unread = [] then
    if want = 0 then .ok ([], stream) else .error .eof
  else
    let count := min want (max 1 (stream.sizes 0))
    .ok (stream.unread.take count,
      ⟨stream.unread.drop count, fun call => stream.sizes (call + 1)⟩)

instance : StreamReader ChunkedStream where
  read := read
  read_progress := by
    intro want reader next chunk wanted chunkRead
    unfold read at chunkRead
    split at chunkRead
    · rw [if_neg (Nat.ne_of_gt wanted)] at chunkRead
      cases chunkRead
    · rename_i nonempty
      have := List.length_pos_iff.mpr nonempty
      cases chunkRead
      simp only [List.length_take]
      omega
  unread := unread
  read_ended := by
    intro want reader wanted ended
    rw [read, if_pos ended, if_neg (Nat.ne_of_gt wanted)]
  read_delivers := by
    intro want reader wanted nonempty
    rw [read, if_neg nonempty]
    exact ⟨_, _, rfl, (List.take_append_drop _ _).symm⟩

end ChunkedStream

/-- Messages that arrive whole, read as a stream through a buffer that holds
what is left of the current message. -/
structure BufferedMessages where
  incoming : List (List UInt8)
  buf : List UInt8
  deriving DecidableEq, Repr

namespace BufferedMessages

/-- Receive until the buffer holds something; empty messages are skipped. -/
def refill : List (List UInt8) → List UInt8 → Except ReadError BufferedMessages
  | incoming, byte :: buf => .ok ⟨incoming, byte :: buf⟩
  | [], [] => .error .eof
  | data :: incoming, [] => refill incoming data

def read (want : Nat) (messages : BufferedMessages) :
    Except ReadError (List UInt8 × BufferedMessages) := do
  let filled ← refill messages.incoming messages.buf
  pure (filled.buf.take want, ⟨filled.incoming, filled.buf.drop want⟩)

def unread (messages : BufferedMessages) : List UInt8 :=
  messages.buf ++ messages.incoming.flatten

theorem refill_spec (incoming : List (List UInt8)) (buf : List UInt8) :
    buf ++ incoming.flatten = [] ∧ refill incoming buf = .error .eof ∨
      ∃ filled, refill incoming buf = .ok filled ∧ filled.buf ≠ [] ∧
        filled.unread = buf ++ incoming.flatten := by
  induction incoming generalizing buf with
  | nil =>
      cases buf with
      | nil => exact .inl ⟨rfl, by rw [refill]⟩
      | cons byte buf => exact .inr ⟨_, by rw [refill], by simp, rfl⟩
  | cons data incoming induction =>
      cases buf with
      | nil =>
          rw [refill, List.nil_append, List.flatten_cons]
          exact induction data
      | cons byte buf => exact .inr ⟨_, by rw [refill], by simp, rfl⟩

theorem read_of_refill {want : Nat} {messages filled : BufferedMessages}
    (refilled : refill messages.incoming messages.buf = .ok filled) :
    read want messages =
      .ok (filled.buf.take want, ⟨filled.incoming, filled.buf.drop want⟩) := by
  rw [read, refilled]
  rfl

theorem read_of_ended {want : Nat} {messages : BufferedMessages}
    (ended : refill messages.incoming messages.buf = .error .eof) :
    read want messages = .error .eof := by
  rw [read, ended]
  rfl

instance : StreamReader BufferedMessages where
  read := read
  read_progress := by
    intro want reader next chunk wanted chunkRead
    rcases refill_spec reader.incoming reader.buf with
      ⟨-, ended⟩ | ⟨filled, refilled, nonempty, -⟩
    · rw [read_of_ended ended] at chunkRead
      cases chunkRead
    · rw [read_of_refill refilled] at chunkRead
      cases chunkRead
      have := List.length_pos_iff.mpr nonempty
      simp only [List.length_take]
      omega
  unread := unread
  read_ended := by
    intro want reader wanted ended
    rcases refill_spec reader.incoming reader.buf with
      ⟨-, refilled⟩ | ⟨filled, -, nonempty, sameUnread⟩
    · exact read_of_ended refilled
    · have empty : filled.unread = [] := sameUnread.trans ended
      exact absurd (List.append_eq_nil_iff.mp empty).1 nonempty
  read_delivers := by
    intro want reader wanted nonempty
    rcases refill_spec reader.incoming reader.buf with
      ⟨empty, -⟩ | ⟨filled, refilled, -, sameUnread⟩
    · exact absurd empty nonempty
    · refine ⟨_, _, read_of_refill refilled, ?_⟩
      change unread reader = filled.buf.take want ++
        (filled.buf.drop want ++ filled.incoming.flatten)
      rw [← List.append_assoc, List.take_append_drop]
      exact sameUnread.symm

end BufferedMessages

/-- A stream reader kept inside another value reads as that value. -/
abbrev StreamReader.within {σ τ : Type} [StreamReader τ] (wrap : τ → σ)
    (inner : σ → τ) (inner_wrap : ∀ reader, inner (wrap reader) = reader) :
    StreamReader σ where
  read want reader :=
    (ByteReader.read want (inner reader)).map (Prod.map id wrap)
  read_progress := by
    intro want reader next chunk wanted chunkRead
    cases innerRead : ByteReader.read want (inner reader) with
    | error failure =>
        rw [innerRead] at chunkRead
        cases chunkRead
    | ok outcome =>
        rw [innerRead] at chunkRead
        cases chunkRead
        exact ByteReader.read_progress wanted innerRead
  unread reader := StreamReader.unread (inner reader)
  read_ended := by
    intro want reader wanted ended
    rw [StreamReader.read_ended wanted ended]
    rfl
  read_delivers := by
    intro want reader wanted nonempty
    obtain ⟨chunk, next, innerRead, split⟩ :=
      StreamReader.read_delivers wanted nonempty
    refine ⟨chunk, wrap next, ?_, ?_⟩
    · rw [innerRead]
      rfl
    · rw [inner_wrap]
      exact split

end RmttGo
