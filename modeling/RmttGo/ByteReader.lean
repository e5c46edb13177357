import Mathlib.Data.List.Basic

/-!
# Byte readers and full reads

A byte reader hands out the bytes of a stream in chunks of its own choosing.
This file fixes the reader interface, the loop that fills a buffer of a
requested size from it, and what that loop does on a flat buffer.  Nothing
here knows what the bytes mean.
-/

namespace RmttGo

/-- The errors a byte reader reports.  `unexpectedEOF` is only produced by a
full read that stops after its first byte. -/
inductive ReadError
  | eof
  | unexpectedEOF
  | transport (message : String)
  deriving DecidableEq, Repr

/-- A reader of bytes.  One `read` asks for `want` bytes and returns a chunk
of them or an error; a chunk read for a nonempty request makes progress and
never overruns the request. -/
class ByteReader (σ : Type) where
  read : (want : Nat) → σ → Except ReadError (List UInt8 × σ)
  read_progress : ∀ {want : Nat} {reader next : σ} {chunk : List UInt8},
    0 < want → read want reader = .ok (chunk, next) →
      0 < chunk.length ∧ chunk.length ≤ want

section ReadFull

variable {σ : Type} [ByteReader σ]

/-- Keep reading until `missing` more bytes have arrived; `got` holds the
bytes of the earlier chunks.  End of stream after a first chunk is reported
as `unexpectedEOF`. -/
def readAtLeast (missing : Nat) (got : List UInt8) (reader : σ) :
    Except ReadError (List UInt8 × σ) :=
  if wanted : 0 < missing then
    match chunkRead : ByteReader.read missing reader with
    | .ok (chunk, next) =>
        have := ByteReader.read_progress wanted chunkRead
        readAtLeast (missing - chunk.length) (got ++ chunk) next
    | .error .eof => .error (if got = [] then .eof else .unexpectedEOF)
    | .error failure => .error failure
  else
    .ok (got, reader)
termination_by missing
decreasing_by exact Nat.sub_lt wanted this.1

def readFull (want : Nat) (reader : σ) : Except ReadError (List UInt8 × σ) :=
  readAtLeast want [] reader

theorem readAtLeast_zero (got : List UInt8) (reader : σ) :
    readAtLeast 0 got reader = .ok (got, reader) := by
  simp [readAtLeast]

theorem readAtLeast_of_chunk {missing : Nat} (got : List UInt8)
    {reader next : σ} {chunk : List UInt8} (wanted : 0 < missing)
    (chunkRead : ByteReader.read missing reader = .ok (chunk, next)) :
    readAtLeast missing got reader =
      readAtLeast (missing - chunk.length) (got ++ chunk) next := by
  rw [readAtLeast, dif_pos wanted]
  split <;> simp_all

theorem readAtLeast_of_eof {missing : Nat} (got : List UInt8) {reader : σ}
    (wanted : 0 < missing)
    (ended : ByteReader.read missing reader = .error .eof) :
    readAtLeast missing got reader =
      .error (if got = [] then .eof else .unexpectedEOF) := by
  rw [readAtLeast, dif_pos wanted]
  split <;> simp_all

@[simp]
theorem readFull_zero (reader : σ) : readFull 0 reader = .ok ([], reader) :=
  readAtLeast_zero [] reader

end ReadFull

structure Buffer where
  unread : List UInt8
  deriving DecidableEq, Repr

namespace Buffer

/-- Reading a flat buffer copies as much as is there.  An exhausted buffer
reports end of stream unless nothing was asked for. -/
def read (want : Nat) (buffer : Buffer) : Except ReadError (List UInt8 × Buffer) :=
  if buffer.unread = [] then
    if want = 0 then .ok ([], buffer) else .error .eof
  else
    .ok (buffer.unread.take want, ⟨buffer.unread.drop want⟩)

instance : ByteReader Buffer where
  read := read
  read_progress := by
    intro want reader next chunk wanted chunkRead
    unfold read at chunkRead
    split at chunkRead
    · split at chunkRead
      · omega
      · cases chunkRead
    · rename_i nonempty
      obtain ⟨rfl, rfl⟩ : chunk = reader.unread.take want ∧
          next = ⟨reader.unread.drop want⟩ := by
        simpa [eq_comm] using chunkRead
      have := List.length_pos_iff.mpr nonempty
      simp only [List.length_take]
      omega

theorem read_nil {want : Nat} (wanted : 0 < want) :
    ByteReader.read want (⟨[]⟩ : Buffer) = .error .eof := by
  change read want ⟨[]⟩ = _
  simp [read, Nat.ne_of_gt wanted]

theorem read_of_ne_nil (want : Nat) {bytes : List UInt8} (nonempty : bytes ≠ []) :
    ByteReader.read want (⟨bytes⟩ : Buffer) =
      .ok (bytes.take want, ⟨bytes.drop want⟩) := by
  change read want ⟨bytes⟩ = _
  simp [read, nonempty]

theorem read_append (front rest : List UInt8) :
    ByteReader.read front.length (⟨front ++ rest⟩ : Buffer) =
      .ok (front, ⟨rest⟩) := by
  by_cases empty : front ++ rest = []
  · obtain ⟨rfl, rfl⟩ := List.append_eq_nil_iff.mp empty
    rfl
  · simp [read_of_ne_nil _ empty]

/-- A full read returns the requested bytes as soon as they are all there. -/
theorem readFull_append (front rest : List UInt8) :
    readFull front.length (⟨front ++ rest⟩ : Buffer) = .ok (front, ⟨rest⟩) := by
  by_cases empty : front = []
  · subst empty
    exact readFull_zero _
  · rw [readFull, readAtLeast_of_chunk [] (List.length_pos_iff.mpr empty)
      (read_append front rest)]
    simp [readAtLeast_zero]

/-- A full read of more bytes than are left fails, and says whether it had
already taken some. -/
theorem readFull_error_of_lt {want : Nat} {bytes : List UInt8}
    (short : bytes.length < want) :
    readFull want (⟨bytes⟩ : Buffer) =
      .error (if bytes = [] then .eof else .unexpectedEOF) := by
  have wanted : 0 < want := by omega
  by_cases empty : bytes = []
  · subst empty
    rw [readFull, readAtLeast_of_eof [] wanted (read_nil wanted)]
  · have missing : 0 < want - (bytes.take want).length := by
      simp only [List.length_take]
      omega
    have exhausted : bytes.drop want = [] :=
      List.drop_eq_nil_of_le (Nat.le_of_lt short)
    rw [readFull, readAtLeast_of_chunk [] wanted (read_of_ne_nil want empty),
      exhausted, readAtLeast_of_eof _ missing (read_nil missing)]
    simp [empty, Nat.ne_of_gt wanted]

end Buffer

section Draining

variable {σ ε α : Type}

/-- Calling `next` again and again until it fails returns exactly `values`,
in this order, and ends with `failure`. -/
inductive DrainsTo (next : σ → Except ε (α × σ)) : σ → List α → ε → Prop
  | stop {state : σ} {failure : ε} :
      next state = .error failure → DrainsTo next state [] failure
  | step {state later : σ} {value : α} {values : List α} {failure : ε} :
      next state = .ok (value, later) → DrainsTo next later values failure →
        DrainsTo next state (value :: values) failure

/-- What a stream drains to is determined by the stream. -/
theorem DrainsTo.unique {next : σ → Except ε (α × σ)} {state : σ}
    {values others : List α} {failure other : ε}
    (drains : DrainsTo next state values failure)
    (drainsAlso : DrainsTo next state others other) :
    values = others ∧ failure = other := by
  induction drains generalizing others with
  | stop failed =>
      cases drainsAlso with
      | stop failedAlso => simp_all
      | step read _ => simp_all
  | step read _ ih =>
      cases drainsAlso with
      | stop failed => simp_all
      | step readAlso drainsLater =>
          rw [read] at readAlso
          cases readAlso
          obtain ⟨rfl, rfl⟩ := ih drainsLater
          exact ⟨rfl, rfl⟩

/-- A stream whose every value uses some of it up drains. -/
theorem exists_drainsTo {next : σ → Except ε (α × σ)} (size : σ → Nat)
    (consumes : ∀ {state later : σ} {value : α},
      next state = .ok (value, later) → size later < size state)
    (state : σ) :
    ∃ values failure, DrainsTo next state values failure := by
  induction sizeIs : size state using Nat.strongRecOn generalizing
    state with
  | ind bound ih =>
      cases read : next state with
      | error failure => exact ⟨[], failure, .stop read⟩
      | ok outcome =>
          obtain ⟨value, later⟩ := outcome
          have smaller : size later < bound := sizeIs ▸ consumes read
          obtain ⟨values, failure, drains⟩ := ih _ smaller later rfl
          exact ⟨value :: values, failure, .step read drains⟩

/-- Calling `next` so often yields the values, and leaves the last state. -/
inductive ReadsTo (next : σ → Except ε (α × σ)) : σ → List α → σ → Prop
  | done {state : σ} : ReadsTo next state [] state
  | step {state later last : σ} {value : α} {values : List α} :
      next state = .ok (value, later) → ReadsTo next later values last →
        ReadsTo next state (value :: values) last

theorem ReadsTo.concat {next : σ → Except ε (α × σ)} {state last later : σ}
    {values : List α} {value : α} (reads : ReadsTo next state values last)
    (read : next last = .ok (value, later)) :
    ReadsTo next state (values ++ [value]) later := by
  induction reads with
  | done => exact .step read .done
  | step first _ ih => exact .step first (ih read)

end Draining

end RmttGo
