import RmttGo.ByteReader

/-!
# Exact parsing of flat buffers

A parser accepts a grammar when it succeeds exactly on the inputs that begin
with a word of the grammar, returns a value the grammar gives to that word, and
leaves the rest unread.  The rules below build such statements for composed
parsers from those of their parts, and likewise statements about the errors a
composed parser can end with.
-/

namespace RmttGo

variable {ε α β : Type}

def Accepts (parse : Buffer → Except ε (α × Buffer))
    (Grammar : List UInt8 → α → Prop) : Prop :=
  ∀ bytes value rest,
    parse ⟨bytes⟩ = .ok (value, ⟨rest⟩) ↔
      ∃ front, bytes = front ++ rest ∧ Grammar front value

namespace Accepts

variable {parse : Buffer → Except ε (α × Buffer)}
  {Grammar : List UInt8 → α → Prop}

theorem congr {Other : List UInt8 → α → Prop} (accepts : Accepts parse Grammar)
    (same : ∀ front value, Grammar front value ↔ Other front value) :
    Accepts parse Other := by
  intro bytes value rest
  rw [accepts]
  simp only [same]

theorem pure (value : α) :
    Accepts (fun reader => (.ok (value, reader) : Except ε (α × Buffer)))
      (fun front parsed => front = [] ∧ parsed = value) := by
  intro bytes parsed rest
  simp only [Except.ok.injEq, Prod.mk.injEq, Buffer.mk.injEq]
  constructor
  · rintro ⟨rfl, rfl⟩
    exact ⟨[], rfl, rfl, rfl⟩
  · rintro ⟨_, rfl, rfl, rfl⟩
    exact ⟨rfl, rfl⟩

theorem fail (failure : ε) :
    Accepts (fun _ => (.error failure : Except ε (α × Buffer)))
      (fun _ _ => False) := by
  intro bytes value rest
  simp

/-- A result computed without the reader reads nothing. -/
theorem embed {σ : Type} (parsed : Except ε (α × σ)) :
    Accepts (fun reader => parsed >>= fun outcome => .ok (outcome.1, reader))
      (fun front value => front = [] ∧ ∃ rest, parsed = .ok (value, rest)) := by
  cases parsed with
  | error failure =>
      apply (fail failure).congr
      simp
  | ok outcome =>
      apply (pure outcome.1).congr
      simp [Prod.ext_iff, eq_comm]

/-- One parser after the other reads one word after the other. -/
theorem bind {next : α → Buffer → Except ε (β × Buffer)}
    {Next : α → List UInt8 → β → Prop} (accepts : Accepts parse Grammar)
    (acceptsNext : ∀ value, Accepts (next value) (Next value)) :
    Accepts (fun reader => parse reader >>= fun parsed => next parsed.1 parsed.2)
      (fun front result => ∃ first second value, front = first ++ second ∧
        Grammar first value ∧ Next value second result) := by
  intro bytes result rest
  beta_reduce
  constructor
  · intro parsed
    cases parsedFirst : parse ⟨bytes⟩ with
    | error failure =>
        rw [parsedFirst] at parsed
        cases parsed
    | ok outcome =>
        obtain ⟨value, ⟨middle⟩⟩ := outcome
        rw [parsedFirst] at parsed
        obtain ⟨first, rfl, isFirst⟩ := (accepts _ _ _).mp parsedFirst
        obtain ⟨second, rfl, isSecond⟩ := (acceptsNext value _ _ _).mp parsed
        exact ⟨first ++ second, (List.append_assoc ..).symm, first, second, value,
          rfl, isFirst, isSecond⟩
  · rintro ⟨_, rfl, first, second, value, rfl, isFirst, isSecond⟩
    have parsedFirst : parse ⟨first ++ second ++ rest⟩ =
        .ok (value, ⟨second ++ rest⟩) :=
      (accepts _ _ _).mpr ⟨first, List.append_assoc .., isFirst⟩
    rw [parsedFirst]
    exact (acceptsNext value _ _ _).mpr ⟨second, rfl, isSecond⟩

theorem map (accepts : Accepts parse Grammar) (transform : α → β) :
    Accepts (fun reader => parse reader >>= fun parsed =>
        .ok (transform parsed.1, parsed.2))
      (fun front result => ∃ value, Grammar front value ∧
        result = transform value) := by
  apply (accepts.bind fun value => pure (transform value)).congr
  intro front result
  constructor
  · rintro ⟨first, _, value, rfl, isFirst, rfl, rfl⟩
    exact ⟨value, by rwa [List.append_nil], rfl⟩
  · rintro ⟨value, isFront, rfl⟩
    exact ⟨front, [], value, (List.append_nil _).symm, isFront, rfl, rfl⟩

theorem mapError (accepts : Accepts parse Grammar) {ε' : Type}
    (transform : ε → ε') :
    Accepts (fun reader => (parse reader).mapError transform) Grammar := by
  intro bytes value rest
  rw [← accepts]
  beta_reduce
  cases parse ⟨bytes⟩ <;> simp [Except.mapError]

/-- A full read takes any word of the requested length. -/
theorem readFull (want : Nat) :
    Accepts (readFull want) (fun front bytes =>
      bytes = front ∧ front.length = want) := by
  intro bytes value rest
  by_cases enough : want ≤ bytes.length
  · have parsed := Buffer.readFull_append (bytes.take want) (bytes.drop want)
    rw [List.take_append_drop, List.length_take, Nat.min_eq_left enough] at parsed
    rw [parsed]
    simp only [Except.ok.injEq, Prod.mk.injEq, Buffer.mk.injEq]
    constructor
    · rintro ⟨rfl, rfl⟩
      exact ⟨_, (List.take_append_drop _ _).symm, rfl,
        List.length_take_of_le enough⟩
    · rintro ⟨_, rfl, rfl, rfl⟩
      simp
  · rw [Buffer.readFull_error_of_lt (Nat.lt_of_not_le enough)]
    constructor
    · nofun
    · rintro ⟨front, rfl, _, rfl⟩
      simp at enough

/-- Where the words of the grammar end is determined by the stream. -/
theorem unique (accepts : Accepts parse Grammar)
    {front other rest otherRest : List UInt8} {value otherValue : α}
    (isFront : Grammar front value) (isOther : Grammar other otherValue)
    (same : front ++ rest = other ++ otherRest) :
    value = otherValue ∧ rest = otherRest := by
  have parsed := (accepts _ _ rest).mpr ⟨front, rfl, isFront⟩
  have parsedOther := (accepts _ _ otherRest).mpr ⟨other, rfl, isOther⟩
  rw [same, parsedOther] at parsed
  cases parsed
  exact ⟨rfl, rfl⟩

/-- What is parsed when the rest does not matter. -/
theorem exists_rest_iff (accepts : Accepts parse Grammar) {bytes : List UInt8}
    {value : α} :
    (∃ rest, parse ⟨bytes⟩ = .ok (value, rest)) ↔
      ∃ front rest, bytes = front ++ rest ∧ Grammar front value := by
  constructor
  · rintro ⟨⟨rest⟩, parsed⟩
    obtain ⟨front, split, isFront⟩ := (accepts _ _ _).mp parsed
    exact ⟨front, rest, split, isFront⟩
  · rintro ⟨front, rest, split, isFront⟩
    exact ⟨⟨rest⟩, (accepts _ _ _).mpr ⟨front, split, isFront⟩⟩

end Accepts

theorem exists_map_eq_ok_iff {σ : Type} {parsed : Except ε (α × σ)}
    {wrap : α → β} {result : β} :
    (∃ rest, parsed.map (Prod.map wrap id) = .ok (result, rest)) ↔
      ∃ value, (∃ rest, parsed = .ok (value, rest)) ∧ result = wrap value := by
  cases parsed with
  | error failure => simp [Except.map]
  | ok outcome =>
      obtain ⟨value, rest⟩ := outcome
      simp [Except.map, eq_comm]

section Failures

/-- On flat buffers nothing but a `Failure` comes out of the parser. -/
def FailsWith (parse : Buffer → Except ε (α × Buffer)) (Failure : ε → Prop) :
    Prop :=
  ∀ buffer failure, parse buffer = .error failure → Failure failure

namespace FailsWith

variable {parse : Buffer → Except ε (α × Buffer)} {Failure : ε → Prop}

theorem pure (value : α) :
    FailsWith (fun reader => (.ok (value, reader) : Except ε (α × Buffer)))
      Failure := by
  intro buffer failure failed
  cases failed

theorem fail {failure : ε} (isFailure : Failure failure) :
    FailsWith (fun _ => (.error failure : Except ε (α × Buffer))) Failure := by
  intro buffer other failed
  cases failed
  exact isFailure

theorem bind {next : α → Buffer → Except ε (β × Buffer)}
    (fails : FailsWith parse Failure)
    (failsNext : ∀ value, FailsWith (next value) Failure) :
    FailsWith (fun reader => parse reader >>= fun parsed => next parsed.1 parsed.2)
      Failure := by
  intro buffer failure failed
  cases parsed : parse buffer with
  | error first =>
      simp only [parsed] at failed
      obtain rfl : first = failure := Except.error.inj failed
      exact fails buffer first parsed
  | ok outcome =>
      simp only [parsed] at failed
      exact failsNext outcome.1 outcome.2 failure failed

theorem map (fails : FailsWith parse Failure)
    (transform : α × Buffer → β × Buffer) :
    FailsWith (fun reader => (parse reader).map transform) Failure := by
  intro buffer failure failed
  apply fails buffer
  cases parsed : parse buffer with
  | error first =>
      simp only [parsed] at failed
      cases failed
      rfl
  | ok outcome =>
      simp only [parsed] at failed
      cases failed

theorem mapError {ε' : Type} {transform : ε → ε'} {Failure' : ε' → Prop}
    (fails : FailsWith parse Failure)
    (translates : ∀ failure, Failure failure → Failure' (transform failure)) :
    FailsWith (fun reader => (parse reader).mapError transform) Failure' := by
  intro buffer failure failed
  cases parsed : parse buffer with
  | error first =>
      simp only [parsed] at failed
      cases failed
      exact translates first (fails buffer first parsed)
  | ok outcome =>
      simp only [parsed] at failed
      cases failed

end FailsWith

/-- The errors of a stream that is too short. -/
def ReadError.AtEnd (failure : ReadError) : Prop :=
  failure = .eof ∨ failure = .unexpectedEOF

theorem Buffer.readFull_failsWith (want : Nat) :
    FailsWith (readFull want) ReadError.AtEnd := by
  intro ⟨bytes⟩ failure failed
  by_cases enough : want ≤ bytes.length
  · have parsed := Buffer.readFull_append (bytes.take want) (bytes.drop want)
    rw [List.take_append_drop, List.length_take, Nat.min_eq_left enough, failed]
      at parsed
    cases parsed
  · rw [Buffer.readFull_error_of_lt (Nat.lt_of_not_le enough)] at failed
    obtain ⟨⟩ := failed
    unfold ReadError.AtEnd
    split <;> simp

theorem Buffer.read_failsWith (want : Nat) :
    FailsWith (ByteReader.read want) ReadError.AtEnd := by
  intro ⟨bytes⟩ failure failed
  change Buffer.read want ⟨bytes⟩ = _ at failed
  unfold Buffer.read at failed
  split at failed
  · split at failed
    · cases failed
    · cases failed
      exact .inl rfl
  · cases failed

end Failures

end RmttGo
