import Mathlib.Data.List.Basic

/-!
# Byte streams with a failure bit

The part of a standard input stream that a binary decoder sees.  A block read
takes as many bytes as are left; asking for more than that sets the failure
bit, after which every read takes nothing.  A decoder never learns of the
failure unless it asks: it reads into a zeroed buffer, and what is missing
stays zero.
-/

/-- The unread bytes of an input stream and its failure bit. -/
structure ByteStream where
  /-- The bytes from the read position to the end. -/
  rest : List UInt8
  /-- Whether an earlier operation has failed. -/
  failed : Bool := false
  deriving DecidableEq, Repr

namespace ByteStream

/-- Read a block of bytes, as far as they are there. -/
def read (count : Nat) (stream : ByteStream) : List UInt8 × ByteStream :=
  if stream.failed then ([], stream)
  else if count ≤ stream.rest.length then
    (stream.rest.take count, ⟨stream.rest.drop count, false⟩)
  else (stream.rest, ⟨[], true⟩)

/-- Read a block into a buffer of that size whose bytes are zero. -/
def fill (count : Nat) (stream : ByteStream) : List UInt8 × ByteStream :=
  ((stream.read count).1 ++
      List.replicate (count - (stream.read count).1.length) 0,
    (stream.read count).2)

/-- Move the read position of a stream over a buffer, forward or back.  A move
out of the buffer fails and leaves the position where it was. -/
def seek (buffer : List UInt8) (offset : Int) (stream : ByteStream) : ByteStream :=
  let position : Int := buffer.length - stream.rest.length + offset
  if stream.failed then stream
  else if 0 ≤ position ∧ position ≤ buffer.length then
    ⟨buffer.drop position.toNat, false⟩
  else ⟨stream.rest, true⟩

@[simp] theorem length_fill (count : Nat) (stream : ByteStream) :
    (stream.fill count).1.length = count := by
  unfold fill read
  by_cases failed : stream.failed
  · simp [failed]
  · by_cases enough : count ≤ stream.rest.length
    · simp [failed, enough]
    · simp only [failed, enough, Bool.false_eq_true, if_false,
        List.length_append, List.length_replicate]
      omega

/-- A block that is wholly there is read as it stands. -/
theorem fill_append
    {block : List UInt8}
    {count : Nat}
    (width : block.length = count)
    (rest : List UInt8) :
    fill count ⟨block ++ rest, false⟩ = (block, ⟨rest, false⟩) := by
  subst width
  simp [fill, read]

/-- A block that is cut short is completed by zeros and exhausts the stream. -/
theorem fill_short
    {present : List UInt8}
    {count : Nat}
    (short : present.length < count) :
    fill count ⟨present, false⟩ =
      (present ++ List.replicate (count - present.length) 0, ⟨[], true⟩) := by
  simp [fill, read, Nat.not_le.mpr short]

/-- Nothing but zeros is read once the stream has failed. -/
theorem fill_failed (count : Nat) (rest : List UInt8) :
    fill count ⟨rest, true⟩ = (List.replicate count 0, ⟨rest, true⟩) := by
  simp [fill, read]

/-- A block that is there is read from the front. -/
theorem fill_of_le
    {count : Nat}
    {bytes : List UInt8}
    (enough : count ≤ bytes.length) :
    fill count ⟨bytes, false⟩ =
      (bytes.take count, ⟨bytes.drop count, false⟩) := by
  simp [fill, read, enough]

/-- A block read succeeds if there was no failure before and the block is wholly
there, and it leaves the bytes behind the block. -/
theorem fill_left
    {count : Nat}
    {stream : ByteStream}
    {rest : List UInt8}
    (left : (stream.fill count).2 = ⟨rest, false⟩) :
    stream.failed = false ∧ count ≤ stream.rest.length ∧
      stream.rest.drop count = rest := by
  unfold fill read at left
  split at left
  · rename_i failed
    obtain rfl : stream = ⟨rest, false⟩ := left
    cases failed
  · split at left
    · rename_i unfailed enough
      exact ⟨by simpa using unfailed, enough, (ByteStream.mk.inj left).1⟩
    · cases left

/-- A measure that every read decreases until the stream has failed. -/
def unread (stream : ByteStream) : Nat :=
  if stream.failed then 0 else stream.rest.length + 1

/-- A block read uses up the bytes, or else the stream. -/
theorem unread_fill_le (count : Nat) (stream : ByteStream) :
    (stream.fill count).2.unread ≤ stream.unread - count := by
  obtain ⟨rest, failed⟩ := stream
  cases failed with
  | true =>
      rw [fill_failed]
      exact Nat.zero_le _
  | false =>
      by_cases enough : count ≤ rest.length
      · rw [fill_of_le enough]
        simp only [unread, Bool.false_eq_true, if_false, List.length_drop]
        omega
      · rw [fill_short (Nat.not_le.mp enough)]
        exact Nat.zero_le _

/-- A stream that is used up holds zeros. -/
theorem fill_of_unread_eq_zero
    {stream : ByteStream}
    (exhausted : stream.unread = 0)
    (count : Nat) :
    stream.fill count = (List.replicate count 0, stream) := by
  obtain ⟨rest, failed⟩ := stream
  cases failed with
  | true => exact fill_failed count rest
  | false => cases exhausted

end ByteStream

/-- Decoders over a byte stream that may give up with an error. -/
abbrev StreamReader (ε α : Type) := StateT ByteStream (Except ε) α

namespace StreamReader

/-- A decoder that reads a fixed block into a zeroed buffer. -/
def block (count : Nat) : StreamReader ε (List UInt8) :=
  fun stream => .ok (stream.fill count)

/-- Give up with an error. -/
def fail (error : ε) : StreamReader ε α :=
  fun _ => .error error

/-- Returning a value leaves the stream alone. -/
theorem pure_apply (value : α) (stream : ByteStream) :
    (pure value : StreamReader ε α) stream = .ok (value, stream) := rfl

/-- Once a decoder has returned, the next one goes on with its value and with
the stream it left. -/
theorem bind_of_eq
    {first : StreamReader ε α}
    {second : α → StreamReader ε β}
    {stream next : ByteStream}
    {value : α}
    (returned : first stream = .ok (value, next)) :
    (first >>= second) stream = second value next := by
  change (first stream >>= fun result => second result.1 result.2) = _
  rw [returned]
  rfl

/-- Every value that the decoder returns has a property, whatever the stream
holds. -/
def Yields (reader : StreamReader ε α) (property : α → Prop) : Prop :=
  ∀ stream value later, reader stream = .ok (value, later) → property value

namespace Yields

theorem pure {value : α} {property : α → Prop} (holds : property value) :
    (Pure.pure value : StreamReader ε α).Yields property := by
  intro stream other later returned
  obtain ⟨rfl, -⟩ := Prod.mk.inj (Except.ok.inj returned)
  exact holds

theorem bind
    {first : StreamReader ε α}
    {second : α → StreamReader ε β}
    {early : α → Prop}
    {late : β → Prop}
    (before : first.Yields early)
    (after : ∀ value, early value → (second value).Yields late) :
    (first >>= second).Yields late := by
  intro stream value later returned
  change (first stream >>= fun result => second result.1 result.2) = _
    at returned
  cases firstReturned : first stream with
  | error halt =>
      rw [firstReturned] at returned
      cases returned
  | ok result =>
      rw [firstReturned] at returned
      exact after result.1 (before stream result.1 result.2 firstReturned)
        result.2 value later returned

theorem trivial (reader : StreamReader ε α) :
    reader.Yields fun _ => True := by
  intro _ _ _ _
  exact True.intro

theorem ite
    {condition : Prop}
    [Decidable condition]
    {first second : StreamReader ε α}
    {property : α → Prop}
    (yes : condition → first.Yields property)
    (no : ¬ condition → second.Yields property) :
    (if condition then first else second).Yields property := by
  split
  · exact yes (by assumption)
  · exact no (by assumption)

end Yields

/-- Whatever the stream holds, the decoder gives up with such errors only. -/
def FailsOnly (reader : StreamReader ε α) (errors : ε → Prop) : Prop :=
  ∀ stream error, reader stream = .error error → errors error

namespace FailsOnly

theorem pure (value : α) (errors : ε → Prop) :
    (Pure.pure value : StreamReader ε α).FailsOnly errors := by
  intro stream error failed
  cases failed

theorem block (count : Nat) (errors : ε → Prop) :
    (StreamReader.block count : StreamReader ε (List UInt8)).FailsOnly
      errors := by
  intro stream error failed
  cases failed

theorem fail {error : ε} {errors : ε → Prop} (expected : errors error) :
    (StreamReader.fail error : StreamReader ε α).FailsOnly errors := by
  intro stream other failed
  obtain rfl := Except.error.inj failed
  exact expected

theorem bind
    {first : StreamReader ε α}
    {second : α → StreamReader ε β}
    {errors : ε → Prop}
    (before : first.FailsOnly errors)
    (after : ∀ value, (second value).FailsOnly errors) :
    (first >>= second).FailsOnly errors := by
  intro stream error failed
  change (first stream >>= fun result => second result.1 result.2) = _ at failed
  cases firstReturned : first stream with
  | error halt =>
      rw [firstReturned] at failed
      obtain rfl := Except.error.inj failed
      exact before stream halt firstReturned
  | ok result =>
      rw [firstReturned] at failed
      exact after result.1 result.2 error failed

theorem ite
    {condition : Prop}
    [Decidable condition]
    {first second : StreamReader ε α}
    {errors : ε → Prop}
    (yes : first.FailsOnly errors)
    (no : second.FailsOnly errors) :
    (if condition then first else second).FailsOnly errors := by
  split
  · exact yes
  · exact no

end FailsOnly

end StreamReader
