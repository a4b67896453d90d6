import AsyncKafka.Library.ByteOrder
import AsyncKafka.Library.ByteStream

/-!
# Wire primitives

The integers, strings and byte arrays of the Kafka protocol as
`request_write.h` writes and `response_read.h` reads them.  Integers travel in
network byte order.  A string has a 16-bit length in front of it and a byte
array a 32-bit one; the array may be absent, which is written as length `-1`.

Every `std::string` of the client is a byte string: topics, client identifiers,
host names and message values carry no encoding.

The wire sizes are computed in `Int32`.  They only ever reach the wire through
`writeInt32`, which keeps nothing but the residue modulo `2^32`, so natural
numbers stand for them here.
-/

namespace AsyncKafka

/-- The contents of a `std::string` or of a byte vector. -/
abbrev Bytes := List UInt8

/-- How an operation can end the process instead of returning. -/
inductive Halt
  /-- A failed `assert`. -/
  | assertionFailed
  /-- An access the language leaves undefined, such as `*end()` or `front()` on
  an empty queue. -/
  | undefinedBehaviour
  /-- An exception that nothing catches. -/
  | uncaughtException
  /-- A call of `exit`. -/
  | exited
  deriving DecidableEq, Repr

/-- Decoders over the bytes of a response. -/
abbrev Reader (α : Type) := StreamReader Halt α

namespace Wire

open ByteOrder

def writeInt8 (value : Int) : Bytes := writeSigned 1 value

def writeInt16 (value : Int) : Bytes := writeSigned 2 value

def writeInt32 (value : Int) : Bytes := writeSigned 4 value

def writeInt64 (value : Int) : Bytes := writeSigned 8 value

@[simp] theorem length_writeInt8 (value : Int) :
    (writeInt8 value).length = 1 := length_writeSigned 1 value

@[simp] theorem length_writeInt16 (value : Int) :
    (writeInt16 value).length = 2 := length_writeSigned 2 value

@[simp] theorem length_writeInt32 (value : Int) :
    (writeInt32 value).length = 4 := length_writeSigned 4 value

@[simp] theorem length_writeInt64 (value : Int) :
    (writeInt64 value).length = 8 := length_writeSigned 8 value

/-- Bytes a string takes on the wire. -/
def stringWireSize (string : Bytes) : Nat := 2 + string.length

/-- Bytes an optional byte array takes on the wire. -/
def bytesWireSize : Option Bytes → Nat
  | none => 4
  | some bytes => 4 + bytes.length

def writeString (value : Bytes) : Bytes :=
  writeInt16 value.length ++ value

def writeBytes : Option Bytes → Bytes
  | none => writeInt32 (-1)
  | some bytes => writeInt32 bytes.length ++ bytes

@[simp] theorem length_writeBytes (value : Option Bytes) :
    (writeBytes value).length = bytesWireSize value := by
  cases value <;> simp [writeBytes, bytesWireSize]

/-- Read a signed integer of the given number of bytes. -/
def readInt (width : Nat) : Reader Int := do
  let bytes ← StreamReader.block width
  return readSigned bytes

def readInt8 : Reader Int := readInt 1

def readInt16 : Reader Int := readInt 2

def readInt32 : Reader Int := readInt 4

def readInt64 : Reader Int := readInt 8

/-- Read a string; a length that is not positive gives the empty string. -/
def readString : Reader Bytes := do
  let length ← readInt16
  if 0 < length then
    StreamReader.block length.toNat
  else
    return []

/-- Read a byte array.  A length that is not positive leaves it absent. -/
def readBytes : Reader (Option Bytes) := do
  let length ← readInt32
  if 0 < length then
    let bytes ← StreamReader.block length.toNat
    return some bytes
  else
    return none

theorem readInt_apply (width : Nat) (stream : ByteStream) :
    readInt width stream =
      .ok (readSigned (stream.fill width).1, (stream.fill width).2) := rfl

/-- Whatever the stream holds, an integer of the given width is read. -/
theorem readInt_yields {width : Nat} (positive : 0 < width) :
    (readInt width).Yields fun value =>
      -(2 ^ (8 * width - 1)) ≤ value ∧ value < 2 ^ (8 * width - 1) := by
  intro stream value later returned
  rw [readInt_apply] at returned
  obtain ⟨rfl, -⟩ := Prod.mk.inj (Except.ok.inj returned)
  have lower := le_wrap (8 * (stream.fill width).1.length)
    (ofBigEndian (stream.fill width).1)
  have upper := wrap_lt
    (show 0 < 8 * (stream.fill width).1.length by simp; omega)
    (ofBigEndian (stream.fill width).1)
  rw [ByteStream.length_fill] at lower upper
  rw [readSigned, ByteStream.length_fill]
  exact ⟨lower, upper⟩

/-- An integer whose bytes are all there. -/
theorem readInt_append
    {width : Nat}
    {block : Bytes}
    (whole : block.length = width)
    (rest : Bytes) :
    readInt width ⟨block ++ rest, false⟩ =
      .ok (readSigned block, ⟨rest, false⟩) := by
  rw [readInt_apply, ByteStream.fill_append whole]

/-- An integer that is wholly there is read back. -/
theorem readInt_writeSigned
    {width : Nat}
    {value : Int}
    (positive : 0 < width)
    (lower : -(2 ^ (8 * width - 1)) ≤ value)
    (upper : value < 2 ^ (8 * width - 1))
    (rest : Bytes) :
    readInt width ⟨writeSigned width value ++ rest, false⟩ =
      .ok (value, ⟨rest, false⟩) := by
  rw [readInt_append (length_writeSigned width value),
    readSigned_writeSigned positive lower upper]

theorem readInt16_writeInt16
    {value : Int}
    (lower : -(2 ^ 15) ≤ value)
    (upper : value < 2 ^ 15)
    (rest : Bytes) :
    readInt16 ⟨writeInt16 value ++ rest, false⟩ = .ok (value, ⟨rest, false⟩) :=
  readInt_writeSigned (by decide) lower upper rest

theorem readInt32_writeInt32
    {value : Int}
    (lower : -(2 ^ 31) ≤ value)
    (upper : value < 2 ^ 31)
    (rest : Bytes) :
    readInt32 ⟨writeInt32 value ++ rest, false⟩ = .ok (value, ⟨rest, false⟩) :=
  readInt_writeSigned (by decide) lower upper rest

theorem readInt64_writeInt64
    {value : Int}
    (lower : -(2 ^ 63) ≤ value)
    (upper : value < 2 ^ 63)
    (rest : Bytes) :
    readInt64 ⟨writeInt64 value ++ rest, false⟩ = .ok (value, ⟨rest, false⟩) :=
  readInt_writeSigned (by decide) lower upper rest

/-- A block that is wholly there is read as it stands. -/
theorem block_append
    {block : Bytes}
    {count : Nat}
    (width : block.length = count)
    (rest : Bytes) :
    (StreamReader.block count : Reader Bytes) ⟨block ++ rest, false⟩ =
      .ok (block, ⟨rest, false⟩) := by
  rw [StreamReader.block, ByteStream.fill_append width]

theorem readString_writeString
    {value : Bytes}
    (short : value.length < 2 ^ 15)
    (rest : Bytes) :
    readString ⟨writeString value ++ rest, false⟩ =
      .ok (value, ⟨rest, false⟩) := by
  rw [readString, writeString, List.append_assoc,
    StreamReader.bind_of_eq
      (readInt16_writeInt16 (by omega) (by omega) (value ++ rest))]
  by_cases empty : value = []
  · subst empty
    rfl
  · have positive := List.length_pos_iff.mpr empty
    rw [if_pos (by omega)]
    exact block_append rfl rest

/-- A byte array is read back, except that an empty one comes back absent. -/
theorem readBytes_writeBytes
    {value : Option Bytes}
    (short : bytesWireSize value < 2 ^ 31)
    (rest : Bytes) :
    readBytes ⟨writeBytes value ++ rest, false⟩ =
      .ok (value.filter fun bytes => !bytes.isEmpty, ⟨rest, false⟩) := by
  cases value with
  | none =>
      rw [readBytes, writeBytes, StreamReader.bind_of_eq
        (readInt32_writeInt32 (by decide) (by decide) rest)]
      rfl
  | some bytes =>
      simp only [bytesWireSize] at short
      rw [readBytes, writeBytes, List.append_assoc, StreamReader.bind_of_eq
        (readInt32_writeInt32 (by omega) (by omega) (bytes ++ rest))]
      by_cases empty : bytes = []
      · subst empty
        rfl
      · have positive := List.length_pos_iff.mpr empty
        rw [if_pos (by omega), Int.toNat_natCast,
          StreamReader.bind_of_eq (block_append rfl rest)]
        simp [Option.filter, empty, StreamReader.pure_apply]

end Wire
end AsyncKafka
