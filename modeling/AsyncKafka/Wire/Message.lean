import AsyncKafka.Wire.Primitives
import AsyncKafka.Library.Execution

/-!
# Messages and message sets

A message is a checksum, a magic byte, attributes, an optional key and an
optional value.  A message set is the concatenation of its messages, each with
its offset and its size in front; nothing marks the end of a set but its total
size, and a broker may cut the last message of a set at any byte.

The checksum is computed by a library outside the repository, so the writing
functions take it as a parameter.
-/

namespace AsyncKafka
namespace Wire

open ByteOrder

/-- A message.  The magic byte is always zero and is not stored. -/
structure Message where
  attributes : Int := 0
  key : Option Bytes := none
  value : Option Bytes := none
  deriving DecidableEq, Repr

/-- A message with its offset in the log. -/
structure MessageAndOffset extends Message where
  offset : Int := 0
  deriving DecidableEq, Repr

abbrev MessageSet := List MessageAndOffset

def messageWireSize (message : Message) : Nat :=
  4 + 1 + 1 + bytesWireSize message.key + bytesWireSize message.value

def messageSetWireSize (messages : MessageSet) : Nat :=
  (messages.map fun message => 8 + 4 + messageWireSize message.toMessage).sum

/-- Everything of a message but its checksum. -/
def messageBody (message : Message) : Bytes :=
  writeInt8 0 ++ writeInt8 message.attributes ++
    writeBytes message.key ++ writeBytes message.value

def writeMessage (crc32 : Bytes → UInt32) (message : Message) : Bytes :=
  writeInt32 (crc32 (messageBody message)).toNat ++ messageBody message

def writeMessageSet (crc32 : Bytes → UInt32) (messages : MessageSet) : Bytes :=
  messages.flatMap fun message =>
    writeInt64 message.offset ++
      writeInt32 (messageWireSize message.toMessage) ++
      writeMessage crc32 message.toMessage

@[simp] theorem length_writeMessage
    (crc32 : Bytes → UInt32)
    (message : Message) :
    (writeMessage crc32 message).length = messageWireSize message := by
  simp only [writeMessage, messageBody, messageWireSize, List.length_append,
    length_writeInt32, length_writeInt8, length_writeBytes]
  omega

@[simp] theorem length_writeMessageSet
    (crc32 : Bytes → UInt32)
    (messages : MessageSet) :
    (writeMessageSet crc32 messages).length = messageSetWireSize messages := by
  induction messages with
  | nil => rfl
  | cons message messages inductionHypothesis =>
      simp only [writeMessageSet, messageSetWireSize] at inductionHypothesis ⊢
      simp only [List.flatMap_cons, List.length_append, inductionHypothesis,
        List.map_cons, List.sum_cons, length_writeInt64, length_writeInt32,
        length_writeMessage]

/-- Read a message.  Checksum, magic byte and attributes are read and dropped. -/
def readMessage : Reader Message := do
  let _crc ← readInt32
  let _magicByte ← readInt8
  let _attributes ← readInt8
  let key ← readBytes
  let value ← readBytes
  return { key, value }

/-- The loop of `ReadMessageSet`.  `size` and `readCount` are `size_t`; the
partial-message test compares the bytes left, converted to `Int32`, with the
size announced for the message.  The partial message is passed over by a `seekg`,
whose offset is the same size converted to a signed type: it moves back in the
buffer if the size of the set was negative.  The first argument bounds the
iterations: a loop that outlives it only ends by exhausting the memory. -/
def readMessageSetLoop (buffer : Bytes) (size : Nat) :
    Nat → Nat → Reader MessageSet
  | 0, _ => StreamReader.fail .uncaughtException
  | fuel + 1, readCount =>
      if readCount < size then do
        let offset ← readInt64
        let messageSize ← readInt32
        if wrap 32 ((size - readCount : Nat) : Int) < messageSize then
          -- Ignore partial messages: `read_count = size` ends the loop.
          modify (ByteStream.seek buffer (wrap 64 ((size - readCount : Nat) : Int)))
          return []
        else
          let message ← readMessage
          let later ← readMessageSetLoop buffer size fuel
            ((readCount + 12 + messageSize) % 2 ^ 64).toNat
          return { message with offset } :: later
      else
        return []

/-- Read a message set of the given size, a `size_t`, from a stream over a
buffer. -/
def readMessageSet (buffer : Bytes) (size : Nat) : Reader MessageSet := do
  let stream ← get
  readMessageSetLoop buffer size (stream.rest.length + size + 2) 0

end Wire
end AsyncKafka
