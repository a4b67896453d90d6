import AsyncKafka.Wire.Response

/-!
# The broker's side of the wire

What a broker sends: messages of its log with their offsets in front, message
sets, and the fetch and offset responses for one partition.  These definitions
follow the protocol and not the repository, which holds no broker; the lemmas
say what the client reads from them.
-/

namespace AsyncKafka
namespace Broker

open Wire ByteOrder

/-- A message of a log, one that has a value. -/
structure LogMessage where
  offset : Int
  crc : Int := 0
  magicByte : Int := 0
  attributes : Int := 0
  key : Option Bytes := none
  value : Bytes
  deriving DecidableEq, Repr

namespace LogMessage

/-- The message without its offset and size. -/
def body (message : LogMessage) : Bytes :=
  writeInt32 message.crc ++ writeInt8 message.magicByte ++
    writeInt8 message.attributes ++ writeBytes message.key ++
    writeBytes (some message.value)

/-- The message as it stands in a message set. -/
def encode (message : LogMessage) : Bytes :=
  writeInt64 message.offset ++ writeInt32 message.body.length ++ message.body

/-- The bytes that a message takes in a message set. -/
def wireSize (message : LogMessage) : Nat := 12 + message.body.length

/-- A message that the protocol can carry and after which there is still a
next offset. -/
structure Valid (message : LogMessage) : Prop where
  short : message.body.length < 2 ^ 31
  lower : -(2 ^ 63) ≤ message.offset
  upper : message.offset < 2 ^ 63 - 1

instance (message : LogMessage) : Decidable message.Valid :=
  decidable_of_iff
    (message.body.length < 2 ^ 31 ∧ -(2 ^ 63) ≤ message.offset ∧
      message.offset < 2 ^ 63 - 1)
    ⟨fun ⟨short, lower, upper⟩ => ⟨short, lower, upper⟩,
      fun ⟨short, lower, upper⟩ => ⟨short, lower, upper⟩⟩

/-- What the client reads from a message: an empty key or value is taken for
an absent one. -/
def decoded (message : LogMessage) : MessageAndOffset :=
  { key := message.key.filter fun bytes => !bytes.isEmpty
    value := (some message.value).filter fun bytes => !bytes.isEmpty
    offset := message.offset }

@[simp] theorem length_encode (message : LogMessage) :
    message.encode.length = message.wireSize := by
  simp only [encode, wireSize, List.length_append, length_writeInt64,
    length_writeInt32]

theorem length_body (message : LogMessage) :
    message.body.length =
      6 + bytesWireSize message.key + (4 + message.value.length) := by
  simp [body, bytesWireSize]
  omega

end LogMessage

/-- A message set is the concatenation of its messages. -/
def messageSet (messages : List LogMessage) : Bytes :=
  messages.flatMap LogMessage.encode

/-- The response to a fetch request for one partition. -/
def fetchResponse
    (topicName : Bytes)
    (partition errorCode highwaterMarkOffset : Int)
    (messages : Bytes) : Bytes :=
  writeInt32 apiKeyFetchRequest ++ (writeInt32 1 ++ (writeString topicName ++
    (writeInt32 1 ++ (writeInt32 partition ++ (writeInt16 errorCode ++
      (writeInt64 highwaterMarkOffset ++
        (writeInt32 messages.length ++ messages)))))))

/-- The response to an offset request for one partition. -/
def offsetResponse
    (topicName : Bytes)
    (partition errorCode : Int)
    (offsets : List Int) : Bytes :=
  writeInt32 apiKeyOffsetRequest ++ (writeInt32 1 ++ (writeString topicName ++
    (writeInt32 1 ++ (writeInt32 partition ++ (writeInt16 errorCode ++
      (writeInt32 offsets.length ++ offsets.flatMap writeInt64))))))

/-- The fixed part of a message is read and dropped. -/
theorem readMessage_body
    {message : LogMessage}
    (short : message.body.length < 2 ^ 31)
    (rest : Bytes) :
    readMessage ⟨message.body ++ rest, false⟩ =
      .ok ({ key := message.decoded.key, value := message.decoded.value },
        ⟨rest, false⟩) := by
  have size := message.length_body
  have keyShort : bytesWireSize message.key < 2 ^ 31 := by omega
  have valueShort : bytesWireSize (some message.value) < 2 ^ 31 := by
    simp only [bytesWireSize]
    omega
  have shape : message.body ++ rest =
      writeInt32 message.crc ++ (writeInt8 message.magicByte ++
        (writeInt8 message.attributes ++ (writeBytes message.key ++
          (writeBytes (some message.value) ++ rest)))) := by
    simp [LogMessage.body]
  unfold readMessage readInt32 readInt8
  rw [shape,
    StreamReader.bind_of_eq (readInt_append (length_writeInt32 _) _),
    StreamReader.bind_of_eq (readInt_append (length_writeInt8 _) _),
    StreamReader.bind_of_eq (readInt_append (length_writeInt8 _) _),
    StreamReader.bind_of_eq (readBytes_writeBytes keyShort _),
    StreamReader.bind_of_eq (readBytes_writeBytes valueShort _)]
  rfl

theorem length_messageSet_cons (message : LogMessage) (messages : List LogMessage) :
    (messageSet (message :: messages)).length =
      message.wireSize + (messageSet messages).length := by
  simp [messageSet]

/-- The loop ends when everything is read. -/
theorem readMessageSetLoop_done
    (buffer : Bytes)
    {size readCount : Nat}
    (all : size ≤ readCount)
    (fuel : Nat)
    (stream : ByteStream) :
    readMessageSetLoop buffer size (fuel + 1) readCount stream = .ok ([], stream) := by
  rw [readMessageSetLoop, if_neg (by omega)]
  rfl

/-- The loop reads a message that is wholly there and goes on behind it. -/
theorem readMessageSetLoop_encode
    {buffer : Bytes}
    {message : LogMessage}
    (valid : message.Valid)
    {size readCount fuel : Nat}
    {rest : Bytes}
    {later : MessageSet}
    {stream : ByteStream}
    (room : readCount + message.wireSize ≤ size)
    (sizeShort : size < 2 ^ 31)
    (continued : readMessageSetLoop buffer size fuel (readCount + message.wireSize)
      ⟨rest, false⟩ = .ok (later, stream)) :
    readMessageSetLoop buffer size (fuel + 1) readCount ⟨message.encode ++ rest, false⟩ =
      .ok (message.decoded :: later, stream) := by
  obtain ⟨short, lower, upper⟩ := valid
  have wireSize : message.wireSize = 12 + message.body.length := rfl
  have shape : message.encode ++ rest =
      writeInt64 message.offset ++ (writeInt32 message.body.length ++
        (message.body ++ rest)) := by
    simp [LogMessage.encode]
  have unread : wrap 32 ((size - readCount : Nat) : Int) =
      ((size - readCount : Nat) : Int) :=
    wrap_of_range (by decide) (by omega) (by omega)
  have advanced : ((readCount + 12 + (message.body.length : Int)) % 2 ^ 64).toNat =
      readCount + message.wireSize := by
    omega
  rw [readMessageSetLoop, if_pos (by omega), shape,
    StreamReader.bind_of_eq (readInt64_writeInt64 lower (by omega) _),
    StreamReader.bind_of_eq (readInt32_writeInt32 (by omega) (by omega) _),
    unread, if_neg (by omega),
    StreamReader.bind_of_eq (readMessage_body short rest), advanced,
    StreamReader.bind_of_eq continued]
  rfl

/-- The loop reads the messages of a set one after the other. -/
theorem readMessageSetLoop_messageSet
    {buffer : Bytes}
    {messages : List LogMessage}
    (valid : ∀ message ∈ messages, message.Valid)
    {size readCount fuel : Nat}
    {rest : Bytes}
    {later : MessageSet}
    {stream : ByteStream}
    (room : readCount + (messageSet messages).length ≤ size)
    (sizeShort : size < 2 ^ 31)
    (continued : readMessageSetLoop buffer size fuel
      (readCount + (messageSet messages).length) ⟨rest, false⟩ =
        .ok (later, stream)) :
    readMessageSetLoop buffer size (fuel + messages.length) readCount
        ⟨messageSet messages ++ rest, false⟩ =
      .ok (messages.map LogMessage.decoded ++ later, stream) := by
  induction messages generalizing readCount with
  | nil => simpa [messageSet] using continued
  | cons message messages inductionHypothesis =>
      rw [length_messageSet_cons] at room continued
      have roomLater : readCount + message.wireSize +
          (messageSet messages).length ≤ size := by omega
      have rest := inductionHypothesis
        (fun other member => valid other (List.mem_cons_of_mem _ member))
        roomLater (by rwa [Nat.add_assoc])
      have read := readMessageSetLoop_encode
        (valid message List.mem_cons_self) (by omega) sizeShort rest
      simpa [messageSet, Nat.add_assoc] using read

/-- Every message takes at least a byte, so the loop has fuel for all of them. -/
theorem length_le_length_messageSet (messages : List LogMessage) :
    messages.length ≤ (messageSet messages).length := by
  induction messages with
  | nil => rfl
  | cons message messages inductionHypothesis =>
      rw [length_messageSet_cons, List.length_cons]
      simp only [LogMessage.wireSize]
      omega

/-- The messages at the front of a set are read, whatever follows them. -/
theorem readMessageSet_append
    {buffer : Bytes}
    {messages : List LogMessage}
    (valid : ∀ message ∈ messages, message.Valid)
    {rest : Bytes}
    {later : MessageSet}
    {stream : ByteStream}
    (short : (messageSet messages ++ rest).length < 2 ^ 31)
    (continued : readMessageSetLoop buffer (messageSet messages ++ rest).length
      (2 * (messageSet messages ++ rest).length - messages.length + 2)
      (messageSet messages).length ⟨rest, false⟩ = .ok (later, stream)) :
    readMessageSet buffer (messageSet messages ++ rest).length
        ⟨messageSet messages ++ rest, false⟩ =
      .ok (messages.map LogMessage.decoded ++ later, stream) := by
  have count := length_le_length_messageSet messages
  have length : (messageSet messages ++ rest).length =
      (messageSet messages).length + rest.length := List.length_append
  have fuel : (messageSet messages ++ rest).length +
        (messageSet messages ++ rest).length + 2 =
      2 * (messageSet messages ++ rest).length - messages.length + 2 +
        messages.length := by
    omega
  have read := readMessageSetLoop_messageSet valid
    (show 0 + (messageSet messages).length ≤
      (messageSet messages ++ rest).length by omega) short
    (by rwa [Nat.zero_add])
  rw [← fuel] at read
  exact read

/-- A set that ends with a whole message is read whole. -/
theorem readMessageSet_messageSet
    (buffer : Bytes)
    {messages : List LogMessage}
    (valid : ∀ message ∈ messages, message.Valid)
    (short : (messageSet messages).length < 2 ^ 31) :
    readMessageSet buffer (messageSet messages).length ⟨messageSet messages, false⟩ =
      .ok (messages.map LogMessage.decoded, ⟨[], false⟩) := by
  have done := readMessageSetLoop_done buffer
    (le_refl (messageSet messages).length)
    (2 * (messageSet messages).length - messages.length + 1) ⟨[], false⟩
  have shape := List.append_nil (messageSet messages)
  have read := readMessageSet_append valid (by rwa [shape]) (by rwa [shape])
  rwa [shape, List.append_nil] at read

/-- A response for a single partition is read as such, whether the partition
carries an error or not. -/
theorem readTopicArray_single
    {readPartition : Reader (π × Int)}
    {blank entry : π}
    {errorCode : Int}
    {topicName body : Bytes}
    {stream : ByteStream}
    (nameShort : topicName.length < 2 ^ 15)
    (readOk : readPartition ⟨body, false⟩ = .ok ((entry, errorCode), stream)) :
    readTopicArray readPartition blank
        ⟨writeInt32 1 ++ (writeString topicName ++ (writeInt32 1 ++ body)),
          false⟩ =
      .ok (([⟨topicName, [entry]⟩], errorCode), stream) := by
  have count (rest : Bytes) : readArrayLength ⟨writeInt32 1 ++ rest, false⟩ =
      .ok (1, ⟨rest, false⟩) := by
    rw [readArrayLength, StreamReader.bind_of_eq
      (readInt32_writeInt32 (by decide) (by decide) rest)]
    rfl
  have partitions : readPartitions readPartition blank 1 ⟨body, false⟩ =
      .ok (([entry], errorCode), stream) := by
    rw [readPartitions, StreamReader.bind_of_eq readOk]
    by_cases fine : errorCode = 0
    · subst fine
      rfl
    · simp [fine, StreamReader.pure_apply]
  rw [readTopicArray, StreamReader.bind_of_eq (count _), readTopics,
    StreamReader.bind_of_eq (readString_writeString nameShort _),
    StreamReader.bind_of_eq (count _), StreamReader.bind_of_eq partitions]
  by_cases fine : errorCode = 0
  · subst fine
    rfl
  · simp [fine, StreamReader.pure_apply]

/-- The integers in front of a partition fit their types. -/
structure ValidPartition
    (topicName : Bytes)
    (partition errorCode : Int) : Prop where
  nameShort : topicName.length < 2 ^ 15
  partitionLower : -(2 ^ 31) ≤ partition
  partitionUpper : partition < 2 ^ 31
  errorLower : -(2 ^ 15) ≤ errorCode
  errorUpper : errorCode < 2 ^ 15

instance (topicName : Bytes) (partition errorCode : Int) :
    Decidable (ValidPartition topicName partition errorCode) :=
  decidable_of_iff
    (topicName.length < 2 ^ 15 ∧
      (-(2 ^ 31) ≤ partition ∧ partition < 2 ^ 31) ∧
      (-(2 ^ 15) ≤ errorCode ∧ errorCode < 2 ^ 15))
    ⟨fun ⟨name, ⟨lower, upper⟩, ⟨errorLower, errorUpper⟩⟩ =>
        ⟨name, lower, upper, errorLower, errorUpper⟩,
      fun ⟨name, lower, upper, errorLower, errorUpper⟩ =>
        ⟨name, ⟨lower, upper⟩, ⟨errorLower, errorUpper⟩⟩⟩

/-- What the client reads from a fetch response without an error, given what it
reads from the message set. -/
theorem readFetchResponse_messages
    {topicName : Bytes}
    {partition highwaterMarkOffset : Int}
    {set : Bytes}
    {messages : MessageSet}
    {stream : ByteStream}
    (valid : ValidPartition topicName partition 0)
    (lower : -(2 ^ 63) ≤ highwaterMarkOffset)
    (upper : highwaterMarkOffset < 2 ^ 63)
    (short : set.length < 2 ^ 31)
    (readSet : readMessageSet
      (fetchResponse topicName partition 0 highwaterMarkOffset set) set.length
        ⟨set, false⟩ = .ok (messages, stream)) :
    readFetchResponse
        (fetchResponse topicName partition 0 highwaterMarkOffset set) =
      .ok (⟨[⟨topicName,
        [{ partition, errorCode := 0, highwaterMarkOffset, messages }]⟩]⟩, 0) := by
  have size : ((set.length : Int) % 2 ^ 64).toNat = set.length := by omega
  have read : readFetchResponsePartition
      (fetchResponse topicName partition 0 highwaterMarkOffset set)
      ⟨writeInt32 partition ++ (writeInt16 0 ++ (writeInt64 highwaterMarkOffset ++
        (writeInt32 set.length ++ set))), false⟩ =
      .ok (({ partition, errorCode := 0, highwaterMarkOffset, messages }, 0),
        stream) := by
    rw [readFetchResponsePartition,
      StreamReader.bind_of_eq
        (readInt32_writeInt32 valid.partitionLower valid.partitionUpper _),
      StreamReader.bind_of_eq (readInt16_writeInt16 (by decide) (by decide) _),
      StreamReader.bind_of_eq (readInt64_writeInt64 lower upper _),
      if_neg (by decide),
      StreamReader.bind_of_eq (readInt32_writeInt32 (by omega) (by omega) _),
      size, StreamReader.bind_of_eq readSet]
    rfl
  unfold fetchResponse at read ⊢
  rw [readFetchResponse, readResponse,
    StreamReader.bind_of_eq (readInt32_writeInt32 (by decide) (by decide) _),
    readTopicArray_single valid.nameShort read]
  rfl

/-- What the client reads from a fetch response with an error. -/
theorem readFetchResponse_error
    {topicName : Bytes}
    {partition errorCode highwaterMarkOffset : Int}
    {set : Bytes}
    (valid : ValidPartition topicName partition errorCode)
    (lower : -(2 ^ 63) ≤ highwaterMarkOffset)
    (upper : highwaterMarkOffset < 2 ^ 63)
    (erroneous : errorCode ≠ 0) :
    readFetchResponse
        (fetchResponse topicName partition errorCode highwaterMarkOffset set) =
      .ok (⟨[⟨topicName, [{ partition, errorCode, highwaterMarkOffset }]⟩]⟩,
        errorCode) := by
  have read : readFetchResponsePartition
      (fetchResponse topicName partition errorCode highwaterMarkOffset set)
      ⟨writeInt32 partition ++ (writeInt16 errorCode ++
        (writeInt64 highwaterMarkOffset ++
          (writeInt32 set.length ++ set))), false⟩ =
      .ok (({ partition, errorCode, highwaterMarkOffset }, errorCode),
        ⟨writeInt32 set.length ++ set, false⟩) := by
    rw [readFetchResponsePartition,
      StreamReader.bind_of_eq
        (readInt32_writeInt32 valid.partitionLower valid.partitionUpper _),
      StreamReader.bind_of_eq
        (readInt16_writeInt16 valid.errorLower valid.errorUpper _),
      StreamReader.bind_of_eq (readInt64_writeInt64 lower upper _),
      if_pos erroneous]
    rfl
  unfold fetchResponse at read ⊢
  rw [readFetchResponse, readResponse,
    StreamReader.bind_of_eq (readInt32_writeInt32 (by decide) (by decide) _),
    readTopicArray_single valid.nameShort read]
  rfl

/-- A run of 64-bit integers is read back. -/
theorem readMany_writeInt64
    {values : List Int}
    (valid : ∀ value ∈ values, -(2 ^ 63) ≤ value ∧ value < 2 ^ 63)
    (rest : Bytes) :
    readMany readInt64 values.length ⟨values.flatMap writeInt64 ++ rest, false⟩ =
      .ok (values, ⟨rest, false⟩) := by
  induction values with
  | nil => rfl
  | cons value values inductionHypothesis =>
      obtain ⟨lower, upper⟩ := valid value List.mem_cons_self
      have later := inductionHypothesis
        fun other member => valid other (List.mem_cons_of_mem _ member)
      rw [List.length_cons, readMany, List.flatMap_cons, List.append_assoc,
        StreamReader.bind_of_eq (readInt64_writeInt64 lower upper _),
        StreamReader.bind_of_eq later]
      rfl

/-- What the client reads from an offset response: the offsets when there is no
error, and none otherwise. -/
theorem readOffsetResponse_offsets
    {topicName : Bytes}
    {partition errorCode : Int}
    {offsets : List Int}
    (valid : ValidPartition topicName partition errorCode)
    (few : offsets.length < 2 ^ 31)
    (validOffsets : ∀ offset ∈ offsets, -(2 ^ 63) ≤ offset ∧ offset < 2 ^ 63) :
    readOffsetResponse (offsetResponse topicName partition errorCode offsets) =
      .ok (⟨[⟨topicName, [{
          partition, errorCode
          offsets := if errorCode = 0 then offsets else [] }]⟩]⟩, errorCode) := by
  have read : ∃ stream, readOffsetResponsePartition
      ⟨writeInt32 partition ++ (writeInt16 errorCode ++
        (writeInt32 offsets.length ++ offsets.flatMap writeInt64)), false⟩ =
      .ok (({
          partition, errorCode
          offsets := if errorCode = 0 then offsets else [] }, errorCode),
        stream) := by
    rw [readOffsetResponsePartition,
      StreamReader.bind_of_eq
        (readInt32_writeInt32 valid.partitionLower valid.partitionUpper _),
      StreamReader.bind_of_eq
        (readInt16_writeInt16 valid.errorLower valid.errorUpper _)]
    by_cases fine : errorCode = 0
    · subst fine
      have all := readMany_writeInt64 validOffsets []
      rw [List.append_nil] at all
      rw [if_neg (by decide),
        StreamReader.bind_of_eq (readInt32_writeInt32 (by omega) (by omega) _),
        Int.toNat_natCast, StreamReader.bind_of_eq all]
      exact ⟨_, rfl⟩
    · rw [if_pos fine, if_neg fine]
      exact ⟨_, rfl⟩
  obtain ⟨stream, readOk⟩ := read
  rw [readOffsetResponse, readResponse, offsetResponse,
    StreamReader.bind_of_eq (readInt32_writeInt32 (by decide) (by decide) _),
    readTopicArray_single valid.nameShort readOk]
  rfl

end Broker
end AsyncKafka
