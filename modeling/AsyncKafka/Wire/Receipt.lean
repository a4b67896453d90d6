import AsyncKafka.Wire.Codec

/-!
# What a broker receives

A broker that follows the protocol to the letter: it takes the frame by its
size, checks that nothing of it is left over, checks the versions and the
checksums, and tells an empty byte array from an absent one.  It reads each of
the four requests as what the client has built.
-/

namespace AsyncKafka
namespace Broker

open Wire ByteOrder StreamReader

/-- How the broker rejects a frame. -/
def malformed : Halt := .uncaughtException

/-- Read an integer that has to have a certain value. -/
def readVersion (readNumber : Reader Int) (version : Int) : Reader Unit := do
  let number ← readNumber
  if number = version then return () else StreamReader.fail malformed

/-- Read a byte array; a negative length stands for an absent one. -/
def readNullable : Reader (Option Bytes) := do
  let length ← readInt32
  if length < 0 then return none
  else
    let bytes ← StreamReader.block length.toNat
    return some bytes

/-- Read a message whose checksum covers all that follows it. -/
def readSealed (crc32 : Bytes → UInt32) : Reader Message := do
  let checksum ← StreamReader.block 4
  let content ← get
  if checksum = writeInt32 (crc32 content.rest).toNat then
    readVersion readInt8 0
    let attributes ← readInt8
    let key ← readNullable
    let value ← readNullable
    return { attributes, key, value }
  else StreamReader.fail malformed

/-- Read a message with its offset. -/
def readProduced (crc32 : Bytes → UInt32) : Reader MessageAndOffset := do
  let offset ← readInt64
  let size ← readInt32
  let message ← exactly malformed size.toNat (readSealed crc32)
  return { message with offset }

/-- Read messages until the end. -/
def readProducedMessages (crc32 : Bytes → UInt32) : Reader MessageSet := do
  let stream ← get
  untilEnd malformed (readProduced crc32) (stream.rest.length + 1)

def readProducePartition (crc32 : Bytes → UInt32) :
    Reader ProducePartition := do
  let partition ← readInt32
  let size ← readInt32
  let messages ← exactly malformed size.toNat (readProducedMessages crc32)
  return { partition, messages }

def readFetchPartition : Reader FetchPartition := do
  let partition ← readInt32
  let fetchOffset ← readInt64
  let maxBytes ← readInt32
  return { partition, fetchOffset, maxBytes }

def readOffsetRequestPartition : Reader OffsetRequestPartition := do
  let partition ← readInt32
  let time ← readInt64
  let maxNumberOfOffsets ← readInt32
  return { partition, time, maxNumberOfOffsets }

def readRequestedTopic (readEntry : Reader π) : Reader (Topic π) := do
  let topicName ← readString
  let count ← readArrayLength
  let partitions ← readMany readEntry count
  return { topicName, partitions }

def readRequestedTopics (readEntry : Reader π) : Reader (List (Topic π)) := do
  let count ← readArrayLength
  readMany (readRequestedTopic readEntry) count

def readProduceRequest
    (crc32 : Bytes → UInt32)
    (correlationId : Int) : Reader ProduceRequest := do
  let requiredAcks ← readInt16
  let timeout ← readInt32
  let topics ← readRequestedTopics (readProducePartition crc32)
  return { correlationId, requiredAcks, timeout, topics }

def readFetchRequest (correlationId : Int) : Reader FetchRequest := do
  readVersion readInt32 (-1)
  let maxWaitTime ← readInt32
  let minBytes ← readInt32
  let topics ← readRequestedTopics readFetchPartition
  return { correlationId, maxWaitTime, minBytes, topics }

def readOffsetRequest (correlationId : Int) : Reader OffsetRequest := do
  readVersion readInt32 (-1)
  let topics ← readRequestedTopics readOffsetRequestPartition
  return { correlationId, topics }

def readMetadataRequest (correlationId : Int) : Reader MetadataRequest := do
  let count ← readArrayLength
  let topicNames ← readMany readString count
  return { correlationId, topicNames }

/-- Read the message of a request by its api key. -/
def readRequestMessage
    (crc32 : Bytes → UInt32)
    (apiKey correlationId : Int) : Reader Request :=
  if apiKey = apiKeyProduceRequest then
    Request.produce <$> readProduceRequest crc32 correlationId
  else if apiKey = apiKeyFetchRequest then
    Request.fetch <$> readFetchRequest correlationId
  else if apiKey = apiKeyOffsetRequest then
    Request.offset <$> readOffsetRequest correlationId
  else if apiKey = apiKeyMetadataRequest then
    Request.metadata <$> readMetadataRequest correlationId
  else StreamReader.fail malformed

/-- Read a frame: the client identifier and the request. -/
def readRequest (crc32 : Bytes → UInt32) : Reader (Bytes × Request) := do
  let size ← readInt32
  exactly malformed size.toNat do
    let apiKey ← readInt16
    readVersion readInt16 0
    let correlationId ← readInt32
    let clientId ← readString
    let request ← readRequestMessage crc32 apiKey correlationId
    return (clientId, request)

theorem readVersion_takes
    {readNumber : Reader Int}
    {block : Bytes}
    {version : Int}
    (takes : readNumber.Takes block version) :
    (readVersion readNumber version).Takes block () := by
  intro rest
  rw [readVersion, bind_of_eq (takes rest), if_pos rfl]
  rfl

theorem readNullable_takes
    {value : Option Bytes}
    (short : bytesWireSize value < 2 ^ 31) :
    readNullable.Takes (writeBytes value) value := by
  cases value with
  | none =>
      intro rest
      rw [readNullable, writeBytes,
        bind_of_eq (readInt32_takes (by decide) rest)]
      rfl
  | some bytes =>
      simp only [bytesWireSize] at short
      have length := readInt32_takes (fits_length
        (show bytes.length < 2 ^ 31 by omega))
      have content : (StreamReader.block (bytes.length : Int).toNat :
          Reader Bytes).Takes bytes bytes := .block rfl
      intro rest
      rw [readNullable, writeBytes, List.append_assoc,
        bind_of_eq (length _), if_neg (by omega), bind_of_eq (content rest)]
      rfl

/-- A message is read as it was written, and its checksum is right. -/
theorem readSealed_writeMessage
    (crc32 : Bytes → UInt32)
    {message : Message}
    (fits : Fits 1 message.attributes)
    (short : messageWireSize message < 2 ^ 31) :
    readSealed crc32 ⟨writeMessage crc32 message, false⟩ =
      .ok (message, ⟨[], false⟩) := by
  simp only [messageWireSize] at short
  have content : (do
      readVersion readInt8 0
      let attributes ← readInt8
      let key ← readNullable
      let value ← readNullable
      return { attributes, key, value } : Reader Message).Takes
        (writeInt8 0 ++ (writeInt8 message.attributes ++
          (writeBytes message.key ++ writeBytes message.value))) message :=
    (readVersion_takes (readInt8_takes (by decide))).bind
      ((readInt8_takes fits).bind
        ((readNullable_takes (by omega)).bind
          (readNullable_takes (by omega)).bind_pure))
  have body : messageBody message = writeInt8 0 ++
      (writeInt8 message.attributes ++
        (writeBytes message.key ++ writeBytes message.value)) := by
    simp [messageBody]
  have checksum : (StreamReader.block 4 : Reader Bytes).Takes
      (writeInt32 (crc32 (messageBody message)).toNat)
      (writeInt32 (crc32 (messageBody message)).toNat) :=
    .block (length_writeInt32 _)
  have stream (bytes : Bytes) : (get : Reader ByteStream) ⟨bytes, false⟩ =
      .ok (⟨bytes, false⟩, ⟨bytes, false⟩) := rfl
  rw [readSealed, writeMessage, bind_of_eq (checksum _), bind_of_eq (stream _),
    if_pos rfl, body]
  exact content.whole

/-- A message of a produce request can be written. -/
structure MessageFits (message : MessageAndOffset) : Prop where
  offset : Fits 8 message.offset
  attributes : Fits 1 message.attributes

/-- The block of a message in a message set. -/
def writeProduced (crc32 : Bytes → UInt32) (message : MessageAndOffset) :
    Bytes :=
  writeInt64 message.offset ++ (writeInt32 (messageWireSize message.toMessage) ++
    writeMessage crc32 message.toMessage)

theorem writeMessageSet_eq (crc32 : Bytes → UInt32) (messages : MessageSet) :
    writeMessageSet crc32 messages = messages.flatMap (writeProduced crc32) := by
  unfold writeMessageSet
  simp only [List.append_assoc]
  rfl

theorem readProduced_takes
    {crc32 : Bytes → UInt32}
    {message : MessageAndOffset}
    (fits : MessageFits message)
    (short : (writeProduced crc32 message).length < 2 ^ 31) :
    (readProduced crc32).Takes (writeProduced crc32 message) message := by
  have size : messageWireSize message.toMessage < 2 ^ 31 := by
    simp only [writeProduced, List.length_append, length_writeMessage] at short
    omega
  have sealed := readSealed_writeMessage crc32 fits.attributes size
  have inside := exactly_takes malformed
    (show (writeMessage crc32 message.toMessage).length =
      (messageWireSize message.toMessage : Int).toNat by simp) sealed
  exact (readInt64_takes fits.offset).bind
    ((readInt32_takes (fits_length size)).bind inside.bind_pure)

theorem readProducedMessages_writeMessageSet
    {crc32 : Bytes → UInt32}
    {messages : MessageSet}
    (fits : ∀ message ∈ messages, MessageFits message)
    (short : messageSetWireSize messages < 2 ^ 31) :
    readProducedMessages crc32 ⟨writeMessageSet crc32 messages, false⟩ =
      .ok (messages, ⟨[], false⟩) := by
  rw [← length_writeMessageSet crc32, writeMessageSet_eq] at short
  have positive (message : MessageAndOffset) :
      0 < (writeProduced crc32 message).length := by
    simp [writeProduced]
  have takes : ∀ message ∈ messages,
      writeProduced crc32 message ≠ [] ∧
        (readProduced crc32).Takes (writeProduced crc32 message) message := by
    intro message member
    have one := length_le_length_flatMap (writeProduced crc32) member
    exact ⟨List.length_pos_iff.mp (positive message),
      readProduced_takes (fits message member) (by omega)⟩
  have count := count_le_length_flatMap
    fun message (_ : message ∈ messages) => positive message
  have read := untilEnd_flatMap malformed id takes
    (Nat.lt_succ_of_le count)
  rw [List.map_id] at read
  rw [writeMessageSet_eq]
  exact read

/-! ## Arrays of topics -/

theorem readRequestedTopics_takes
    {readEntry : Reader π}
    {writeEntry : π → Bytes}
    {entryFits : π → Prop}
    {topics : List (Topic π)}
    (positive : ∀ entry, 0 < (writeEntry entry).length)
    (takes : ∀ entry, entryFits entry → (writeEntry entry).length < 2 ^ 31 →
      readEntry.Takes (writeEntry entry) entry)
    (fits : TopicsFit entryFits topics)
    (short : (writeTopicArray writeEntry topics).length < 2 ^ 31) :
    (readRequestedTopics readEntry).Takes (writeTopicArray writeEntry topics)
      topics := by
  obtain ⟨few, topicsShort⟩ := writeTopicArray_short positive short
  have each : ∀ topic ∈ topics, (readRequestedTopic readEntry).Takes
      (writeTopic writeEntry topic) (id topic) := by
    intro topic member
    obtain ⟨nameShort, entriesFit⟩ := fits topic member
    obtain ⟨fewEntries, entriesShort⟩ := topicsShort topic member
    have entries := readMany_takes id
      fun entry (inside : entry ∈ topic.partitions) =>
        takes entry (entriesFit entry inside) (entriesShort entry inside)
    rw [List.map_id] at entries
    exact (readString_takes nameShort).bind
      ((readArrayLength_takes fewEntries).bind entries.bind_pure)
  have all := readMany_takes id each
  rw [List.map_id] at all
  exact (readArrayLength_takes few).bind all

/-- The block of a partition in a produce request. -/
def writeProducePartition
    (crc32 : Bytes → UInt32)
    (entry : ProducePartition) : Bytes :=
  writeInt32 entry.partition ++ (writeInt32 (messageSetWireSize entry.messages) ++
    writeMessageSet crc32 entry.messages)

/-- The block of a partition in a fetch request. -/
def writeFetchPartition (entry : FetchPartition) : Bytes :=
  writeInt32 entry.partition ++ (writeInt64 entry.fetchOffset ++
    writeInt32 entry.maxBytes)

/-- The block of a partition in an offset request. -/
def writeOffsetRequestPartition (entry : OffsetRequestPartition) : Bytes :=
  writeInt32 entry.partition ++ (writeInt64 entry.time ++
    writeInt32 entry.maxNumberOfOffsets)

structure ProducePartitionFits (entry : ProducePartition) : Prop where
  partition : Fits 4 entry.partition
  messages : ∀ message ∈ entry.messages, MessageFits message

structure FetchPartitionFits (entry : FetchPartition) : Prop where
  partition : Fits 4 entry.partition
  fetchOffset : Fits 8 entry.fetchOffset
  maxBytes : Fits 4 entry.maxBytes

structure OffsetRequestPartitionFits (entry : OffsetRequestPartition) :
    Prop where
  partition : Fits 4 entry.partition
  time : Fits 8 entry.time
  maxNumberOfOffsets : Fits 4 entry.maxNumberOfOffsets

theorem readProducePartition_takes
    {crc32 : Bytes → UInt32}
    {entry : ProducePartition}
    (fits : ProducePartitionFits entry)
    (short : (writeProducePartition crc32 entry).length < 2 ^ 31) :
    (readProducePartition crc32).Takes (writeProducePartition crc32 entry)
      entry := by
  have size : messageSetWireSize entry.messages < 2 ^ 31 := by
    simp only [writeProducePartition, List.length_append,
      length_writeMessageSet] at short
    omega
  have messages := exactly_takes malformed
    (show (writeMessageSet crc32 entry.messages).length =
      (messageSetWireSize entry.messages : Int).toNat by simp)
    (readProducedMessages_writeMessageSet fits.messages size)
  exact (readInt32_takes fits.partition).bind
    ((readInt32_takes (fits_length size)).bind messages.bind_pure)

theorem readFetchPartition_takes
    {entry : FetchPartition}
    (fits : FetchPartitionFits entry) :
    readFetchPartition.Takes (writeFetchPartition entry) entry :=
  (readInt32_takes fits.partition).bind
    ((readInt64_takes fits.fetchOffset).bind
      (readInt32_takes fits.maxBytes).bind_pure)

theorem readOffsetRequestPartition_takes
    {entry : OffsetRequestPartition}
    (fits : OffsetRequestPartitionFits entry) :
    readOffsetRequestPartition.Takes (writeOffsetRequestPartition entry)
      entry :=
  (readInt32_takes fits.partition).bind
    ((readInt64_takes fits.time).bind
      (readInt32_takes fits.maxNumberOfOffsets).bind_pure)

end Broker

namespace Wire

open Broker StreamReader

/-! ## Whole requests -/

namespace ProduceRequest

theorem writeRequestMessage_eq
    (crc32 : Bytes → UInt32)
    (request : ProduceRequest) :
    request.writeRequestMessage crc32 =
      writeInt16 request.requiredAcks ++ (writeInt32 request.timeout ++
        writeTopicArray (writeProducePartition crc32) request.topics) := by
  simp only [writeRequestMessage, writeTopicArray, List.append_assoc]
  rfl

/-- The size that is computed is the size that is written. -/
theorem length_writeRequestMessage
    (crc32 : Bytes → UInt32)
    (request : ProduceRequest) :
    (request.writeRequestMessage crc32).length =
      request.requestMessageWireSize := by
  simp only [writeRequestMessage_eq, requestMessageWireSize,
    List.length_append, length_writeInt16, length_writeInt32,
    length_writeTopicArray, writeProducePartition, length_writeMessageSet,
    Nat.add_assoc]

/-- The integers and names of a produce request can be written. -/
structure Writable (request : ProduceRequest) : Prop where
  correlationId : Fits 4 request.correlationId
  requiredAcks : Fits 2 request.requiredAcks
  timeout : Fits 4 request.timeout
  topics : TopicsFit ProducePartitionFits request.topics

theorem readProduceRequest_takes
    {crc32 : Bytes → UInt32}
    {request : ProduceRequest}
    (writable : request.Writable)
    (short : request.requestMessageWireSize < 2 ^ 31) :
    (readProduceRequest crc32 request.correlationId).Takes
      (request.writeRequestMessage crc32) request := by
  rw [← length_writeRequestMessage crc32] at short
  rw [writeRequestMessage_eq] at short ⊢
  have arrayShort : (writeTopicArray (writeProducePartition crc32)
      request.topics).length < 2 ^ 31 := by
    simp only [List.length_append] at short
    omega
  have topics : (readRequestedTopics (readProducePartition crc32)).Takes
      (writeTopicArray (writeProducePartition crc32) request.topics)
      request.topics :=
    readRequestedTopics_takes (by simp [writeProducePartition])
      (fun _ => readProducePartition_takes) writable.topics arrayShort
  exact (readInt16_takes writable.requiredAcks).bind
    ((readInt32_takes writable.timeout).bind topics.bind_pure)

end ProduceRequest

namespace FetchRequest

theorem writeRequestMessage_eq (request : FetchRequest) :
    request.writeRequestMessage =
      writeInt32 (-1) ++ (writeInt32 request.maxWaitTime ++
        (writeInt32 request.minBytes ++
          writeTopicArray writeFetchPartition request.topics)) := by
  simp only [writeRequestMessage, writeTopicArray, List.append_assoc]
  rfl

theorem length_writeRequestMessage (request : FetchRequest) :
    request.writeRequestMessage.length = request.requestMessageWireSize := by
  simp only [writeRequestMessage_eq, requestMessageWireSize,
    List.length_append, length_writeInt32, length_writeInt64,
    length_writeTopicArray, writeFetchPartition, List.map_const',
    List.sum_replicate, smul_eq_mul, Nat.add_assoc]

/-- The integers and names of a fetch request can be written. -/
structure Writable (request : FetchRequest) : Prop where
  correlationId : Fits 4 request.correlationId
  maxWaitTime : Fits 4 request.maxWaitTime
  minBytes : Fits 4 request.minBytes
  topics : TopicsFit FetchPartitionFits request.topics

theorem readFetchRequest_takes
    {request : FetchRequest}
    (writable : request.Writable)
    (short : request.requestMessageWireSize < 2 ^ 31) :
    (readFetchRequest request.correlationId).Takes request.writeRequestMessage
      request := by
  rw [← length_writeRequestMessage] at short
  rw [writeRequestMessage_eq] at short ⊢
  have arrayShort : (writeTopicArray writeFetchPartition
      request.topics).length < 2 ^ 31 := by
    simp only [List.length_append] at short
    omega
  have topics : (readRequestedTopics readFetchPartition).Takes
      (writeTopicArray writeFetchPartition request.topics) request.topics :=
    readRequestedTopics_takes (by simp [writeFetchPartition])
      (fun _ fits _ => readFetchPartition_takes fits) writable.topics arrayShort
  exact (readVersion_takes (readInt32_takes (by decide))).bind
    ((readInt32_takes writable.maxWaitTime).bind
      ((readInt32_takes writable.minBytes).bind topics.bind_pure))

end FetchRequest

namespace OffsetRequest

theorem writeRequestMessage_eq (request : OffsetRequest) :
    request.writeRequestMessage =
      writeInt32 (-1) ++
        writeTopicArray writeOffsetRequestPartition request.topics := by
  simp only [writeRequestMessage, writeTopicArray, List.append_assoc]
  rfl

theorem length_writeRequestMessage (request : OffsetRequest) :
    request.writeRequestMessage.length = request.requestMessageWireSize := by
  simp only [writeRequestMessage_eq, requestMessageWireSize,
    List.length_append, length_writeInt32, length_writeInt64,
    length_writeTopicArray, writeOffsetRequestPartition, List.map_const',
    List.sum_replicate, smul_eq_mul, Nat.add_assoc]

/-- The integers and names of an offset request can be written. -/
structure Writable (request : OffsetRequest) : Prop where
  correlationId : Fits 4 request.correlationId
  topics : TopicsFit OffsetRequestPartitionFits request.topics

theorem readOffsetRequest_takes
    {request : OffsetRequest}
    (writable : request.Writable)
    (short : request.requestMessageWireSize < 2 ^ 31) :
    (readOffsetRequest request.correlationId).Takes request.writeRequestMessage
      request := by
  rw [← length_writeRequestMessage] at short
  rw [writeRequestMessage_eq] at short ⊢
  have arrayShort : (writeTopicArray writeOffsetRequestPartition
      request.topics).length < 2 ^ 31 := by
    simp only [List.length_append] at short
    omega
  have topics : (readRequestedTopics readOffsetRequestPartition).Takes
      (writeTopicArray writeOffsetRequestPartition request.topics)
      request.topics :=
    readRequestedTopics_takes (by simp [writeOffsetRequestPartition])
      (fun _ fits _ => readOffsetRequestPartition_takes fits) writable.topics
      arrayShort
  exact (readVersion_takes (readInt32_takes (by decide))).bind topics.bind_pure

end OffsetRequest

namespace MetadataRequest

theorem length_writeRequestMessage (request : MetadataRequest) :
    request.writeRequestMessage.length = request.requestMessageWireSize := by
  simp [writeRequestMessage, requestMessageWireSize, List.length_flatMap]

/-- The names of a metadata request can be written. -/
structure Writable (request : MetadataRequest) : Prop where
  correlationId : Fits 4 request.correlationId
  topicNames : ∀ name ∈ request.topicNames, name.length < 2 ^ 15

theorem readMetadataRequest_takes
    {request : MetadataRequest}
    (writable : request.Writable)
    (short : request.requestMessageWireSize < 2 ^ 31) :
    (readMetadataRequest request.correlationId).Takes
      request.writeRequestMessage request := by
  rw [← length_writeRequestMessage, writeRequestMessage,
    List.length_append] at short
  have few := count_le_length_flatMap
    fun name (_ : name ∈ request.topicNames) =>
      (show 0 < (writeString name).length by simp [stringWireSize])
  have names := readMany_takes id
    fun name (member : name ∈ request.topicNames) =>
      readString_takes (writable.topicNames name member)
  rw [List.map_id] at names
  exact (readArrayLength_takes (by omega)).bind names.bind_pure

end MetadataRequest

namespace Request

def apiKey : Request → Int
  | .produce _ => apiKeyProduceRequest
  | .fetch _ => apiKeyFetchRequest
  | .offset _ => apiKeyOffsetRequest
  | .metadata _ => apiKeyMetadataRequest

def correlationId : Request → Int
  | .produce request => request.correlationId
  | .fetch request => request.correlationId
  | .offset request => request.correlationId
  | .metadata request => request.correlationId

def requestMessageWireSize : Request → Nat
  | .produce request => request.requestMessageWireSize
  | .fetch request => request.requestMessageWireSize
  | .offset request => request.requestMessageWireSize
  | .metadata request => request.requestMessageWireSize

def writeRequestMessage (crc32 : Bytes → UInt32) : Request → Bytes
  | .produce request => request.writeRequestMessage crc32
  | .fetch request => request.writeRequestMessage
  | .offset request => request.writeRequestMessage
  | .metadata request => request.writeRequestMessage

/-- The frame of any of the four requests. -/
def write (crc32 : Bytes → UInt32) (clientId : Bytes) : Request → Bytes
  | .produce request => request.write crc32 clientId
  | .fetch request => request.write clientId
  | .offset request => request.write clientId
  | .metadata request => request.write clientId

/-- The integers and names of a request can be written. -/
def Writable : Request → Prop
  | .produce request => request.Writable
  | .fetch request => request.Writable
  | .offset request => request.Writable
  | .metadata request => request.Writable

theorem write_eq
    (crc32 : Bytes → UInt32)
    (clientId : Bytes)
    (request : Request) :
    request.write crc32 clientId =
      writeRequest request.apiKey request.correlationId
        request.requestMessageWireSize (request.writeRequestMessage crc32)
        clientId := by
  cases request <;> rfl

theorem length_writeRequestMessage
    (crc32 : Bytes → UInt32)
    (request : Request) :
    (request.writeRequestMessage crc32).length =
      request.requestMessageWireSize := by
  cases request with
  | produce request => exact request.length_writeRequestMessage crc32
  | fetch request => exact request.length_writeRequestMessage
  | offset request => exact request.length_writeRequestMessage
  | metadata request => exact request.length_writeRequestMessage

theorem Writable.correlationId
    {request : Request}
    (writable : request.Writable) :
    Fits 4 request.correlationId := by
  cases request with
  | produce request => exact ProduceRequest.Writable.correlationId writable
  | fetch request => exact FetchRequest.Writable.correlationId writable
  | offset request => exact OffsetRequest.Writable.correlationId writable
  | metadata request => exact MetadataRequest.Writable.correlationId writable

theorem fits_apiKey (request : Request) : Fits 2 request.apiKey := by
  cases request <;>
    simp [apiKey, apiKeyProduceRequest, apiKeyFetchRequest,
      apiKeyOffsetRequest, apiKeyMetadataRequest, Fits]

theorem readRequestMessage_takes
    {crc32 : Bytes → UInt32}
    {request : Request}
    (writable : request.Writable)
    (short : request.requestMessageWireSize < 2 ^ 31) :
    (readRequestMessage crc32 request.apiKey request.correlationId).Takes
      (request.writeRequestMessage crc32) request := by
  cases request with
  | produce request =>
      exact (ProduceRequest.readProduceRequest_takes writable short).map _
  | fetch request =>
      exact (FetchRequest.readFetchRequest_takes writable short).map _
  | offset request =>
      exact (OffsetRequest.readOffsetRequest_takes writable short).map _
  | metadata request =>
      exact (MetadataRequest.readMetadataRequest_takes writable short).map _

/-- The frame of any request that can be written is one that a broker accepts:
its size is right, nothing is left over, the checksums hold, and what is read
is the request. -/
theorem readRequest_write
    {crc32 : Bytes → UInt32}
    {clientId : Bytes}
    {request : Request}
    (clientShort : clientId.length < 2 ^ 15)
    (writable : request.Writable)
    (short : requestWireSize clientId request.requestMessageWireSize < 2 ^ 31)
    (rest : Bytes) :
    readRequest crc32 ⟨request.write crc32 clientId ++ rest, false⟩ =
      .ok ((clientId, request), ⟨rest, false⟩) := by
  have messageShort : request.requestMessageWireSize < 2 ^ 31 := by
    simp only [requestWireSize] at short
    omega
  have content : (do
      let apiKey ← readInt16
      readVersion readInt16 0
      let correlationId ← readInt32
      let clientId ← readString
      let request ← readRequestMessage crc32 apiKey correlationId
      return (clientId, request) : Reader (Bytes × Request)).Takes
        (writeInt16 request.apiKey ++ (writeInt16 0 ++
          (writeInt32 request.correlationId ++ (writeString clientId ++
            request.writeRequestMessage crc32)))) (clientId, request) :=
    (readInt16_takes request.fits_apiKey).bind
      ((readVersion_takes (readInt16_takes (by decide))).bind
        ((readInt32_takes writable.correlationId).bind
          ((readString_takes clientShort).bind
            (readRequestMessage_takes writable messageShort).bind_pure)))
  have width : (writeInt16 request.apiKey ++ (writeInt16 0 ++
      (writeInt32 request.correlationId ++ (writeString clientId ++
        request.writeRequestMessage crc32)))).length =
      (requestWireSize clientId request.requestMessageWireSize : Int).toNat := by
    simp only [List.length_append, length_writeInt16, length_writeInt32,
      length_writeString, length_writeRequestMessage, requestWireSize]
    omega
  have whole : (readRequest crc32).Takes (request.write crc32 clientId)
      (clientId, request) := by
    rw [write_eq, writeRequest]
    simp only [List.append_assoc]
    exact (readInt32_takes (fits_length short)).bind
      (exactly_takes malformed width content.whole)
  exact whole rest

/-- A request with an empty value, an absent one and a key, for two topics. -/
def sampleRequest : Request :=
  .produce
    { requiredAcks := 1
      topics := [
        ⟨[116], [{ partition := 0, messages := [
          { value := some [] }, { key := some [107], value := some [104] }] }]⟩,
        ⟨[117], [{ partition := 3, messages := [{ offset := 7 }] },
          { partition := -1 }]⟩] }

theorem sampleRequest_writable : sampleRequest.Writable := by
  refine ⟨by decide, by decide, by decide, ?_⟩
  intro topic member
  simp only [List.mem_cons, List.not_mem_nil, or_false] at member
  rcases member with rfl | rfl
  · refine ⟨by decide, fun entry inside => ?_⟩
    obtain rfl := List.mem_singleton.mp inside
    refine ⟨by decide, fun message found => ?_⟩
    simp only [List.mem_cons, List.not_mem_nil, or_false] at found
    rcases found with rfl | rfl <;> exact ⟨by decide, by decide⟩
  · refine ⟨by decide, fun entry inside => ?_⟩
    simp only [List.mem_cons, List.not_mem_nil, or_false] at inside
    rcases inside with rfl | rfl
    · refine ⟨by decide, fun message found => ?_⟩
      obtain rfl := List.mem_singleton.mp found
      exact ⟨by decide, by decide⟩
    · exact ⟨by decide, fun message found => absurd found List.not_mem_nil⟩

/-- The request is read back with all that it distinguishes, before the byte
that follows it. -/
theorem readRequest_write_sample :
    readRequest Crc32.checksum
        ⟨sampleRequest.write Crc32.checksum [99] ++ [7], false⟩ =
      .ok (([99], sampleRequest), ⟨[7], false⟩) :=
  readRequest_write (by decide) sampleRequest_writable (by decide) [7]

end Request

end Wire
end AsyncKafka
