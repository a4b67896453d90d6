import AsyncKafka.Wire.Message

/-!
# Requests

The four requests the client sends, as they are built and as `WriteRequest`
puts them on the wire.  A frame is its size, the api key, the api version, the
correlation identifier and the client identifier, followed by the message of
the particular request.
-/

namespace AsyncKafka
namespace Wire

def apiKeyProduceRequest : Int := 0

def apiKeyFetchRequest : Int := 1

def apiKeyOffsetRequest : Int := 2

def apiKeyMetadataRequest : Int := 3

def offsetTimeLatest : Int := -1

def offsetTimeEarliest : Int := -2

def defaultOffsetMaxNumberOfOffsets : Int := 1

/-- The block of a request or response that belongs to one topic. -/
structure Topic (π : Type) where
  topicName : Bytes
  partitions : List π
  deriving DecidableEq, Repr

/-- Change the first entry that matches, or append a changed fresh one when
none does. -/
def modifyOrInsert
    (matching : α → Bool)
    (fresh : α)
    (change : α → α) : List α → List α
  | [] => [change fresh]
  | entry :: entries =>
      if matching entry then change entry :: entries
      else entry :: modifyOrInsert matching fresh change entries

/-- Change the entry of a topic and a partition, creating what is missing. -/
def modifyPartition
    (number : π → Int)
    (fresh : π)
    (topicName : Bytes)
    (partition : Int)
    (change : π → π)
    (topics : List (Topic π)) : List (Topic π) :=
  modifyOrInsert (fun topic => topic.topicName == topicName) ⟨topicName, []⟩
    (fun topic => { topic with
      partitions := modifyOrInsert (fun entry => number entry == partition)
        fresh change topic.partitions })
    topics

def requestWireSize (clientId : Bytes) (requestMessageWireSize : Nat) : Nat :=
  2 + 2 + 4 + stringWireSize clientId + requestMessageWireSize

/-- The frame of a request, given the size and the bytes of its message. -/
def writeRequest
    (apiKey correlationId : Int)
    (requestMessageWireSize : Nat)
    (requestMessage : Bytes)
    (clientId : Bytes) : Bytes :=
  writeInt32 (requestWireSize clientId requestMessageWireSize) ++
    writeInt16 apiKey ++ writeInt16 0 ++ writeInt32 correlationId ++
    writeString clientId ++ requestMessage

structure ProducePartition where
  partition : Int
  messages : MessageSet := []
  deriving DecidableEq, Repr

structure ProduceRequest where
  correlationId : Int := 0
  requiredAcks : Int := 0
  timeout : Int := 10000
  topics : List (Topic ProducePartition) := []
  deriving DecidableEq, Repr

namespace ProduceRequest

def addMessage
    (request : ProduceRequest)
    (message : Message)
    (topicName : Bytes)
    (partition : Int) : ProduceRequest :=
  { request with
    topics := modifyPartition ProducePartition.partition { partition }
      topicName partition
      (fun entry => { entry with
        messages := entry.messages ++ [{ message with offset := 0 }] })
      request.topics }

def addValue
    (request : ProduceRequest)
    (value : Bytes)
    (topicName : Bytes)
    (partition : Int) : ProduceRequest :=
  request.addMessage { value := some value } topicName partition

def clear (request : ProduceRequest) : ProduceRequest :=
  { request with topics := [] }

def responseExpected (request : ProduceRequest) : Bool :=
  request.requiredAcks != 0

def requestMessageWireSize (request : ProduceRequest) : Nat :=
  2 + 4 + 4 + (request.topics.map fun topic =>
    stringWireSize topic.topicName + 4 + (topic.partitions.map fun entry =>
      4 + 4 + messageSetWireSize entry.messages).sum).sum

def writeRequestMessage
    (crc32 : Bytes → UInt32)
    (request : ProduceRequest) : Bytes :=
  writeInt16 request.requiredAcks ++ writeInt32 request.timeout ++
    writeInt32 request.topics.length ++
    request.topics.flatMap fun topic =>
      writeString topic.topicName ++ writeInt32 topic.partitions.length ++
        topic.partitions.flatMap fun entry =>
          writeInt32 entry.partition ++
            writeInt32 (messageSetWireSize entry.messages) ++
            writeMessageSet crc32 entry.messages

/-- The frame of a produce request. -/
def write
    (crc32 : Bytes → UInt32)
    (request : ProduceRequest)
    (clientId : Bytes) : Bytes :=
  writeRequest apiKeyProduceRequest request.correlationId
    request.requestMessageWireSize (request.writeRequestMessage crc32) clientId

/-- The values a produce request carries, in order. -/
def values (request : ProduceRequest) : List Bytes :=
  request.topics.flatMap fun topic => topic.partitions.flatMap fun entry =>
    entry.messages.map fun message => message.value.getD []

end ProduceRequest

structure FetchPartition where
  partition : Int
  fetchOffset : Int := 0
  maxBytes : Int := 0
  deriving DecidableEq, Repr

structure FetchRequest where
  correlationId : Int := 0
  maxWaitTime : Int := 0
  minBytes : Int := 0
  topics : List (Topic FetchPartition) := []
  deriving DecidableEq, Repr

namespace FetchRequest

def fetchTopic
    (request : FetchRequest)
    (topicName : Bytes)
    (partition fetchOffset maxBytes : Int) : FetchRequest :=
  { request with
    topics := modifyPartition FetchPartition.partition { partition }
      topicName partition
      (fun entry => { entry with fetchOffset, maxBytes })
      request.topics }

def requestMessageWireSize (request : FetchRequest) : Nat :=
  4 + 4 + 4 + 4 + (request.topics.map fun topic =>
    stringWireSize topic.topicName +
      (4 + topic.partitions.length * (4 + 8 + 4))).sum

def writeRequestMessage (request : FetchRequest) : Bytes :=
  writeInt32 (-1) ++ writeInt32 request.maxWaitTime ++
    writeInt32 request.minBytes ++ writeInt32 request.topics.length ++
    request.topics.flatMap fun topic =>
      writeString topic.topicName ++ writeInt32 topic.partitions.length ++
        topic.partitions.flatMap fun entry =>
          writeInt32 entry.partition ++ writeInt64 entry.fetchOffset ++
            writeInt32 entry.maxBytes

/-- The frame of a fetch request. -/
def write (request : FetchRequest) (clientId : Bytes) : Bytes :=
  writeRequest apiKeyFetchRequest request.correlationId
    request.requestMessageWireSize request.writeRequestMessage clientId

/-- The offsets a fetch request asks for. -/
def fetchOffsets (request : FetchRequest) : List Int :=
  request.topics.flatMap fun topic =>
    topic.partitions.map FetchPartition.fetchOffset

end FetchRequest

structure OffsetRequestPartition where
  partition : Int
  time : Int := 0
  maxNumberOfOffsets : Int := 0
  deriving DecidableEq, Repr

structure OffsetRequest where
  correlationId : Int := 0
  topics : List (Topic OffsetRequestPartition) := []
  deriving DecidableEq, Repr

namespace OffsetRequest

def fetchTopicOffset
    (request : OffsetRequest)
    (topicName : Bytes)
    (partition time maxNumberOfOffsets : Int) : OffsetRequest :=
  { request with
    topics := modifyPartition OffsetRequestPartition.partition { partition }
      topicName partition
      (fun entry => { entry with time, maxNumberOfOffsets })
      request.topics }

def requestMessageWireSize (request : OffsetRequest) : Nat :=
  4 + 4 + (request.topics.map fun topic =>
    stringWireSize topic.topicName + 4 +
      topic.partitions.length * (4 + 8 + 4)).sum

def writeRequestMessage (request : OffsetRequest) : Bytes :=
  writeInt32 (-1) ++ writeInt32 request.topics.length ++
    request.topics.flatMap fun topic =>
      writeString topic.topicName ++ writeInt32 topic.partitions.length ++
        topic.partitions.flatMap fun entry =>
          writeInt32 entry.partition ++ writeInt64 entry.time ++
            writeInt32 entry.maxNumberOfOffsets

/-- The frame of an offset request. -/
def write (request : OffsetRequest) (clientId : Bytes) : Bytes :=
  writeRequest apiKeyOffsetRequest request.correlationId
    request.requestMessageWireSize request.writeRequestMessage clientId

/-- The times an offset request asks about. -/
def times (request : OffsetRequest) : List Int :=
  request.topics.flatMap fun topic =>
    topic.partitions.map OffsetRequestPartition.time

end OffsetRequest

structure MetadataRequest where
  correlationId : Int := 0
  topicNames : List Bytes := []
  deriving DecidableEq, Repr

namespace MetadataRequest

def addTopicName
    (request : MetadataRequest)
    (topicName : Bytes) : MetadataRequest :=
  { request with topicNames := request.topicNames ++ [topicName] }

def requestMessageWireSize (request : MetadataRequest) : Nat :=
  4 + (request.topicNames.map stringWireSize).sum

def writeRequestMessage (request : MetadataRequest) : Bytes :=
  writeInt32 request.topicNames.length ++
    request.topicNames.flatMap writeString

/-- The frame of a metadata request. -/
def write (request : MetadataRequest) (clientId : Bytes) : Bytes :=
  writeRequest apiKeyMetadataRequest request.correlationId
    request.requestMessageWireSize request.writeRequestMessage clientId

end MetadataRequest

/-- Any of the four requests. -/
inductive Request
  | produce (request : ProduceRequest)
  | fetch (request : FetchRequest)
  | offset (request : OffsetRequest)
  | metadata (request : MetadataRequest)
  deriving DecidableEq, Repr

end Wire
end AsyncKafka
