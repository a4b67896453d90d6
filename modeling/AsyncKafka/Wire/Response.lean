import AsyncKafka.Wire.Request

/-!
# Responses

What `ReadResponse` makes of the payload of a response frame.  A vector is
resized to the length on the wire before its entries are read, so an error
code that ends the reading early leaves the remaining entries blank, and a
negative length is an exception that nothing catches.
-/

namespace AsyncKafka
namespace Wire

def findTopicByName (topicName : Bytes) (topics : List (Topic π)) :
    Option (Topic π) :=
  topics.find? fun topic => topic.topicName == topicName

def findTopicPartitionByNumber
    (number : π → Int)
    (partition : Int)
    (partitions : List π) : Option π :=
  partitions.find? fun entry => number entry == partition

/-- The entry of a topic and a partition, when there is one. -/
def findTopicPartition
    (number : π → Int)
    (topicName : Bytes)
    (partition : Int)
    (topics : List (Topic π)) : Option π :=
  match findTopicByName topicName topics with
  | none => none
  | some topic => findTopicPartitionByNumber number partition topic.partitions

/-- Read the length a vector is resized to. -/
def readArrayLength : Reader Nat := do
  let length ← readInt32
  if length < 0 then
    StreamReader.fail .uncaughtException
  else
    return length.toNat

/-- Read the partitions of a topic up to the first error code. -/
def readPartitions
    (readPartition : Reader (π × Int))
    (blank : π) : Nat → Reader (List π × Int)
  | 0 => return ([], 0)
  | count + 1 => do
      let (entry, errorCode) ← readPartition
      if errorCode ≠ 0 then
        return (entry :: List.replicate count blank, errorCode)
      else
        let (later, errorCode) ← readPartitions readPartition blank count
        return (entry :: later, errorCode)

/-- Read topics up to the first error code. -/
def readTopics
    (readPartition : Reader (π × Int))
    (blank : π) : Nat → Reader (List (Topic π) × Int)
  | 0 => return ([], 0)
  | count + 1 => do
      let topicName ← readString
      let partitionCount ← readArrayLength
      let (partitions, errorCode) ←
        readPartitions readPartition blank partitionCount
      if errorCode ≠ 0 then
        return (⟨topicName, partitions⟩ :: List.replicate count ⟨[], []⟩,
          errorCode)
      else
        let (later, errorCode) ← readTopics readPartition blank count
        return (⟨topicName, partitions⟩ :: later, errorCode)

/-- Read an array of topics and the error code that ended the reading. -/
def readTopicArray
    (readPartition : Reader (π × Int))
    (blank : π) : Reader (List (Topic π) × Int) := do
  let count ← readArrayLength
  readTopics readPartition blank count

/-- What holds of every entry that is read, and of blank ones, holds of all
entries of a topic. -/
theorem readPartitions_yields
    {readPartition : Reader (π × Int)}
    {blank : π}
    {property : π → Prop}
    (reads : readPartition.Yields fun result => property result.1)
    (fresh : property blank)
    (count : Nat) :
    (readPartitions readPartition blank count).Yields fun result =>
      ∀ entry ∈ result.1, property entry := by
  induction count with
  | zero => exact .pure (by simp)
  | succ count inductionHypothesis =>
      refine .bind reads fun result first => .ite ?_ ?_
      · intro _
        refine .pure fun entry member => ?_
        rcases List.mem_cons.mp member with rfl | later
        · exact first
        · rw [List.eq_of_mem_replicate later]
          exact fresh
      · intro _
        refine .bind inductionHypothesis fun later rest => .pure ?_
        intro entry member
        rcases List.mem_cons.mp member with rfl | inLater
        · exact first
        · exact rest entry inLater

theorem readTopics_yields
    {readPartition : Reader (π × Int)}
    {blank : π}
    {property : π → Prop}
    (reads : readPartition.Yields fun result => property result.1)
    (fresh : property blank)
    (count : Nat) :
    (readTopics readPartition blank count).Yields fun result =>
      ∀ topic ∈ result.1, ∀ entry ∈ topic.partitions, property entry := by
  induction count with
  | zero => exact .pure (by simp)
  | succ count inductionHypothesis =>
      refine .bind (.trivial _) fun topicName _ => ?_
      refine .bind (.trivial _) fun partitionCount _ => ?_
      refine .bind (readPartitions_yields reads fresh partitionCount)
        fun result first => .ite ?_ ?_
      · intro _
        refine .pure fun topic member => ?_
        rcases List.mem_cons.mp member with rfl | later
        · exact first
        · rw [List.eq_of_mem_replicate later]
          simp
      · intro _
        refine .bind inductionHypothesis fun later rest => .pure ?_
        intro topic member
        rcases List.mem_cons.mp member with rfl | inLater
        · exact first
        · exact rest topic inLater

/-- Read a response: the correlation identifier, then the message. -/
def readResponse (readResponseMessage : Reader α) (payload : Bytes) :
    Except Halt α :=
  (do let _correlationId ← readInt32
      readResponseMessage : Reader α) ⟨payload, false⟩ |>.map Prod.fst

structure ProduceResponsePartition where
  partition : Int := 0
  errorCode : Int := 0
  offset : Int := 0
  deriving DecidableEq, Repr

structure ProduceResponse where
  topics : List (Topic ProduceResponsePartition) := []
  deriving DecidableEq, Repr

def readProduceResponsePartition :
    Reader (ProduceResponsePartition × Int) := do
  let partition ← readInt32
  let errorCode ← readInt16
  let offset ← readInt64
  return ({ partition, errorCode, offset }, errorCode)

def readProduceResponse (payload : Bytes) :
    Except Halt (ProduceResponse × Int) :=
  (readResponse (readTopicArray readProduceResponsePartition {}) payload).map
    fun (topics, errorCode) => ({ topics }, errorCode)

def ProduceResponse.findTopicPartition
    (response : ProduceResponse)
    (topicName : Bytes)
    (partition : Int) : Option ProduceResponsePartition :=
  Wire.findTopicPartition ProduceResponsePartition.partition topicName
    partition response.topics

structure FetchResponsePartition where
  partition : Int := 0
  errorCode : Int := 0
  highwaterMarkOffset : Int := 0
  messages : MessageSet := []
  deriving DecidableEq, Repr

structure FetchResponse where
  topics : List (Topic FetchResponsePartition) := []
  deriving DecidableEq, Repr

/-- Read a partition of a fetch response with a given payload. -/
def readFetchResponsePartition (payload : Bytes) :
    Reader (FetchResponsePartition × Int) := do
  let partition ← readInt32
  let errorCode ← readInt16
  let highwaterMarkOffset ← readInt64
  if errorCode ≠ 0 then
    return ({ partition, errorCode, highwaterMarkOffset }, errorCode)
  else
    let messageSetSize ← readInt32
    -- The conversion of the size from `Int32` to `size_t`.
    let messages ← readMessageSet payload (messageSetSize % 2 ^ 64).toNat
    return ({ partition, errorCode, highwaterMarkOffset, messages }, 0)

def readFetchResponse (payload : Bytes) :
    Except Halt (FetchResponse × Int) :=
  (readResponse (readTopicArray (readFetchResponsePartition payload) {}) payload).map
    fun (topics, errorCode) => ({ topics }, errorCode)

/-- The messages the iterator of a fetch response passes through. -/
def FetchResponse.messages (response : FetchResponse) : MessageSet :=
  response.topics.flatMap fun topic =>
    topic.partitions.flatMap FetchResponsePartition.messages

@[simp] theorem FetchResponse.messages_single
    (topicName : Bytes)
    (entry : FetchResponsePartition) :
    FetchResponse.messages ⟨[⟨topicName, [entry]⟩]⟩ = entry.messages := by
  simp [FetchResponse.messages]

structure OffsetResponsePartition where
  partition : Int := 0
  errorCode : Int := 0
  offsets : List Int := []
  deriving DecidableEq, Repr

structure OffsetResponse where
  topics : List (Topic OffsetResponsePartition) := []
  deriving DecidableEq, Repr

/-- Read a counted run of entries. -/
def readMany (readOne : Reader α) : Nat → Reader (List α)
  | 0 => return []
  | count + 1 => do
      let value ← readOne
      let later ← readMany readOne count
      return value :: later

def readOffsetResponsePartition : Reader (OffsetResponsePartition × Int) := do
  let partition ← readInt32
  let errorCode ← readInt16
  if errorCode ≠ 0 then
    return ({ partition, errorCode }, errorCode)
  else
    let offsetsSize ← readInt32
    -- A negative count reads none.
    let offsets ← readMany readInt64 offsetsSize.toNat
    return ({ partition, errorCode, offsets }, 0)

def readOffsetResponse (payload : Bytes) :
    Except Halt (OffsetResponse × Int) :=
  (readResponse (readTopicArray readOffsetResponsePartition {}) payload).map
    fun (topics, errorCode) => ({ topics }, errorCode)

def OffsetResponse.topicPartitionOffset
    (response : OffsetResponse)
    (topicName : Bytes)
    (partition : Int) : Option OffsetResponsePartition :=
  findTopicPartition OffsetResponsePartition.partition topicName partition
    response.topics

theorem readMany_yields
    {readOne : Reader α}
    {property : α → Prop}
    (reads : readOne.Yields property)
    (count : Nat) :
    (readMany readOne count).Yields fun values =>
      ∀ value ∈ values, property value := by
  induction count with
  | zero => exact .pure (by simp)
  | succ count inductionHypothesis =>
      refine .bind reads fun first holds => ?_
      refine .bind inductionHypothesis fun later rest => .pure ?_
      intro value member
      rcases List.mem_cons.mp member with rfl | inLater
      · exact holds
      · exact rest value inLater

/-- Every offset of an offset response is a 64-bit integer. -/
theorem readOffsetResponse_range
    {payload : Bytes}
    {response : OffsetResponse}
    {errorCode : Int}
    (readOk : readOffsetResponse payload = .ok (response, errorCode)) :
    ∀ topic ∈ response.topics, ∀ entry ∈ topic.partitions,
      ∀ offset ∈ entry.offsets, -(2 ^ 63) ≤ offset ∧ offset < 2 ^ 63 := by
  have reads : readOffsetResponsePartition.Yields fun result =>
      ∀ offset ∈ result.1.offsets, -(2 ^ 63) ≤ offset ∧ offset < 2 ^ 63 := by
    refine .bind (.trivial _) fun partition _ => ?_
    refine .bind (.trivial _) fun code _ => .ite ?_ ?_
    · intro _
      exact .pure (by simp)
    · intro _
      refine .bind (.trivial _) fun size _ => ?_
      exact .bind (readMany_yields (readInt_yields (by decide)) _)
        fun offsets holds => .pure holds
  have array : (do
      let _correlationId ← readInt32
      readTopicArray readOffsetResponsePartition {} :
        Reader (List (Topic OffsetResponsePartition) × Int)).Yields
      fun result => ∀ topic ∈ result.1, ∀ entry ∈ topic.partitions,
        ∀ offset ∈ entry.offsets, -(2 ^ 63) ≤ offset ∧ offset < 2 ^ 63 := by
    refine .bind (.trivial _) fun _ _ => ?_
    exact .bind (.trivial _) fun count _ =>
      readTopics_yields reads (by simp) count
  unfold readOffsetResponse readResponse at readOk
  revert readOk
  cases inner : (do
      let _correlationId ← readInt32
      readTopicArray readOffsetResponsePartition {} :
        Reader (List (Topic OffsetResponsePartition) × Int))
      ⟨payload, false⟩ with
  | error halt =>
      intro readOk
      cases readOk
  | ok result =>
      intro readOk
      obtain ⟨rfl, -⟩ := Prod.mk.inj (Except.ok.inj readOk)
      exact array _ result.1 result.2 inner

/-- A broker as a metadata response names it. -/
structure MetadataBroker where
  nodeId : Int
  host : Bytes
  port : Int
  deriving DecidableEq, Repr

structure MetadataPartition where
  errorCode : Int
  partition : Int
  leader : Int
  replicas : List Int
  isr : List Int
  deriving DecidableEq, Repr

structure MetadataTopic where
  errorCode : Int
  topicName : Bytes
  partitions : List MetadataPartition
  deriving DecidableEq, Repr

structure MetadataResponse where
  brokers : List MetadataBroker := []
  topics : List MetadataTopic := []
  deriving DecidableEq, Repr

def metadataLeaderUndecided : Int := -1

def readMetadataBrokers : Nat → Reader (List MetadataBroker)
  | 0 => return []
  | count + 1 => do
      let nodeId ← readInt32
      let host ← readString
      let port ← readInt32
      let later ← readMetadataBrokers count
      return { nodeId, host, port } :: later

def readMetadataPartitions : Nat → Reader (List MetadataPartition)
  | 0 => return []
  | count + 1 => do
      let errorCode ← readInt16
      let partition ← readInt32
      let leader ← readInt32
      let replicasSize ← readInt32
      let replicas ← readMany readInt32 replicasSize.toNat
      let isrSize ← readInt32
      let isr ← readMany readInt32 isrSize.toNat
      let later ← readMetadataPartitions count
      return { errorCode, partition, leader, replicas, isr } :: later

def readMetadataTopics : Nat → Reader (List MetadataTopic)
  | 0 => return []
  | count + 1 => do
      let errorCode ← readInt16
      let topicName ← readString
      let partitionCount ← readArrayLength
      let partitions ← readMetadataPartitions partitionCount
      let later ← readMetadataTopics count
      return { errorCode, topicName, partitions } :: later

def readMetadataResponseMessage : Reader MetadataResponse := do
  let brokerCount ← readArrayLength
  let brokers ← readMetadataBrokers brokerCount
  let topicCount ← readArrayLength
  let topics ← readMetadataTopics topicCount
  return { brokers, topics }

/-- Read a metadata response.  Its error codes stay in the topics and
partitions; the reading itself reports none. -/
def readMetadataResponse (payload : Bytes) :
    Except Halt (MetadataResponse × Int) :=
  (readResponse readMetadataResponseMessage payload).map
    fun response => (response, 0)

/-- The broker a metadata response names as the leader of a partition. -/
def MetadataResponse.partitionLeader
    (response : MetadataResponse)
    (topicName : Bytes)
    (partition : Int) : Option MetadataBroker :=
  match response.topics.find? fun topic => topic.topicName == topicName with
  | none => none
  | some topic =>
      match topic.partitions.find? fun entry => entry.partition == partition with
      | none => none
      | some entry =>
          if entry.leader = metadataLeaderUndecided then none
          else response.brokers.find? fun broker =>
            broker.nodeId == entry.leader

end Wire
end AsyncKafka
