import AsyncKafka.Wire.Broker
import AsyncKafka.Wire.Codec

/-!
# Responses for many topics

What the client reads from the responses of a broker that answers for any
number of topics and partitions.  The reading of produce, fetch and offset
responses ends at the first partition with an error code: what stands before it
is read as it was sent, and what stands behind it is blank.  A metadata response
is read whole, whatever error codes it carries.
-/

namespace AsyncKafka
namespace Wire

open StreamReader

/-- The entries up to the first error code, blanks in place of the others, and
the code. -/
def cutEntries (code : π → Int) (blank : π) : List π → List π × Int
  | [] => ([], 0)
  | entry :: entries =>
      if code entry ≠ 0 then
        (entry :: List.replicate entries.length blank, code entry)
      else
        (entry :: (cutEntries code blank entries).1,
          (cutEntries code blank entries).2)

/-- The topics up to the first error code, blanks in place of the others, and
the code. -/
def cutTopics (code : π → Int) (blank : π) :
    List (Topic π) → List (Topic π) × Int
  | [] => ([], 0)
  | topic :: topics =>
      let kept : Topic π :=
        { topic with partitions := (cutEntries code blank topic.partitions).1 }
      if (cutEntries code blank topic.partitions).2 ≠ 0 then
        (kept :: List.replicate topics.length ⟨[], []⟩,
          (cutEntries code blank topic.partitions).2)
      else
        (kept :: (cutTopics code blank topics).1,
          (cutTopics code blank topics).2)

/-- How a reader deals with the block of a partition: it takes the block if the
partition has no error code, and otherwise it may leave a part of it. -/
structure ReadsEntry
    (readPartition : Reader (π × Int))
    (code : π → Int)
    (block : Bytes)
    (entry : π) : Prop where
  fine : code entry = 0 → readPartition.Takes block (entry, 0)
  erroneous : code entry ≠ 0 → readPartition.Begins block (entry, code entry)

section

variable {readPartition : Reader (π × Int)} {code : π → Int}
  {writeEntry : ρ → Bytes} {readEntry : ρ → π}

/-- Partitions are read up to the first error code. -/
theorem readPartitions_write
    {entries : List ρ}
    (blank : π)
    (reads : ∀ entry ∈ entries,
      ReadsEntry readPartition code (writeEntry entry) (readEntry entry)) :
    ((cutEntries code blank (entries.map readEntry)).2 = 0 →
      (readPartitions readPartition blank entries.length).Takes
        (entries.flatMap writeEntry)
        (cutEntries code blank (entries.map readEntry))) ∧
    (readPartitions readPartition blank entries.length).Begins
      (entries.flatMap writeEntry)
      (cutEntries code blank (entries.map readEntry)) := by
  induction entries with
  | nil => exact ⟨fun _ => .pure _, .pure _ _⟩
  | cons entry entries inductionHypothesis =>
      have first := reads entry List.mem_cons_self
      obtain ⟨later, begun⟩ := inductionHypothesis
        fun other member => reads other (List.mem_cons_of_mem _ member)
      rw [List.map_cons, List.length_cons, List.flatMap_cons, cutEntries,
        readPartitions]
      by_cases fine : code (readEntry entry) = 0
      · simp only [fine, ne_eq, not_true_eq_false, if_false]
        refine ⟨fun unbroken => ?_, ?_⟩
        · exact (first.fine fine).bind (later unbroken).bind_pure
        · exact .bind (first.fine fine) begun.bind_pure
      · simp only [fine, ne_eq, not_false_eq_true, if_true, List.length_map]
        refine ⟨fun unbroken => unbroken.elim, fun rest => ?_⟩
        obtain ⟨stream, read⟩ :=
          first.erroneous fine (entries.flatMap writeEntry ++ rest)
        refine ⟨stream, ?_⟩
        rw [List.append_assoc, bind_of_eq read, if_pos fine]
        rfl

/-- The topic that is read from a block. -/
def Topic.map (readEntry : ρ → π) (topic : Topic ρ) : Topic π :=
  ⟨topic.topicName, topic.partitions.map readEntry⟩

theorem Topic.map_id (topic : Topic π) : topic.map id = topic := by
  simp [Topic.map]

/-- Topics are read up to the first error code. -/
theorem readTopics_write
    {topics : List (Topic ρ)}
    (blank : π)
    (names : ∀ topic ∈ topics, topic.topicName.length < 2 ^ 15 ∧
      topic.partitions.length < 2 ^ 31)
    (reads : ∀ topic ∈ topics, ∀ entry ∈ topic.partitions,
      ReadsEntry readPartition code (writeEntry entry) (readEntry entry)) :
    (readTopics readPartition blank topics.length).Begins
      (topics.flatMap (writeTopic writeEntry))
      (cutTopics code blank (topics.map (Topic.map readEntry))) := by
  induction topics with
  | nil => exact .pure _ _
  | cons topic topics inductionHypothesis =>
      obtain ⟨nameShort, few⟩ := names topic List.mem_cons_self
      have later := inductionHypothesis
        (fun other member => names other (List.mem_cons_of_mem _ member))
        fun other member => reads other (List.mem_cons_of_mem _ member)
      obtain ⟨takes, begins⟩ := readPartitions_write blank
        (reads topic List.mem_cons_self)
      rw [List.map_cons, List.length_cons, List.flatMap_cons, cutTopics,
        readTopics, writeTopic, List.append_assoc, List.append_assoc]
      refine .bind (readString_takes nameShort)
        (.bind (readArrayLength_takes few) ?_)
      dsimp only [Topic.map]
      by_cases fine : (cutEntries code blank
          (topic.partitions.map readEntry)).2 = 0
      · refine .bind (takes fine) ?_
        simp only [fine, ne_eq, not_true_eq_false, if_false]
        exact later.bind_pure
      · intro rest
        obtain ⟨stream, read⟩ :=
          begins (topics.flatMap (writeTopic writeEntry) ++ rest)
        refine ⟨stream, ?_⟩
        simp only [List.append_assoc]
        rw [bind_of_eq read]
        simp only [fine, ne_eq, not_false_eq_true, if_true, List.length_map]
        rfl

theorem readTopicArray_write
    {topics : List (Topic ρ)}
    (blank : π)
    (few : topics.length < 2 ^ 31)
    (names : ∀ topic ∈ topics, topic.topicName.length < 2 ^ 15 ∧
      topic.partitions.length < 2 ^ 31)
    (reads : ∀ topic ∈ topics, ∀ entry ∈ topic.partitions,
      ReadsEntry readPartition code (writeEntry entry) (readEntry entry)) :
    (readTopicArray readPartition blank).Begins
      (writeTopicArray writeEntry topics)
      (cutTopics code blank (topics.map (Topic.map readEntry))) :=
  .bind (readArrayLength_takes few) (readTopics_write blank names reads)

end

end Wire

namespace Broker

open Wire StreamReader

/-- The block of a partition in a produce response. -/
def writeAcknowledgement (entry : ProduceResponsePartition) : Bytes :=
  writeInt32 entry.partition ++ (writeInt16 entry.errorCode ++
    writeInt64 entry.offset)

/-- A response to a produce request. -/
def produceResponses (topics : List (Topic ProduceResponsePartition)) : Bytes :=
  writeInt32 apiKeyProduceRequest ++ writeTopicArray writeAcknowledgement topics

/-- What a broker has for a partition that is fetched from: whole messages, each
with a value.  The sets that a broker cuts in their last message are not among
these, nor are messages without a value. -/
structure Fetched where
  partition : Int
  errorCode : Int := 0
  highwaterMarkOffset : Int
  messages : List LogMessage := []
  deriving DecidableEq, Repr

/-- The block of a partition in a fetch response. -/
def writeFetched (entry : Fetched) : Bytes :=
  writeInt32 entry.partition ++ (writeInt16 entry.errorCode ++
    (writeInt64 entry.highwaterMarkOffset ++
      (writeInt32 (messageSet entry.messages).length ++
        messageSet entry.messages)))

/-- A response to a fetch request. -/
def fetchResponses (topics : List (Topic Fetched)) : Bytes :=
  writeInt32 apiKeyFetchRequest ++ writeTopicArray writeFetched topics

/-- The client reads no messages of a partition with an error code. -/
def Fetched.received (entry : Fetched) : FetchResponsePartition :=
  { partition := entry.partition
    errorCode := entry.errorCode
    highwaterMarkOffset := entry.highwaterMarkOffset
    messages :=
      if entry.errorCode = 0 then entry.messages.map LogMessage.decoded else [] }

/-- The block of a partition in an offset response. -/
def writeOffsets (entry : OffsetResponsePartition) : Bytes :=
  writeInt32 entry.partition ++ (writeInt16 entry.errorCode ++
    (writeInt32 entry.offsets.length ++ entry.offsets.flatMap writeInt64))

/-- A response to an offset request. -/
def offsetResponses (topics : List (Topic OffsetResponsePartition)) : Bytes :=
  writeInt32 apiKeyOffsetRequest ++ writeTopicArray writeOffsets topics

/-- The client reads no offsets of a partition with an error code. -/
def receivedOffsets (entry : OffsetResponsePartition) : OffsetResponsePartition :=
  if entry.errorCode = 0 then entry else { entry with offsets := [] }

/-- An array of topics that a response can carry. -/
structure Sendable (entryFits : π → Prop) (topics : List (Topic π)) : Prop where
  few : topics.length < 2 ^ 31
  names : ∀ topic ∈ topics, topic.topicName.length < 2 ^ 15 ∧
    topic.partitions.length < 2 ^ 31
  entries : ∀ topic ∈ topics, ∀ entry ∈ topic.partitions, entryFits entry

structure AcknowledgementFits (entry : ProduceResponsePartition) : Prop where
  partition : Fits 4 entry.partition
  errorCode : Fits 2 entry.errorCode
  offset : Fits 8 entry.offset

structure FetchedFits (entry : Fetched) : Prop where
  partition : Fits 4 entry.partition
  errorCode : Fits 2 entry.errorCode
  highwaterMarkOffset : Fits 8 entry.highwaterMarkOffset
  messages : ∀ message ∈ entry.messages, message.Valid
  short : (messageSet entry.messages).length < 2 ^ 31

structure OffsetsFit (entry : OffsetResponsePartition) : Prop where
  partition : Fits 4 entry.partition
  errorCode : Fits 2 entry.errorCode
  offsets : ∀ offset ∈ entry.offsets, Fits 8 offset
  few : entry.offsets.length < 2 ^ 31

theorem readsEntry_acknowledgement
    {entry : ProduceResponsePartition}
    (fits : AcknowledgementFits entry) :
    ReadsEntry readProduceResponsePartition ProduceResponsePartition.errorCode
      (writeAcknowledgement entry) (id entry) := by
  have takes : readProduceResponsePartition.Takes (writeAcknowledgement entry)
      (entry, entry.errorCode) :=
    (readInt32_takes fits.partition).bind
      ((readInt16_takes fits.errorCode).bind
        (readInt64_takes fits.offset).bind_pure)
  refine ⟨fun fine => ?_, fun _ => takes.begins⟩
  have noError : entry.errorCode = 0 := fine
  rwa [noError] at takes

/-- A message set is taken whole. -/
theorem readMessageSet_takes
    (buffer : Bytes)
    {messages : List LogMessage}
    (valid : ∀ message ∈ messages, message.Valid)
    (short : (messageSet messages).length < 2 ^ 31) :
    (readMessageSet buffer (messageSet messages).length).Takes
      (messageSet messages)
      (messages.map LogMessage.decoded) := by
  intro rest
  have count := length_le_length_messageSet messages
  obtain ⟨fuel, enough⟩ : ∃ fuel,
      (messageSet messages ++ rest).length + (messageSet messages).length + 2 =
        fuel + 1 + messages.length :=
    ⟨(messageSet messages ++ rest).length + (messageSet messages).length + 1 -
      messages.length, by omega⟩
  have done := readMessageSetLoop_done buffer
    (le_refl (messageSet messages).length) fuel ⟨rest, false⟩
  have atEnd : readMessageSetLoop buffer (messageSet messages).length
      (fuel + 1)
      (0 + (messageSet messages).length) ⟨rest, false⟩ = .ok ([], ⟨rest, false⟩) := by
    rw [Nat.zero_add]
    exact done
  have read := readMessageSetLoop_messageSet valid
    (show 0 + (messageSet messages).length ≤ (messageSet messages).length by
      omega) short atEnd
  rw [← enough, List.append_nil] at read
  exact read

theorem readsEntry_fetched
    (payload : Bytes)
    {entry : Fetched}
    (fits : FetchedFits entry) :
    ReadsEntry (readFetchResponsePartition payload)
      FetchResponsePartition.errorCode (writeFetched entry) entry.received := by
  have size : (((messageSet entry.messages).length : Int) % 2 ^ 64).toNat =
      (messageSet entry.messages).length := by
    have short := fits.short
    omega
  refine ⟨fun fine => ?_, fun erroneous => ?_⟩
  · have noError : entry.errorCode = 0 := fine
    refine (readInt32_takes fits.partition).bind
      ((readInt16_takes fits.errorCode).bind
        ((readInt64_takes fits.highwaterMarkOffset).bind ?_))
    simp only [noError, ne_eq, not_true_eq_false, if_false, Fetched.received,
      if_true]
    refine (readInt32_takes (fits_length fits.short)).bind ?_
    rw [size]
    exact (readMessageSet_takes payload fits.messages fits.short).bind_pure
  · have isError : entry.errorCode ≠ 0 := erroneous
    refine .bind (readInt32_takes fits.partition)
      (.bind (readInt16_takes fits.errorCode)
        (.bind (readInt64_takes fits.highwaterMarkOffset) ?_))
    simp only [isError, ne_eq, not_false_eq_true, if_true, Fetched.received,
      if_false]
    exact .pure _ _

theorem readsEntry_offsets
    {entry : OffsetResponsePartition}
    (fits : OffsetsFit entry) :
    ReadsEntry readOffsetResponsePartition OffsetResponsePartition.errorCode
      (writeOffsets entry) (receivedOffsets entry) := by
  have code : (receivedOffsets entry).errorCode = entry.errorCode := by
    unfold receivedOffsets
    split <;> rfl
  refine ⟨fun fine => ?_, fun erroneous => ?_⟩
  · have noError : entry.errorCode = 0 := code.symm.trans fine
    have offsets := readMany_takes id
      fun offset (member : offset ∈ entry.offsets) =>
        readInt64_takes (fits.offsets offset member)
    rw [List.map_id] at offsets
    refine (readInt32_takes fits.partition).bind
      ((readInt16_takes fits.errorCode).bind ?_)
    rw [if_neg (by simp [noError]), receivedOffsets, if_pos noError]
    refine (readInt32_takes (fits_length fits.few)).bind ?_
    rw [Int.toNat_natCast]
    exact offsets.bind_pure
  · rw [code] at erroneous ⊢
    refine .bind (readInt32_takes fits.partition)
      (.bind (readInt16_takes fits.errorCode) ?_)
    rw [if_pos erroneous, receivedOffsets, if_neg erroneous]
    exact .pure _ _

/-- A response is its correlation identifier and its message. -/
theorem readResponse_begins
    {readResponseMessage : Reader α}
    {identifier : Int}
    {block : Bytes}
    {value : α}
    (fits : Fits 4 identifier)
    (begins : readResponseMessage.Begins block value) :
    readResponse readResponseMessage (writeInt32 identifier ++ block) =
      .ok value := by
  obtain ⟨stream, read⟩ := begins []
  rw [List.append_nil] at read
  rw [readResponse, bind_of_eq (readInt32_takes fits block), read]
  rfl

theorem readProduceResponse_produceResponses
    {topics : List (Topic ProduceResponsePartition)}
    (sendable : Sendable AcknowledgementFits topics) :
    readProduceResponse (produceResponses topics) =
      .ok ((cutTopics ProduceResponsePartition.errorCode {} topics).map
        ProduceResponse.mk id) := by
  have read := readTopicArray_write ({} : ProduceResponsePartition)
    sendable.few sendable.names
    fun topic member entry inside => readsEntry_acknowledgement
      (sendable.entries topic member entry inside)
  rw [List.map_congr_left fun topic _ => Topic.map_id topic, List.map_id']
    at read
  rw [readProduceResponse, produceResponses,
    readResponse_begins (by decide) read]
  rfl

theorem readFetchResponse_fetchResponses
    {topics : List (Topic Fetched)}
    (sendable : Sendable FetchedFits topics) :
    readFetchResponse (fetchResponses topics) =
      .ok ((cutTopics FetchResponsePartition.errorCode {}
        (topics.map (Topic.map Fetched.received))).map
          FetchResponse.mk id) := by
  have read := readTopicArray_write ({} : FetchResponsePartition)
    sendable.few sendable.names
    fun topic member entry inside => readsEntry_fetched (fetchResponses topics)
      (sendable.entries topic member entry inside)
  unfold fetchResponses at read ⊢
  rw [readFetchResponse, readResponse_begins (by decide) read]
  rfl

theorem readOffsetResponse_offsetResponses
    {topics : List (Topic OffsetResponsePartition)}
    (sendable : Sendable OffsetsFit topics) :
    readOffsetResponse (offsetResponses topics) =
      .ok ((cutTopics OffsetResponsePartition.errorCode {}
        (topics.map (Topic.map receivedOffsets))).map
          OffsetResponse.mk id) := by
  have read := readTopicArray_write ({} : OffsetResponsePartition)
    sendable.few sendable.names
    fun topic member entry inside => readsEntry_offsets
      (sendable.entries topic member entry inside)
  rw [readOffsetResponse, offsetResponses, readResponse_begins (by decide) read]
  rfl

/-- Whatever topics and partitions a broker answers for, the client reads each
of the three responses up to the first error code. -/
theorem readResponses_upToError
    {produced : List (Topic ProduceResponsePartition)}
    {fetched : List (Topic Fetched)}
    {offered : List (Topic OffsetResponsePartition)}
    (producedSendable : Sendable AcknowledgementFits produced)
    (fetchedSendable : Sendable FetchedFits fetched)
    (offeredSendable : Sendable OffsetsFit offered) :
    readProduceResponse (produceResponses produced) =
        .ok ((cutTopics ProduceResponsePartition.errorCode {} produced).map
          ProduceResponse.mk id) ∧
      readFetchResponse (fetchResponses fetched) =
        .ok ((cutTopics FetchResponsePartition.errorCode {}
          (fetched.map (Topic.map Fetched.received))).map
            FetchResponse.mk id) ∧
      readOffsetResponse (offsetResponses offered) =
        .ok ((cutTopics OffsetResponsePartition.errorCode {}
          (offered.map (Topic.map receivedOffsets))).map
            OffsetResponse.mk id) :=
  ⟨readProduceResponse_produceResponses producedSendable,
    readFetchResponse_fetchResponses fetchedSendable,
    readOffsetResponse_offsetResponses offeredSendable⟩

/-- Answers for two topics.  The second partition of the first topic has an error
code, so neither its messages nor the second topic are read. -/
def sampleFetched : List (Topic Fetched) :=
  [⟨[116], [
      { partition := 0, highwaterMarkOffset := 9
        messages := [{ offset := 7, value := [104] }] },
      { partition := 1, errorCode := 6, highwaterMarkOffset := -1
        messages := [{ offset := 8, value := [105] }] },
      { partition := 2, highwaterMarkOffset := 0 }]⟩,
    ⟨[117], [{ partition := 3, highwaterMarkOffset := 5 }]⟩]

instance (entry : Fetched) : Decidable (FetchedFits entry) :=
  decidable_of_iff
    (Fits 4 entry.partition ∧ Fits 2 entry.errorCode ∧
      Fits 8 entry.highwaterMarkOffset ∧
      (entry.messages.all fun message => decide message.Valid) = true ∧
      (messageSet entry.messages).length < 2 ^ 31)
    ⟨fun ⟨partition, errorCode, mark, valid, short⟩ =>
        ⟨partition, errorCode, mark, by simpa using valid, short⟩,
      fun ⟨partition, errorCode, mark, valid, short⟩ =>
        ⟨partition, errorCode, mark, by simpa using valid, short⟩⟩

theorem sampleFetched_sendable : Sendable FetchedFits sampleFetched := by
  refine ⟨by decide, ?_, ?_⟩
  · intro topic member
    simp only [sampleFetched, List.mem_cons, List.not_mem_nil, or_false]
      at member
    rcases member with rfl | rfl <;> exact ⟨by decide, by decide⟩
  · intro topic member entry inside
    simp only [sampleFetched, List.mem_cons, List.not_mem_nil, or_false]
      at member
    rcases member with rfl | rfl
    · simp only [List.mem_cons, List.not_mem_nil, or_false] at inside
      rcases inside with rfl | rfl | rfl <;> decide
    · obtain rfl := List.mem_singleton.mp inside
      decide

/-- The message before the error is read, and blanks stand behind it. -/
theorem readResponses_upToError_sample :
    readFetchResponse (fetchResponses sampleFetched) =
      .ok (⟨[⟨[116], [
          { partition := 0, highwaterMarkOffset := 9
            messages := [{ offset := 7, value := some [104] }] },
          { partition := 1, errorCode := 6, highwaterMarkOffset := -1 }, {}]⟩,
        ⟨[], []⟩]⟩, 6) := by
  have nothing : Sendable AcknowledgementFits [] :=
    ⟨by decide, by simp, by simp⟩
  have noOffsets : Sendable OffsetsFit [] := ⟨by decide, by simp, by simp⟩
  exact (readResponses_upToError nothing sampleFetched_sendable noOffsets).2.1

/-! ## Metadata responses -/

def writeMetadataBroker (broker : MetadataBroker) : Bytes :=
  writeInt32 broker.nodeId ++ (writeString broker.host ++ writeInt32 broker.port)

def writeMetadataPartition (entry : MetadataPartition) : Bytes :=
  writeInt16 entry.errorCode ++ (writeInt32 entry.partition ++
    (writeInt32 entry.leader ++
      (writeInt32 entry.replicas.length ++
        (entry.replicas.flatMap writeInt32 ++
          (writeInt32 entry.isr.length ++ entry.isr.flatMap writeInt32)))))

def writeMetadataTopic (topic : MetadataTopic) : Bytes :=
  writeInt16 topic.errorCode ++ (writeString topic.topicName ++
    (writeInt32 topic.partitions.length ++
      topic.partitions.flatMap writeMetadataPartition))

/-- A response to a metadata request. -/
def metadataResponse (response : MetadataResponse) : Bytes :=
  writeInt32 apiKeyMetadataRequest ++ (writeInt32 response.brokers.length ++
    (response.brokers.flatMap writeMetadataBroker ++
      (writeInt32 response.topics.length ++
        response.topics.flatMap writeMetadataTopic)))

structure MetadataBrokerFits (broker : MetadataBroker) : Prop where
  nodeId : Fits 4 broker.nodeId
  host : broker.host.length < 2 ^ 15
  port : Fits 4 broker.port

structure MetadataPartitionFits (entry : MetadataPartition) : Prop where
  errorCode : Fits 2 entry.errorCode
  partition : Fits 4 entry.partition
  leader : Fits 4 entry.leader
  fewReplicas : entry.replicas.length < 2 ^ 31
  replicas : ∀ replica ∈ entry.replicas, Fits 4 replica
  fewIsr : entry.isr.length < 2 ^ 31
  isr : ∀ replica ∈ entry.isr, Fits 4 replica

structure MetadataTopicFits (topic : MetadataTopic) : Prop where
  errorCode : Fits 2 topic.errorCode
  topicName : topic.topicName.length < 2 ^ 15
  fewPartitions : topic.partitions.length < 2 ^ 31
  partitions : ∀ entry ∈ topic.partitions, MetadataPartitionFits entry

structure MetadataFits (response : MetadataResponse) : Prop where
  fewBrokers : response.brokers.length < 2 ^ 31
  brokers : ∀ broker ∈ response.brokers, MetadataBrokerFits broker
  fewTopics : response.topics.length < 2 ^ 31
  topics : ∀ topic ∈ response.topics, MetadataTopicFits topic

theorem readMetadataBrokers_takes
    {brokers : List MetadataBroker}
    (fits : ∀ broker ∈ brokers, MetadataBrokerFits broker) :
    (readMetadataBrokers brokers.length).Takes
      (brokers.flatMap writeMetadataBroker) brokers := by
  induction brokers with
  | nil => exact .pure []
  | cons broker brokers inductionHypothesis =>
      have first := fits broker List.mem_cons_self
      have later := inductionHypothesis
        fun other member => fits other (List.mem_cons_of_mem _ member)
      rw [List.length_cons, List.flatMap_cons, readMetadataBrokers,
        writeMetadataBroker, List.append_assoc, List.append_assoc]
      exact (readInt32_takes first.nodeId).bind
        ((readString_takes first.host).bind
          ((readInt32_takes first.port).bind later.bind_pure))

/-- A counted run of node identifiers. -/
theorem readMany_readInt32_takes
    {nodes : List Int}
    (fits : ∀ node ∈ nodes, Fits 4 node) :
    (readMany readInt32 (nodes.length : Int).toNat).Takes
      (nodes.flatMap writeInt32) nodes := by
  have takes := readMany_takes id
    fun node (member : node ∈ nodes) => readInt32_takes (fits node member)
  rwa [List.map_id] at takes

theorem readMetadataPartitions_takes
    {entries : List MetadataPartition}
    (fits : ∀ entry ∈ entries, MetadataPartitionFits entry) :
    (readMetadataPartitions entries.length).Takes
      (entries.flatMap writeMetadataPartition) entries := by
  induction entries with
  | nil => exact .pure []
  | cons entry entries inductionHypothesis =>
      have first := fits entry List.mem_cons_self
      have later := inductionHypothesis
        fun other member => fits other (List.mem_cons_of_mem _ member)
      rw [List.length_cons, List.flatMap_cons, readMetadataPartitions,
        writeMetadataPartition]
      simp only [List.append_assoc]
      exact (readInt16_takes first.errorCode).bind
        ((readInt32_takes first.partition).bind
          ((readInt32_takes first.leader).bind
            ((readInt32_takes (fits_length first.fewReplicas)).bind
              ((readMany_readInt32_takes first.replicas).bind
                ((readInt32_takes (fits_length first.fewIsr)).bind
                  ((readMany_readInt32_takes first.isr).bind
                    later.bind_pure))))))

theorem readMetadataTopics_takes
    {topics : List MetadataTopic}
    (fits : ∀ topic ∈ topics, MetadataTopicFits topic) :
    (readMetadataTopics topics.length).Takes
      (topics.flatMap writeMetadataTopic) topics := by
  induction topics with
  | nil => exact .pure []
  | cons topic topics inductionHypothesis =>
      have first := fits topic List.mem_cons_self
      have later := inductionHypothesis
        fun other member => fits other (List.mem_cons_of_mem _ member)
      rw [List.length_cons, List.flatMap_cons, readMetadataTopics,
        writeMetadataTopic]
      simp only [List.append_assoc]
      exact (readInt16_takes first.errorCode).bind
        ((readString_takes first.topicName).bind
          ((readArrayLength_takes first.fewPartitions).bind
            ((readMetadataPartitions_takes first.partitions).bind
              later.bind_pure)))

theorem readMetadataResponseMessage_takes
    {response : MetadataResponse}
    (fits : MetadataFits response) :
    readMetadataResponseMessage.Takes
      (writeInt32 response.brokers.length ++
        (response.brokers.flatMap writeMetadataBroker ++
          (writeInt32 response.topics.length ++
            response.topics.flatMap writeMetadataTopic))) response :=
  (readArrayLength_takes fits.fewBrokers).bind
    ((readMetadataBrokers_takes fits.brokers).bind
      ((readArrayLength_takes fits.fewTopics).bind
        (readMetadataTopics_takes fits.topics).bind_pure))

/-- A metadata response is read as it was sent, whatever error codes its topics
and partitions carry, and the reading itself reports none. -/
theorem readMetadataResponse_sent
    {response : MetadataResponse}
    (fits : MetadataFits response) :
    readMetadataResponse (metadataResponse response) = .ok (response, 0) := by
  rw [readMetadataResponse, metadataResponse,
    readResponse_begins (by decide)
      (readMetadataResponseMessage_takes fits).begins]
  rfl

/-- A broker, a topic with an undecided leader and a topic with an error. -/
def sampleMetadata : MetadataResponse :=
  { brokers := [{ nodeId := 4, host := [98], port := 9092 }]
    topics := [
      { errorCode := 0, topicName := [116], partitions := [
        { errorCode := 5, partition := 0, leader := -1, replicas := [4, 5]
          isr := [] }] },
      { errorCode := 3, topicName := [], partitions := [] }] }

theorem readMetadataResponse_sent_sample :
    readMetadataResponse (metadataResponse sampleMetadata) =
      .ok (sampleMetadata, 0) := by
  apply readMetadataResponse_sent
  refine ⟨by decide, ?_, by decide, ?_⟩
  · intro broker member
    obtain rfl := List.mem_singleton.mp member
    exact ⟨by decide, by decide, by decide⟩
  · intro topic member
    simp only [sampleMetadata, List.mem_cons, List.not_mem_nil, or_false]
      at member
    rcases member with rfl | rfl
    · refine ⟨by decide, by decide, by decide, fun entry inside => ?_⟩
      obtain rfl := List.mem_singleton.mp inside
      exact ⟨by decide, by decide, by decide, by decide, by decide, by decide,
        by decide⟩
    · exact ⟨by decide, by decide, by decide,
        fun entry inside => absurd inside List.not_mem_nil⟩

end Broker
end AsyncKafka
