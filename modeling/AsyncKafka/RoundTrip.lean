import AsyncKafka.Partition.Batches
import AsyncKafka.Partition.Start
import AsyncKafka.Wire.Broker

/-!
# From producer to consumer

A broker takes the produce frames apart, appends their messages to its log with
consecutive offsets and sends them to a consumer.  The batching loop, the
encoder, the decoder and the offset filter together give back every message
but the empty ones: an empty value is written with length zero, and a length
that is not positive is read as no value at all.
-/

namespace AsyncKafka

open Wire ByteOrder

namespace Broker

/-- Read the message set that a produce request has for a partition. -/
def readProducedSet : Reader Bytes := do
  let _partition ← readInt32
  let size ← readInt32
  StreamReader.block size.toNat

/-- Read the message sets that a produce request has for a topic. -/
def readProducedTopic : Reader (List Bytes) := do
  let _topicName ← readString
  let count ← readInt32
  readMany readProducedSet count.toNat

/-- Read the message sets of a produce frame. -/
def readProduceFrame : Reader (List Bytes) := do
  let _size ← readInt32
  let _apiKey ← readInt16
  let _apiVersion ← readInt16
  let _correlationId ← readInt32
  let _clientId ← readString
  let _requiredAcks ← readInt16
  let _timeout ← readInt32
  let count ← readInt32
  let topics ← readMany readProducedTopic count.toNat
  return topics.flatten

/-- Cut a message set into its messages, without offset and size.  The first
argument bounds the number of messages. -/
def splitMessages : Nat → Bytes → List Bytes
  | 0, _ => []
  | count + 1, set =>
      if set.length < 12 then []
      else
        let size := (readSigned ((set.drop 8).take 4)).toNat
        (set.drop 12).take size :: splitMessages count (set.drop (12 + size))

/-- The messages that a broker takes from a produce frame. -/
def frameMessages (frame : Bytes) : List Bytes :=
  match readProduceFrame ⟨frame, false⟩ with
  | .error _ => []
  | .ok (sets, _) => sets.flatMap fun set => splitMessages set.length set

/-- The messages that a broker takes from produce frames, in frame order. -/
def producedMessages (frames : List Bytes) : List Bytes :=
  frames.flatMap frameMessages

/-- The message set with consecutive offsets that a broker returns. -/
def numberMessages : Int → List Bytes → Bytes
  | _, [] => []
  | offset, message :: messages =>
      writeInt64 offset ++ writeInt32 message.length ++ message ++
        numberMessages (offset + 1) messages

/-- A value as it travels in a message set, without offset and size. -/
def plainBody (crc32 : Bytes → UInt32) (value : Bytes) : Bytes :=
  writeMessage crc32 (ProduceRequest.plainMessage value).toMessage

/-- The size of a message set with some values. -/
def plainSize (values : List Bytes) : Nat :=
  messageSetWireSize (values.map ProduceRequest.plainMessage)

theorem plainSize_cons (value : Bytes) (values : List Bytes) :
    plainSize (value :: values) = 26 + value.length + plainSize values := by
  simp [plainSize, messageSetWireSize, messageWireSize, bytesWireSize,
    ProduceRequest.plainMessage]
  omega

theorem length_plainBody (crc32 : Bytes → UInt32) (value : Bytes) :
    (plainBody crc32 value).length = 14 + value.length := by
  simp [plainBody, messageWireSize, bytesWireSize, ProduceRequest.plainMessage]
  omega

/-- A message set is cut into the messages it was made of. -/
theorem splitMessages_writeMessageSet
    {crc32 : Bytes → UInt32}
    {values : List Bytes}
    (short : plainSize values < 2 ^ 31)
    {count : Nat}
    (enough : values.length ≤ count) :
    splitMessages count
        (writeMessageSet crc32 (values.map ProduceRequest.plainMessage)) =
      values.map (plainBody crc32) := by
  induction values generalizing count with
  | nil => cases count <;> rfl
  | cons value values inductionHypothesis =>
      obtain ⟨count, rfl⟩ : ∃ fewer, count = fewer + 1 :=
        ⟨count - 1, by rw [List.length_cons] at enough; omega⟩
      rw [plainSize_cons] at short
      have later := inductionHypothesis (by omega)
        (Nat.le_of_succ_le_succ enough)
      have shape : writeMessageSet crc32
          ((value :: values).map ProduceRequest.plainMessage) =
          writeInt64 0 ++ (writeInt32 (plainBody crc32 value).length ++
            (plainBody crc32 value ++ writeMessageSet crc32
              (values.map ProduceRequest.plainMessage))) := by
        simp [writeMessageSet, plainBody, ProduceRequest.plainMessage]
      have bodyLength := length_plainBody crc32 value
      generalize writeMessageSet crc32
        (values.map ProduceRequest.plainMessage) = rest at later shape
      have behind : (writeInt64 0 ++ (writeInt32 (plainBody crc32 value).length ++
          (plainBody crc32 value ++ rest))).drop 12 =
            plainBody crc32 value ++ rest := by
        rw [← List.append_assoc, List.drop_left' (by simp)]
      have size : readSigned (((writeInt64 0 ++
          (writeInt32 (plainBody crc32 value).length ++
            (plainBody crc32 value ++ rest))).drop 8).take 4) =
              (plainBody crc32 value).length := by
        rw [List.drop_left' (length_writeInt64 0),
          List.take_left' (length_writeInt32 _)]
        exact readSigned_writeSigned (by decide) (by omega) (by omega)
      have long : ¬ (writeInt64 0 ++ (writeInt32 (plainBody crc32 value).length ++
          (plainBody crc32 value ++ rest))).length < 12 := by
        simp
        omega
      rw [shape, splitMessages, if_neg long, size, Int.toNat_natCast]
      dsimp only
      rw [← List.drop_drop, behind, List.take_left, List.drop_left, later,
        List.map_cons]

/-- The broker reads the set of a partition. -/
theorem readProducedSet_append
    {set : Bytes}
    (short : set.length < 2 ^ 31)
    (partition : Int) :
    readProducedSet ⟨writeInt32 partition ++ (writeInt32 set.length ++ set),
      false⟩ = .ok (set, ⟨[], false⟩) := by
  have whole := block_append (rfl : set.length = set.length) []
  rw [List.append_nil] at whole
  unfold readProducedSet
  rw [readInt32, StreamReader.bind_of_eq (readInt_append (length_writeInt32 _) _),
    ← readInt32, StreamReader.bind_of_eq
      (readInt32_writeInt32 (by omega) (by omega) set), Int.toNat_natCast]
  exact whole

/-- The broker reads past the header of a produce frame. -/
theorem readProduceFrame_header
    {clientId : Bytes}
    (clientShort : clientId.length < 2 ^ 15)
    (size correlationId requiredAcks timeout : Int)
    (body : Bytes) :
    readProduceFrame ⟨writeInt32 size ++ (writeInt16 apiKeyProduceRequest ++
        (writeInt16 0 ++ (writeInt32 correlationId ++ (writeString clientId ++
          (writeInt16 requiredAcks ++ (writeInt32 timeout ++ body)))))),
        false⟩ =
      (do let count ← readInt32
          let topics ← readMany readProducedTopic count.toNat
          return topics.flatten : Reader (List Bytes)) ⟨body, false⟩ := by
  unfold readProduceFrame
  rw [readInt32, readInt16,
    StreamReader.bind_of_eq (readInt_append (length_writeInt32 size) _),
    StreamReader.bind_of_eq (readInt_append (length_writeInt16 _) _),
    StreamReader.bind_of_eq (readInt_append (length_writeInt16 _) _),
    StreamReader.bind_of_eq (readInt_append (length_writeInt32 _) _),
    StreamReader.bind_of_eq (readString_writeString clientShort _),
    StreamReader.bind_of_eq (readInt_append (length_writeInt16 _) _),
    StreamReader.bind_of_eq (readInt_append (length_writeInt32 _) _)]

/-- The broker finds the message set of a chunk in its frame, and nothing in
the frame of an empty request. -/
theorem readProduceFrame_write
    {topic clientId : Bytes}
    {chunk : List Bytes}
    (topicShort : topic.length < 2 ^ 15)
    (clientShort : clientId.length < 2 ^ 15)
    (short : plainSize chunk < 2 ^ 31)
    (crc32 : Bytes → UInt32)
    (request : ProduceRequest)
    (partition : Int) :
    readProduceFrame
        ⟨(request.withChunk topic partition chunk).write crc32 clientId, false⟩ =
      .ok (if chunk = [] then []
        else [writeMessageSet crc32 (chunk.map ProduceRequest.plainMessage)],
        ⟨[], false⟩) := by
  have one (rest : Bytes) : readInt32 ⟨writeInt32 1 ++ rest, false⟩ =
      .ok (1, ⟨rest, false⟩) :=
    readInt32_writeInt32 (by decide) (by decide) rest
  by_cases empty : chunk = []
  · subst empty
    have shape : (request.withChunk topic partition []).write crc32 clientId =
        writeInt32 (requestWireSize clientId 10) ++
          (writeInt16 apiKeyProduceRequest ++ (writeInt16 0 ++
            (writeInt32 request.correlationId ++ (writeString clientId ++
              (writeInt16 request.requiredAcks ++
                (writeInt32 request.timeout ++ writeInt32 0)))))) := by
      simp [ProduceRequest.write, writeRequest, ProduceRequest.withChunk,
        ProduceRequest.chunkTopics, ProduceRequest.writeRequestMessage,
        ProduceRequest.requestMessageWireSize]
    have zero := readInt32_writeInt32 (show -(2 ^ 31) ≤ (0 : Int) by decide)
      (by decide) []
    rw [List.append_nil] at zero
    rw [shape, readProduceFrame_header clientShort,
      StreamReader.bind_of_eq zero, if_pos rfl]
    rfl
  · let set := writeMessageSet crc32 (chunk.map ProduceRequest.plainMessage)
    have setLength : set.length = plainSize chunk := length_writeMessageSet _ _
    have shape : (request.withChunk topic partition chunk).write crc32
        clientId =
        writeInt32 (requestWireSize clientId (ProduceRequest.requestMessageWireSize
          (request.withChunk topic partition chunk))) ++
          (writeInt16 apiKeyProduceRequest ++ (writeInt16 0 ++
            (writeInt32 request.correlationId ++ (writeString clientId ++
              (writeInt16 request.requiredAcks ++ (writeInt32 request.timeout ++
                (writeInt32 1 ++ (writeString topic ++ (writeInt32 1 ++
                  (writeInt32 partition ++
                    (writeInt32 set.length ++ set))))))))))) := by
      rw [setLength]
      simp [ProduceRequest.write, writeRequest, ProduceRequest.withChunk,
        ProduceRequest.chunkTopics, ProduceRequest.writeRequestMessage, empty,
        set, plainSize]
    have topicRead : readProducedTopic ⟨writeString topic ++ (writeInt32 1 ++
        (writeInt32 partition ++ (writeInt32 set.length ++ set))), false⟩ =
        .ok ([set], ⟨[], false⟩) := by
      unfold readProducedTopic
      rw [StreamReader.bind_of_eq (readString_writeString topicShort _),
        StreamReader.bind_of_eq (one _), Int.toNat_one, readMany,
        StreamReader.bind_of_eq
          (readProducedSet_append (by omega) partition)]
      rfl
    rw [shape, readProduceFrame_header clientShort,
      StreamReader.bind_of_eq (one _), Int.toNat_one, readMany,
      bind_assoc, StreamReader.bind_of_eq topicRead, if_neg empty]
    rfl

theorem plainSize_append (first second : List Bytes) :
    plainSize (first ++ second) = plainSize first + plainSize second := by
  simp [plainSize, messageSetWireSize]

/-- No message of a set is smaller than a byte. -/
theorem length_le_plainSize (values : List Bytes) :
    values.length ≤ plainSize values := by
  induction values with
  | nil => exact Nat.zero_le _
  | cons value values inductionHypothesis =>
      rw [plainSize_cons, List.length_cons]
      omega

/-- The frame of a chunk carries its messages. -/
theorem frameMessages_write
    {topic clientId : Bytes}
    {chunk : List Bytes}
    (topicShort : topic.length < 2 ^ 15)
    (clientShort : clientId.length < 2 ^ 15)
    (short : plainSize chunk < 2 ^ 31)
    (crc32 : Bytes → UInt32)
    (request : ProduceRequest)
    (partition : Int) :
    frameMessages
        ((request.withChunk topic partition chunk).write crc32 clientId) =
      chunk.map (plainBody crc32) := by
  rw [frameMessages, readProduceFrame_write topicShort clientShort short]
  by_cases empty : chunk = []
  · subst empty
    rfl
  · have enough : chunk.length ≤ (writeMessageSet crc32
        (chunk.map ProduceRequest.plainMessage)).length := by
      rw [length_writeMessageSet]
      exact length_le_plainSize chunk
    simp only [if_neg empty, List.flatMap_singleton]
    exact splitMessages_writeMessageSet short enough

/-- The frames of chunks carry the messages of all chunks in their order. -/
theorem producedMessages_chunks
    {topic clientId : Bytes}
    {chunks : List (List Bytes)}
    (topicShort : topic.length < 2 ^ 15)
    (clientShort : clientId.length < 2 ^ 15)
    (short : plainSize chunks.flatten < 2 ^ 31)
    (crc32 : Bytes → UInt32)
    (request : ProduceRequest)
    (partition : Int) :
    producedMessages (chunks.map fun chunk =>
        (request.withChunk topic partition chunk).write crc32 clientId) =
      chunks.flatten.map (plainBody crc32) := by
  induction chunks with
  | nil => rfl
  | cons chunk chunks inductionHypothesis =>
      rw [List.flatten_cons, plainSize_append] at short
      have first := frameMessages_write topicShort clientShort
        (show plainSize chunk < 2 ^ 31 by omega) crc32 request partition
      have later := inductionHypothesis (by omega)
      unfold producedMessages at later ⊢
      rw [List.map_cons, List.flatMap_cons, first, later, List.flatten_cons,
        List.map_append]

/-! ## What the broker sends -/

/-- Values as messages of a log, with consecutive offsets. -/
def loggedFrom
    (crc32 : Bytes → UInt32) : Int → List Bytes → List LogMessage
  | _, [] => []
  | offset, value :: values =>
      { offset
        crc := (crc32 (messageBody
          (ProduceRequest.plainMessage value).toMessage)).toNat
        value } :: loggedFrom crc32 (offset + 1) values

/-- The set that the broker returns is the message set of the log. -/
theorem numberMessages_plainBody
    (crc32 : Bytes → UInt32)
    (offset : Int)
    (values : List Bytes) :
    numberMessages offset (values.map (plainBody crc32)) =
      messageSet (loggedFrom crc32 offset values) := by
  induction values generalizing offset with
  | nil => rfl
  | cons value values inductionHypothesis =>
      have body : plainBody crc32 value = LogMessage.body
          { offset
            crc := (crc32 (messageBody
              (ProduceRequest.plainMessage value).toMessage)).toNat
            value } := by
        simp [plainBody, writeMessage, messageBody, LogMessage.body,
          ProduceRequest.plainMessage]
      rw [List.map_cons, numberMessages, inductionHypothesis, body]
      rfl

theorem loggedFrom_valid
    {offset : Int}
    {values : List Bytes}
    (short : plainSize values < 2 ^ 31)
    (lower : -(2 ^ 63) ≤ offset)
    (upper : offset + values.length < 2 ^ 63)
    (crc32 : Bytes → UInt32) :
    ∀ message ∈ loggedFrom crc32 offset values, message.Valid := by
  induction values generalizing offset with
  | nil => simp [loggedFrom]
  | cons value values inductionHypothesis =>
      rw [plainSize_cons] at short
      rw [List.length_cons] at upper
      push_cast at upper
      intro message member
      rcases List.mem_cons.mp member with rfl | later
      · refine ⟨?_, lower, ?_⟩
        · rw [LogMessage.length_body]
          simp only [bytesWireSize]
          omega
        · change offset < 2 ^ 63 - 1
          omega
      · exact inductionHypothesis (by omega) (by omega) (by omega) message later

theorem length_messageSet_loggedFrom
    (crc32 : Bytes → UInt32)
    (offset : Int)
    (values : List Bytes) :
    (messageSet (loggedFrom crc32 offset values)).length = plainSize values := by
  induction values generalizing offset with
  | nil => rfl
  | cons value values inductionHypothesis =>
      rw [loggedFrom, length_messageSet_cons, inductionHypothesis,
        plainSize_cons, LogMessage.wireSize, LogMessage.length_body]
      simp only [bytesWireSize]
      omega

end Broker

namespace KafkaPartition

open Broker

/-- The filter passes all messages with a value and counts all messages. -/
theorem collectMessages_loggedFrom
    {crc32 : Bytes → UInt32}
    {offset : Int}
    {values : List Bytes}
    (lower : -(2 ^ 63) ≤ offset)
    (upper : offset + values.length < 2 ^ 63) :
    collectMessages ((loggedFrom crc32 offset values).map LogMessage.decoded)
        offset =
      (values.filter fun value => !value.isEmpty, offset + values.length) := by
  induction values generalizing offset with
  | nil => simp [loggedFrom, collectMessages]
  | cons value values inductionHypothesis =>
      rw [List.length_cons] at upper
      push_cast at upper
      have wrapped : wrap 64 (offset + 1) = offset + 1 :=
        wrap_of_range (by decide) (by omega) (by omega)
      have later := inductionHypothesis (by omega)
        (show offset + 1 + values.length < 2 ^ 63 by omega)
      have first : collectMessages ((loggedFrom crc32 offset
          (value :: values)).map LogMessage.decoded) offset =
          (((some value).filter fun bytes => !bytes.isEmpty).toList ++
            (collectMessages ((loggedFrom crc32 (offset + 1) values).map
              LogMessage.decoded) (offset + 1)).1,
            (collectMessages ((loggedFrom crc32 (offset + 1) values).map
              LogMessage.decoded) (offset + 1)).2) := by
        rw [loggedFrom, List.map_cons, collectMessages]
        simp only [LogMessage.decoded, le_refl, if_true, wrapped]
      rw [first, later, List.length_cons]
      apply Prod.ext
      · cases value <;> rfl
      · push_cast
        ring

/-- The messages of the queue of a producer are handed to the application of a
consumer, and its next offset grows by their number. -/
def Consumes
    (consumer : KafkaPartition)
    (messages : List Bytes)
    (q : KafkaPartition) : Prop :=
  q.trace = consumer.trace ++
      (if messages = [] then [] else [.receivedData messages]) ∧
    q.nextFetchOffset = consumer.nextFetchOffset + messages.length

/-- The frames that `createProduceRequest` puts on the deque. -/
def drainedFrames (crc32 : Bytes → UInt32) (p : KafkaPartition) : List Bytes :=
  ((p.createProduceRequest crc32).writeBuffers.drop
    p.writeBuffers.length).map WriteBuffer.second

/-- The broker takes the queue from the frames that drain it. -/
theorem producedMessages_drainedFrames
    {p : KafkaPartition}
    (topicShort : p.topic.length < 2 ^ 15)
    (clientShort : p.config.clientId.length < 2 ^ 15)
    (short : plainSize p.msgs < 2 ^ 31)
    (crc32 : Bytes → UInt32) :
    producedMessages (p.drainedFrames crc32) = p.msgs.map (plainBody crc32) := by
  obtain ⟨chunks, buffers, contents⟩ := produceBuffers_eq crc32 p
  have drained : (p.createProduceRequest crc32).writeBuffers =
      p.writeBuffers ++ produceBuffers crc32 p := rfl
  rw [← contents] at short ⊢
  rw [drainedFrames, drained, List.drop_left, buffers, List.map_map]
  exact producedMessages_chunks topicShort clientShort short crc32 _ p.partition

/-- What is produced is what is consumed exactly when no message is empty: the
queue of a producer, which holds what `produce` has accepted, is drained into
frames, and the broker numbers their messages from the next offset of the
consumer on. -/
theorem consumes_produced_iff
    (crc32 : Bytes → UInt32)
    (producer consumer : KafkaPartition)
    {highwaterMarkOffset : Int}
    (receiving : Receiving consumer)
    (valid : ValidPartition consumer.topic consumer.partition 0)
    (lowerMark : -(2 ^ 63) ≤ highwaterMarkOffset)
    (upperMark : highwaterMarkOffset < 2 ^ 63)
    (topicShort : producer.topic.length < 2 ^ 15)
    (clientShort : producer.config.clientId.length < 2 ^ 15)
    (short : plainSize producer.msgs < 2 ^ 31)
    (lower : -(2 ^ 63) ≤ consumer.nextFetchOffset)
    (upper : consumer.nextFetchOffset + producer.msgs.length < 2 ^ 63)
    (surroundings : Surroundings) :
    ∃ q, consumer.handleFetchResponse (fetchResponse consumer.topic
        consumer.partition 0 highwaterMarkOffset
        (numberMessages consumer.nextFetchOffset
          (producedMessages (producer.drainedFrames crc32)))) surroundings =
        .ok q ∧
      (Consumes consumer producer.msgs q ↔ [] ∉ producer.msgs) := by
  rw [producedMessages_drainedFrames topicShort clientShort short,
    numberMessages_plainBody]
  have setShort : (messageSet (loggedFrom crc32 consumer.nextFetchOffset
      producer.msgs)).length < 2 ^ 31 := by
    rwa [length_messageSet_loggedFrom]
  have read (buffer : Bytes) := readMessageSet_messageSet buffer
    (loggedFrom_valid short lower upper crc32) setShort
  obtain ⟨q, returned, trace, next⟩ := receiving.handleFetchResponse
    (readFetchResponse_messages valid lowerMark upperMark setShort (read _))
    surroundings
  rw [FetchResponse.messages_single, collectMessages_loggedFrom lower upper]
    at trace next
  have all : (producer.msgs.filter fun value => !value.isEmpty) =
      producer.msgs ↔ [] ∉ producer.msgs := by
    rw [List.filter_eq_self]
    constructor
    · intro kept member
      simpa using kept [] member
    · intro absent value member
      cases value with
      | nil => exact absurd member absent
      | cons _ _ => rfl
  refine ⟨q, returned, ?_⟩
  rw [← all, Consumes, trace, next]
  constructor
  · intro consumed
    have same := List.append_cancel_left consumed.1
    by_cases nothing : producer.msgs = []
    · rw [nothing]
      rfl
    · rw [if_neg nothing] at same
      split at same
      · cases same
      · exact Effect.receivedData.inj (List.singleton_inj.mp same)
  · intro kept
    rw [kept]
    exact ⟨rfl, rfl⟩

/-- Three messages, one of them with a zero byte, reach the application. -/
theorem consumes_produced_iff_three :
    ∃ producer, (sampleProducer {}).produceAll [[104], [105, 0], [106]] =
        .ok (0, producer) ∧
      ∃ q, (sampleConsumer {}).handleFetchResponse (fetchResponse [116] 0 0 3
          (numberMessages 0 (producedMessages
            (producer.drainedFrames Crc32.checksum)))) {} = .ok q ∧
        Consumes (sampleConsumer {}) [[104], [105, 0], [106]] q := by
  have valid : ValidPartition [116] 0 0 := by
    decide
  obtain ⟨⟨code, producer⟩, accepted, checked⟩ := Execution.exists_ok_of_any
    ((sampleProducer {}).produceAll [[104], [105, 0], [106]])
    (fun result => decide (result.1 = 0 ∧
      result.2.msgs = [[104], [105, 0], [106]] ∧
      result.2.topic.length < 2 ^ 15 ∧ result.2.config.clientId.length < 2 ^ 15))
    (by decide +kernel)
  obtain ⟨rfl, queued, topicShort, clientShort⟩ := of_decide_eq_true checked
  obtain ⟨q, returned, consumed⟩ := consumes_produced_iff Crc32.checksum producer
    (sampleConsumer {}) (sampleConsumer_started {} (by decide +kernel)).receiving valid
    (show -(2 ^ 63) ≤ (3 : Int) by decide) (by decide) topicShort clientShort
    (by rw [queued]; decide) (by decide) (by rw [queued]; decide) {}
  have whole := consumed.mpr (by rw [queued]; decide)
  rw [queued] at whole
  exact ⟨producer, accepted, q, returned, whole⟩

/-- An empty message is lost on the way. -/
theorem empty_message_lost :
    ∃ producer, (sampleProducer {}).produceAll [[104], []] = .ok (0, producer) ∧
      ∃ q, (sampleConsumer {}).handleFetchResponse (fetchResponse [116] 0 0 2
          (numberMessages 0 (producedMessages
            (producer.drainedFrames Crc32.checksum)))) {} = .ok q ∧
        q.trace = (sampleConsumer {}).trace ++ [.receivedData [[104]]] ∧
        q.nextFetchOffset = 2 ∧
        ¬ Consumes (sampleConsumer {}) [[104], []] q := by
  obtain ⟨⟨code, producer⟩, accepted, checked⟩ := Execution.exists_ok_of_any
    ((sampleProducer {}).produceAll [[104], []])
    (fun result : Int × KafkaPartition => result.1 == 0 &&
      ((sampleConsumer {}).handleFetchResponse (fetchResponse [116] 0 0 2
        (numberMessages 0 (producedMessages
          (result.2.drainedFrames Crc32.checksum)))) {}).toOption.any
        fun q : KafkaPartition => decide (
          q.trace = (sampleConsumer {}).trace ++ [.receivedData [[104]]] ∧
          q.nextFetchOffset = 2))
    (by decide +kernel)
  obtain ⟨success, consumed⟩ := Bool.and_eq_true_iff.mp checked
  obtain ⟨q, returned, result⟩ := Execution.exists_ok_of_any _ _ consumed
  obtain ⟨trace, next⟩ := of_decide_eq_true result
  obtain rfl : code = 0 := by simpa using success
  refine ⟨producer, accepted, q, returned, trace, next, ?_⟩
  rintro ⟨whole, -⟩
  rw [trace] at whole
  have same := List.append_cancel_left whole
  simp at same

end KafkaPartition
end AsyncKafka
