import AsyncKafka.Library.Greedy
import AsyncKafka.Partition.Requests

/-!
# The requests that drain the message queue

`createProduceRequest` fills one request after the other, reusing the request
object.  Each request carries a chunk of the queue to a single partition, and
the chunks together are the queue.
-/

namespace AsyncKafka

open Wire

namespace Wire.ProduceRequest

/-- A value as it stands in a produce request. -/
def plainMessage (value : Bytes) : MessageAndOffset :=
  { value := some value, offset := 0 }

/-- The topics of a request that carries a chunk to one partition.  A request
to which nothing was added has none. -/
def chunkTopics
    (topicName : Bytes)
    (partition : Int)
    (chunk : List Bytes) : List (Topic ProducePartition) :=
  if chunk = [] then []
  else [⟨topicName, [{ partition, messages := chunk.map plainMessage }]⟩]

/-- A request with its topics replaced by a chunk. -/
def withChunk
    (request : ProduceRequest)
    (topicName : Bytes)
    (partition : Int)
    (chunk : List Bytes) : ProduceRequest :=
  { request with topics := chunkTopics topicName partition chunk }

/-- Adding a value extends the chunk. -/
theorem addValue_withChunk
    (request : ProduceRequest)
    (topicName : Bytes)
    (partition : Int)
    (chunk : List Bytes)
    (value : Bytes) :
    (request.withChunk topicName partition chunk).addValue value topicName
        partition =
      request.withChunk topicName partition (chunk ++ [value]) := by
  by_cases empty : chunk = []
  · subst empty
    simp [withChunk, chunkTopics, addValue, addMessage, modifyPartition,
      modifyOrInsert, plainMessage]
  · simp [withChunk, chunkTopics, addValue, addMessage, modifyPartition,
      modifyOrInsert, plainMessage, empty]

/-- A cleared request starts an empty chunk. -/
theorem clear_withChunk
    (request : ProduceRequest)
    (topicName : Bytes)
    (partition : Int)
    (chunk : List Bytes) :
    (request.withChunk topicName partition chunk).clear =
      request.withChunk topicName partition [] := rfl

/-- The values of a request are its chunk. -/
@[simp] theorem values_withChunk
    (request : ProduceRequest)
    (topicName : Bytes)
    (partition : Int)
    (chunk : List Bytes) :
    (request.withChunk topicName partition chunk).values = chunk := by
  by_cases empty : chunk = []
  · subst empty
    rfl
  · simp [withChunk, chunkTopics, values, empty, plainMessage,
      Function.comp_def]

end Wire.ProduceRequest

namespace KafkaPartition

open Wire.ProduceRequest

/-- The estimate of the size of a request after a message was added, a
`size_t`. -/
def addedSize (reqSize : Nat) (msg : Bytes) : Nat :=
  (reqSize + msg.length + 10) % 2 ^ 64

/-- Whether a request of an estimated size is closed before the next message. -/
def isFullBatch (limit reqSize : Nat) : Bool := limit ≤ reqSize

/-- The loop cuts its messages into chunks, the first of which continues the
chunk that it was given. -/
theorem batchRequests_eq
    (limit : Nat)
    (topic : Bytes)
    (partition : Int)
    (request : ProduceRequest)
    (chunk : List Bytes)
    (reqSize : Nat)
    (msgs : List Bytes) :
    batchRequests limit topic partition
        (request.withChunk topic partition chunk) reqSize msgs =
      (Greedy.cut (isFullBatch limit) addedSize 0 reqSize chunk msgs).map
        (request.withChunk topic partition) := by
  induction msgs generalizing chunk reqSize with
  | nil => rfl
  | cons msg msgs inductionHypothesis =>
      unfold batchRequests Greedy.cut
      by_cases full : limit ≤ reqSize
      · -- The request is full: a new chunk starts with this message.
        have isFull : isFullBatch limit reqSize = true := decide_eq_true full
        rw [if_pos full, if_pos isFull, clear_withChunk,
          addValue_withChunk, List.nil_append, List.map_cons]
        exact congrArg _ (inductionHypothesis [msg] (addedSize 0 msg))
      · have notFull : ¬ isFullBatch limit reqSize = true := by
          simpa [isFullBatch] using full
        rw [if_neg full, if_neg notFull, addValue_withChunk]
        exact inductionHypothesis (chunk ++ [msg]) (addedSize reqSize msg)

/-- The chunks into which the queue of a partition is cut. -/
def chunks (p : KafkaPartition) : List (List Bytes) :=
  Greedy.cut (isFullBatch (batchLimit p.config)) addedSize 0 0 [] p.msgs

/-- The request that carries a chunk of the queue of a partition. -/
def chunkRequest (p : KafkaPartition) (chunk : List Bytes) : ProduceRequest :=
  (blankProduceRequest p.config).withChunk p.topic p.partition chunk

/-- The frames that drain the queue carry its chunks. -/
theorem produceBuffers_chunks (crc32 : Bytes → UInt32) (p : KafkaPartition) :
    produceBuffers crc32 p = p.chunks.map
      (fun chunk => produceBuffer crc32 p.config (p.chunkRequest chunk)) := by
  have requests := batchRequests_eq (batchLimit p.config) p.topic p.partition
    (blankProduceRequest p.config) [] 0 p.msgs
  have blank : (blankProduceRequest p.config).withChunk p.topic p.partition [] =
      blankProduceRequest p.config := rfl
  rw [blank] at requests
  rw [produceBuffers, requests, List.map_map]
  rfl

/-- They carry the whole queue. -/
theorem produceBuffers_eq (crc32 : Bytes → UInt32) (p : KafkaPartition) :
    ∃ chunks : List (List Bytes),
      produceBuffers crc32 p = chunks.map
        (fun chunk => produceBuffer crc32 p.config (p.chunkRequest chunk)) ∧
      chunks.flatten = p.msgs :=
  ⟨p.chunks, produceBuffers_chunks crc32 p, Greedy.flatten_cut 0 [] p.msgs⟩

end KafkaPartition
end AsyncKafka
