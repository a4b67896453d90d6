import AsyncKafka.Consumer.OffsetStore
import AsyncKafka.Partition.Requested
import AsyncKafka.RoundTrip

/-!
# Every frame can be read

A broker can read every frame of a partition: the frame is accepted as one of
the four requests, and the request concerns the partition's own topic and number
and nothing else.  Its correlation identifier is its api key, by which
`onReadReady` will find the handler of the response.
-/

namespace AsyncKafka

open Wire Execution Broker StreamReader

/-- A request for one partition of one topic only. -/
def Wire.Request.Concerns (topic : Bytes) (partition : Int) : Request → Prop
  | .produce request => ∀ entry ∈ request.topics, entry.topicName = topic ∧
      ∀ part ∈ entry.partitions, part.partition = partition
  | .fetch request => ∀ entry ∈ request.topics, entry.topicName = topic ∧
      ∀ part ∈ entry.partitions, part.partition = partition
  | .offset request => ∀ entry ∈ request.topics, entry.topicName = topic ∧
      ∀ part ∈ entry.partitions, part.partition = partition
  | .metadata request => request.topicNames = [topic]

/-- A broker reads the frame, wherever it stands in the stream, as the request
that it was built from, which concerns one partition only. -/
structure WriteBuffer.Readable
    (crc32 : Bytes → UInt32)
    (clientId topic : Bytes)
    (partition : Int)
    (buffer : WriteBuffer)
    (request : Request) : Prop where
  built : buffer.request = some request
  apiKey : buffer.first = request.apiKey
  correlationId : request.correlationId = request.apiKey
  concerns : request.Concerns topic partition
  read : ∀ rest, readRequest crc32 ⟨buffer.second ++ rest, false⟩ =
    .ok ((clientId, request), ⟨rest, false⟩)

namespace KafkaPartition

/-- What was set once can be written. -/
structure IdentityFits (p : KafkaPartition) : Prop where
  clientId : p.config.clientId.length < 2 ^ 15
  topic : p.topic.length < 2 ^ 15
  partition : Fits 4 p.partition
  requiredAcks : Fits 2 p.config.pRequiredAcks
  timeout : Fits 4 p.config.pTimeout
  maxWaitTime : Fits 4 p.config.cMaxFetchWaitTimeMs
  minBytes : Fits 4 p.config.cMinFetchBytes
  maxBytes : Fits 4 p.config.cMaxFetchBytes

theorem IdentityFits.of_identity
    {p q : KafkaPartition}
    (fits : IdentityFits p)
    (same : q.identity = p.identity) :
    IdentityFits q := by
  have sameConfig : q.config = p.config := congrArg Identity.config same
  have sameTopic : q.topic = p.topic := congrArg Identity.topic same
  have samePartition : q.partition = p.partition :=
    congrArg Identity.partition same
  obtain ⟨clientId, topic, partition, acks, timeout, wait, least, most⟩ := fits
  refine ⟨?_, ?_, ?_, ?_, ?_, ?_, ?_, ?_⟩ <;>
    simpa only [sameConfig, sameTopic, samePartition]

/-- The frame is readable under the names of the partition. -/
def Reads (crc32 : Bytes → UInt32) (p : KafkaPartition) (buffer : WriteBuffer) :
    Prop :=
  ∃ request, buffer.Readable crc32 p.config.clientId p.topic p.partition request

theorem Reads.of_identity
    {crc32 : Bytes → UInt32}
    {p q : KafkaPartition}
    {buffer : WriteBuffer}
    (reads : Reads crc32 p buffer)
    (same : q.identity = p.identity) :
    Reads crc32 q buffer := by
  have sameConfig : q.config = p.config := congrArg Identity.config same
  have sameTopic : q.topic = p.topic := congrArg Identity.topic same
  have samePartition : q.partition = p.partition :=
    congrArg Identity.partition same
  unfold Reads
  rw [sameConfig, sameTopic, samePartition]
  exact reads

section

variable {crc32 : Bytes → UInt32} {p : KafkaPartition}

theorem metadataBuffer_reads (fits : IdentityFits p) :
    Reads crc32 p p.metadataBuffer := by
  have clientShort := fits.clientId
  have topicShort := fits.topic
  let request : Request :=
    .metadata { correlationId := apiKeyMetadataRequest, topicNames := [p.topic] }
  have writable : request.Writable :=
    ⟨(by decide : Fits 4 apiKeyMetadataRequest), by simpa using topicShort⟩
  refine ⟨request, rfl, rfl, rfl, rfl, ?_⟩
  refine request.readRequest_write clientShort writable ?_
  simp only [request, Request.requestMessageWireSize,
    MetadataRequest.requestMessageWireSize, requestWireSize, stringWireSize,
    List.map_cons, List.map_nil, List.sum_cons, List.sum_nil]
  omega

theorem offsetBuffer_reads (fits : IdentityFits p) :
    Reads crc32 p p.offsetBuffer := by
  have clientShort := fits.clientId
  have topicShort := fits.topic
  let request : Request :=
    .offset
      { correlationId := apiKeyOffsetRequest
        topics := [⟨p.topic, [{
          partition := p.partition
          time := offsetTime p.config
          maxNumberOfOffsets := defaultOffsetMaxNumberOfOffsets }]⟩] }
  have timeFits : Fits 8 (offsetTime p.config) := by
    unfold offsetTime
    split <;> decide
  have writable : request.Writable := by
    refine ⟨(by decide : Fits 4 apiKeyOffsetRequest), ?_⟩
    intro topic member
    obtain rfl := List.mem_singleton.mp member
    refine ⟨topicShort, fun entry inside => ?_⟩
    obtain rfl := List.mem_singleton.mp inside
    exact ⟨fits.partition, timeFits,
      (by decide : Fits 4 defaultOffsetMaxNumberOfOffsets)⟩
  have concerns : request.Concerns p.topic p.partition := by
    intro topic member
    obtain rfl := List.mem_singleton.mp member
    exact ⟨rfl, by simp⟩
  refine ⟨request, rfl, rfl, rfl, concerns, ?_⟩
  refine request.readRequest_write clientShort writable ?_
  simp only [request, Request.requestMessageWireSize,
    OffsetRequest.requestMessageWireSize, requestWireSize, stringWireSize,
    List.map_cons, List.map_nil, List.sum_cons, List.sum_nil, List.length_cons,
    List.length_nil]
  omega

theorem fetchBuffer_reads (fits : IdentityFits p) (inRange : OffsetInRange p) :
    Reads crc32 p p.fetchBuffer := by
  have clientShort := fits.clientId
  have topicShort := fits.topic
  let request : Request :=
    .fetch
      { correlationId := apiKeyFetchRequest
        maxWaitTime := p.config.cMaxFetchWaitTimeMs
        minBytes := p.config.cMinFetchBytes
        topics := [⟨p.topic, [{
          partition := p.partition
          fetchOffset := p.nextFetchOffset
          maxBytes := p.config.cMaxFetchBytes }]⟩] }
  have writable : request.Writable := by
    refine ⟨(by decide : Fits 4 apiKeyFetchRequest), fits.maxWaitTime,
      fits.minBytes, ?_⟩
    intro topic member
    obtain rfl := List.mem_singleton.mp member
    refine ⟨topicShort, fun entry inside => ?_⟩
    obtain rfl := List.mem_singleton.mp inside
    exact ⟨fits.partition, inRange, fits.maxBytes⟩
  have concerns : request.Concerns p.topic p.partition := by
    intro topic member
    obtain rfl := List.mem_singleton.mp member
    exact ⟨rfl, by simp⟩
  refine ⟨request, rfl, rfl, rfl, concerns, ?_⟩
  refine request.readRequest_write clientShort writable ?_
  simp only [request, Request.requestMessageWireSize,
    FetchRequest.requestMessageWireSize, requestWireSize, stringWireSize,
    List.map_cons, List.map_nil, List.sum_cons, List.sum_nil, List.length_cons,
    List.length_nil]
  omega

/-- What a message queue may take for its frames to stay below `2^31` bytes. -/
def SmallQueue (msgs : List Bytes) : Prop := plainSize msgs + 2 ^ 17 < 2 ^ 31

instance (msgs : List Bytes) : Decidable (SmallQueue msgs) :=
  inferInstanceAs (Decidable (plainSize msgs + 2 ^ 17 < 2 ^ 31))

theorem plainSize_le_of_mem_chunks
    {chunk : List Bytes}
    (member : chunk ∈ p.chunks) :
    plainSize chunk ≤ plainSize p.msgs := by
  have whole : p.chunks.flatten = p.msgs := Greedy.flatten_cut 0 [] p.msgs
  obtain ⟨before, after, split⟩ := List.append_of_mem member
  rw [← whole, split, List.flatten_append, List.flatten_cons, plainSize_append,
    plainSize_append]
  omega

theorem produceBuffer_reads
    {chunk : List Bytes}
    (fits : IdentityFits p)
    (small : SmallQueue p.msgs)
    (member : chunk ∈ p.chunks) :
    Reads crc32 p (produceBuffer crc32 p.config (p.chunkRequest chunk)) := by
  have clientShort := fits.clientId
  have topicShort := fits.topic
  have size := plainSize_le_of_mem_chunks member
  unfold SmallQueue at small
  let request : Request := .produce (p.chunkRequest chunk)
  have topicsOf : ∀ topic ∈ (p.chunkRequest chunk).topics, topic =
      ⟨p.topic, [{
        partition := p.partition
        messages := chunk.map ProduceRequest.plainMessage }]⟩ := by
    intro topic inside
    simp only [chunkRequest, ProduceRequest.withChunk,
      ProduceRequest.chunkTopics] at inside
    split at inside
    · cases inside
    · exact List.mem_singleton.mp inside
  have writable : request.Writable := by
    refine ⟨(by decide : Fits 4 apiKeyProduceRequest), fits.requiredAcks,
      fits.timeout, ?_⟩
    intro topic inside
    obtain rfl := topicsOf topic inside
    refine ⟨topicShort, fun entry found => ?_⟩
    obtain rfl := List.mem_singleton.mp found
    refine ⟨fits.partition, fun message carried => ?_⟩
    obtain ⟨value, -, rfl⟩ := List.mem_map.mp carried
    exact ⟨(by decide : Fits 8 0), (by decide : Fits 1 0)⟩
  have concerns : request.Concerns p.topic p.partition := by
    intro topic inside
    obtain rfl := topicsOf topic inside
    exact ⟨rfl, by simp⟩
  have short : (p.chunkRequest chunk).requestMessageWireSize ≤
      2 ^ 16 + plainSize chunk := by
    by_cases empty : chunk = []
    · subst empty
      simp only [chunkRequest, ProduceRequest.withChunk,
        ProduceRequest.chunkTopics, if_true,
        ProduceRequest.requestMessageWireSize, List.map_nil, List.sum_nil]
      omega
    · simp only [chunkRequest, ProduceRequest.withChunk,
        ProduceRequest.chunkTopics, empty, if_false,
        ProduceRequest.requestMessageWireSize, stringWireSize, plainSize,
        List.map_cons, List.map_nil, List.sum_cons, List.sum_nil]
      omega
  refine ⟨request, rfl, rfl, rfl, concerns, ?_⟩
  refine request.readRequest_write clientShort writable ?_
  simp only [request, Request.requestMessageWireSize, requestWireSize,
    stringWireSize]
  omega

end

/-- A new frame is readable, unless it is a request that was refused. -/
theorem Issued.reads
    {crc32 : Bytes → UInt32}
    {p : KafkaPartition}
    {event : Event}
    {buffer : WriteBuffer}
    (issued : Issued crc32 p event buffer)
    (fits : IdentityFits p)
    (inRange : OffsetInRange p)
    (small : SmallQueue p.msgs)
    (unrefused : event.isProduceError = false) :
    buffer ∈ p.frames ∨ Reads crc32 p buffer := by
  cases issued with
  | old inside => exact .inl inside
  | metadata same => exact .inr (same ▸ metadataBuffer_reads fits)
  | offset same => exact .inr (same ▸ offsetBuffer_reads fits)
  | fetch same => exact .inr (same ▸ fetchBuffer_reads fits inRange)
  | produce member same =>
      exact .inr (same ▸ produceBuffer_reads fits small member)
  | refused error =>
      rw [error] at unrefused
      cases unrefused

/-- All frames are readable. -/
structure Legible (crc32 : Bytes → UInt32) (p : KafkaPartition) : Prop where
  fits : IdentityFits p
  inRange : OffsetInRange p
  frames : ∀ buffer ∈ p.frames, Reads crc32 p buffer

theorem Legible.step
    {crc32 : Bytes → UInt32}
    {p q : KafkaPartition}
    {event : Event}
    (legible : Legible crc32 p)
    (small : SmallQueue p.msgs)
    (unrefused : event.isProduceError = false)
    (stepped : step crc32 p event = .ok q) :
    Legible crc32 q := by
  have moved := step_transition stepped
  refine ⟨legible.fits.of_identity moved.identity,
    moved.offsetInRange legible.inRange, fun buffer member => ?_⟩
  rcases (step_issued stepped member).reads legible.fits legible.inRange small
    unrefused with old | new
  · exact (legible.frames buffer old).of_identity moved.identity
  · exact new.of_identity moved.identity

/-- A call that adds no frame but an offset request. -/
theorem Legible.of_frames
    {crc32 : Bytes → UInt32}
    {p q : KafkaPartition}
    (legible : Legible crc32 p)
    (sameConfig : q.config = p.config)
    (sameTopic : q.topic = p.topic)
    (samePartition : q.partition = p.partition)
    (sameOffset : q.nextFetchOffset = p.nextFetchOffset)
    (subset : ∀ buffer ∈ q.frames, buffer ∈ p.frames ∨ buffer = p.offsetBuffer) :
    Legible crc32 q := by
  obtain ⟨⟨clientId, topic, partition, acks, timeout, wait, least, most⟩,
    inRange, framesRead⟩ := legible
  have fits : IdentityFits p :=
    ⟨clientId, topic, partition, acks, timeout, wait, least, most⟩
  refine ⟨?_, ?_, fun buffer member => ?_⟩
  · refine ⟨?_, ?_, ?_, ?_, ?_, ?_, ?_, ?_⟩ <;>
      simpa only [sameConfig, sameTopic, samePartition]
  · unfold OffsetInRange
    rw [sameOffset]
    exact inRange
  · have reads : Reads crc32 p buffer := by
      rcases subset buffer member with old | rfl
      · exact framesRead buffer old
      · exact offsetBuffer_reads fits
    unfold Reads
    rw [sameConfig, sameTopic, samePartition]
    exact reads

/-- No produce request is refused and the message queue stays below the limit of
a frame. -/
structure Moderate (p : KafkaPartition) (call : Call) : Prop where
  unrefused : ∀ event, call = .event event → event.isProduceError = false
  small : SmallQueue p.msgs

/-- Bookkeeping without effects adds no frame. -/
theorem Legible.bookkeeping
    {crc32 : Bytes → UInt32}
    {p q : KafkaPartition}
    (legible : Legible crc32 p)
    (kept : Bookkeeping p [] q) :
    Legible crc32 q := by
  have same := kept.identity
  refine legible.of_frames (congrArg Identity.config same)
    (congrArg Identity.topic same) (congrArg Identity.partition same)
    kept.nextFetchOffset fun buffer member => .inl ?_
  obtain ⟨⟨_, _, _, _, _, _, _, _, _, _, _, rfl⟩, -⟩ := kept
  simpa [KafkaPartition.frames, handedFrames] using member

theorem Legible.perform
    {crc32 : Bytes → UInt32}
    {p q : KafkaPartition}
    {call : Call}
    (legible : Legible crc32 p)
    (moderate : Moderate p call)
    (performed : perform crc32 p call = .ok q) :
    Legible crc32 q := by
  cases call with
  | event event =>
      exact legible.step moderate.small (moderate.unrefused event rfl) performed
  | connect fd =>
      obtain rfl := Except.ok.inj performed
      refine legible.of_frames rfl rfl rfl rfl fun buffer member => .inl ?_
      simpa [KafkaPartition.frames, handedFrames, connectLeader,
        KafkaPartition.record, registerSocket, Effect.frame?,
        List.filterMap_append] using member
  | offsetRequest =>
      obtain rfl := Except.ok.inj performed
      refine legible.of_frames rfl rfl rfl rfl fun buffer member => ?_
      have inside : buffer ∈ p.handedFrames ++ p.offsetBuffer :: p.writeBuffers :=
        member
      simp only [List.mem_append, List.mem_cons] at inside
      rcases inside with handed | rfl | waiting
      · exact .inl (List.mem_append.mpr (.inl handed))
      · exact .inr rfl
      · exact .inl (List.mem_append.mpr (.inr waiting))
  | armTimer fd =>
      obtain ⟨_, -, rfl⟩ := perform_armTimer performed
      exact legible.of_frames rfl rfl rfl rfl fun _ member => .inl member
  | callbacks onReceivedData onProduceResponse onMsgQueued =>
      obtain rfl := Except.ok.inj performed
      exact legible.of_frames rfl rfl rfl rfl fun _ member => .inl member
  | startFetch eventFd timerFd =>
      exact legible.bookkeeping (startFetch_bookkeeping performed)
  | startProduce eventFd queueFd timerFd =>
      exact legible.bookkeeping (startProduce_bookkeeping performed)

/-- A partition that was never connected has no frames. -/
theorem Unborn.legible
    {p : KafkaPartition}
    (unborn : Unborn p)
    (fits : IdentityFits p)
    (inRange : OffsetInRange p)
    (crc32 : Bytes → UInt32) :
    Legible crc32 p := by
  refine ⟨fits, inRange, fun buffer member => ?_⟩
  obtain ⟨_, _, _, _, _, _, _, _, rfl⟩ := unborn
  cases member

theorem Legible.run
    {crc32 : Bytes → UInt32}
    {start p : KafkaPartition}
    {history : List Call}
    (legible : Legible crc32 start)
    (run : Run (KafkaPartition.perform crc32) Moderate start history p) :
    Legible crc32 p := by
  apply run.invariant (fun _ state => Legible crc32 state) legible
  intro _ state call next held moderate performed
  exact held.perform moderate performed

/-- From the constructor on, whatever a partition of either type has handed to
the kernel or keeps for it is a request that a broker reads as the partition
has built it, as long as no produce request is refused and no queue outgrows a
frame. -/
theorem frames_readable
    {crc32 : Bytes → UInt32}
    {start p : KafkaPartition}
    {history : List Call}
    (unborn : Unborn start)
    (fits : IdentityFits start)
    (inRange : OffsetInRange start)
    (run : Run (perform crc32) Moderate start history p) :
    ∀ buffer ∈ p.frames, Reads crc32 p buffer :=
  ((unborn.legible fits inRange crc32).run run).frames

/-- The executable form of `Moderate`. -/
def moderate (p : KafkaPartition) (call : Call) : Bool :=
  (match call with
    | .event event => !event.isProduceError
    | _ => true) &&
  decide (SmallQueue p.msgs)

theorem moderate_sound
    {p : KafkaPartition}
    {call : Call}
    (checked : moderate p call = true) :
    Moderate p call := by
  obtain ⟨unrefused, small⟩ := Bool.and_eq_true_iff.mp checked
  refine ⟨?_, of_decide_eq_true small⟩
  rintro event rfl
  simpa using unrefused

/-- A producer from its constructor to the timers. -/
def sampleLife : List Call :=
  initCalls 5 sampleSurroundings ++
    [.startProduce 7 8 9, .event (.produce [104]), .event .batchTimer,
      .event (.writeReady .written), .event .metadataTimer]

/-- The frames of a producer: the two exchanges of the constructor, a message
and the request of the timer. -/
theorem frames_readable_sample :
    ∃ p, Run (perform Crc32.checksum) Moderate (sampleUnborn .producer)
        sampleLife p ∧
      p.frames.map WriteBuffer.first = [3, 2, 0, 3] ∧
      ∀ buffer ∈ p.frames, Reads Crc32.checksum p buffer := by
  obtain ⟨p, run, reached⟩ := exists_run_of_follow (perform Crc32.checksum)
    (fun p call => moderate p call = true) (sampleUnborn .producer) sampleLife
    (fun p => p.frames.map WriteBuffer.first == [3, 2, 0, 3]) (by decide +kernel)
  have moderateRun := run.mono fun _ _ checked => moderate_sound checked
  have fits : IdentityFits (sampleUnborn .producer) := by
    refine ⟨?_, ?_, ?_, ?_, ?_, ?_, ?_, ?_⟩ <;> decide
  have inRange : OffsetInRange (sampleUnborn .producer) := ⟨by decide, by decide⟩
  exact ⟨p, moderateRun, by simpa using reached,
    frames_readable (sampleUnborn_unborn .producer) fits inRange moderateRun⟩

end KafkaPartition
end AsyncKafka
