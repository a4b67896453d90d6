import AsyncKafka.Partition.Start
import AsyncKafka.Wire.Broker

/-!
# Where a consumer starts

The start policy is applied in two halves: `createOffsetRequest` chooses the
time it asks about, and `handleOffsetResponse` decides what to do with the
offset it is told.  Together they move the next offset to the end of the log or
no further than up to its beginning; an offset beyond the end stays there.
-/

namespace AsyncKafka

open Wire Execution

namespace Broker

/-- The offset that a broker reports for a time, given the range of its log. -/
def reportedOffset (earliest latest time : Int) : Int :=
  if time = offsetTimeLatest then latest else earliest

end Broker

namespace KafkaPartition

open Broker

/-- The next offset after the start policy was applied to a reported offset. -/
def policyOffset
    (policy : KafkaFetchOffset)
    (current reported : Int) : Int :=
  if policy = .fromEnd then reported else max current reported

theorem nextFetchOffset_resetOffset (p : KafkaPartition) (reported : Int) :
    (p.resetOffset reported).nextFetchOffset =
      policyOffset p.config.cStartOffset p.nextFetchOffset reported := by
  rw [resetOffset_eq]
  rfl

/-- The correlation identifier of a payload that starts with it. -/
theorem correlationId_append
    {identifier : Int}
    (lower : -(2 ^ 31) ≤ identifier)
    (upper : identifier < 2 ^ 31)
    (rest : Bytes) :
    correlationId (writeInt32 identifier ++ rest) = identifier := by
  rw [correlationId, List.take_left' (length_writeInt32 identifier)]
  exact ByteOrder.readSigned_writeSigned (by decide) lower upper

/-- A partition takes the offset that an offset response reports for it. -/
theorem handleOffsetResponse_reported
    {p : KafkaPartition}
    {reported : Int}
    (valid : ValidPartition p.topic p.partition 0)
    (lower : -(2 ^ 63) ≤ reported)
    (upper : reported < 2 ^ 63)
    (surroundings : Surroundings) :
    p.handleOffsetResponse (offsetResponse p.topic p.partition 0 [reported])
        surroundings =
      .ok (p.resetOffset reported) := by
  have readOk := readOffsetResponse_offsets valid
    (show [reported].length < 2 ^ 31 by simp)
    (by simpa using ⟨lower, upper⟩)
  have found : OffsetResponse.topicPartitionOffset ⟨[⟨p.topic,
      [{ partition := p.partition, errorCode := 0, offsets := [reported] }]⟩]⟩
      p.topic p.partition =
        some { partition := p.partition, errorCode := 0, offsets := [reported] } := by
    simp [OffsetResponse.topicPartitionOffset, findTopicPartition,
      findTopicByName, findTopicPartitionByNumber]
  rw [if_pos rfl] at readOk
  simp only [handleOffsetResponse, readOk, ok_bind, handleErrorCode, ne_eq,
    not_true_eq_false, if_false, followOffset, found]
  rfl

/-- An offset response is handed to its handler. -/
theorem onReadReady_offset
    {payload : Bytes}
    (long : 4 ≤ payload.length)
    (offset : correlationId payload = apiKeyOffsetRequest)
    (p : KafkaPartition)
    (surroundings : Surroundings) :
    p.onReadReady (.payload payload) surroundings =
      (p.record (.read payload)).handleOffsetResponse payload surroundings := by
  rw [onReadReady, if_neg (by omega), offset, if_neg (by decide),
    dispatchResponse, offset, if_neg (by decide), if_neg (by decide),
    if_neg (by decide), if_pos rfl]

/-- The offset response as it is read from the socket. -/
theorem onReadReady_offsetResponse
    {p : KafkaPartition}
    {reported : Int}
    (valid : ValidPartition p.topic p.partition 0)
    (lower : -(2 ^ 63) ≤ reported)
    (upper : reported < 2 ^ 63)
    (surroundings : Surroundings) :
    ∃ q, p.onReadReady
        (.payload (offsetResponse p.topic p.partition 0 [reported]))
        surroundings = .ok q ∧
      q.nextFetchOffset =
        policyOffset p.config.cStartOffset p.nextFetchOffset reported := by
  have long :
      4 ≤ (offsetResponse p.topic p.partition 0 [reported]).length := by
    simp [offsetResponse]
  have handled := onReadReady_offset long
    (correlationId_append (by decide) (by decide) _) p surroundings
  have returned := handleOffsetResponse_reported
    (p := p.record (.read (offsetResponse p.topic p.partition 0 [reported])))
    valid lower upper surroundings
  exact ⟨_, handled.trans returned, nextFetchOffset_resetOffset _ reported⟩

/-- What is read after the metadata request of `init` is a metadata response,
unless the connection fails. -/
def AnswersMetadata (received : ReadOutcome) : Prop :=
  ∀ payload, received = .payload payload →
    correlationId payload = apiKeyMetadataRequest

theorem ConnectionOnly.nextFetchOffset
    {p q : KafkaPartition}
    {effects : List Effect}
    (only : ConnectionOnly p effects q) :
    q.nextFetchOffset = p.nextFetchOffset := by
  obtain ⟨⟨_, _, _, _, rfl⟩, -⟩ := only
  rfl

/-- The metadata exchange does not move the next offset. -/
theorem onReadReady_metadata
    {p q : KafkaPartition}
    {received : ReadOutcome}
    {surroundings : Surroundings}
    (answers : AnswersMetadata received)
    (returned : p.onReadReady received surroundings = .ok q) :
    q.nextFetchOffset = p.nextFetchOffset := by
  cases received with
  | payload payload =>
      have metadata := answers payload rfl
      unfold onReadReady at returned
      dsimp only at returned
      split at returned
      · cases returned
      split at returned
      · cases returned
      rw [dispatchResponse, metadata, if_neg (by decide), if_neg (by decide),
        if_pos rfl] at returned
      obtain ⟨effects, only, -⟩ := handleMetadataResponse_spec returned
      exact only.nextFetchOffset
  | closed =>
      obtain ⟨effects, only⟩ := readError_spec returned
      exact only.nextFetchOffset
  | reset =>
      obtain ⟨effects, only⟩ := readError_spec returned
      exact only.nextFetchOffset
  | failed =>
      obtain rfl := Except.ok.inj returned
      rfl

/-- The exchanges of `init` apply the start policy once. -/
theorem init_nextFetchOffset
    {p q : KafkaPartition}
    {reported : Int}
    {surroundings : InitSurroundings}
    (valid : ValidPartition p.topic p.partition 0)
    (lower : -(2 ^ 63) ≤ reported)
    (upper : reported < 2 ^ 63)
    (metadata : AnswersMetadata surroundings.metadataRead)
    (offset : surroundings.offsetRead =
      .payload (offsetResponse p.topic p.partition 0 [reported]))
    (returned : p.init surroundings = .ok q) :
    q.nextFetchOffset =
      policyOffset p.config.cStartOffset p.nextFetchOffset reported := by
  obtain ⟨fd, first, second, third, fourth, _, firstWritten, secondRead,
    thirdWritten, fourthRead, armed, -, -⟩ := init_steps returned
  obtain ⟨_, firstOnly, -⟩ := onWriteReady_control
    (metadataBuffer_isControl _) (createMetadataRequest_only _) firstWritten
  obtain ⟨_, thirdOnly, -⟩ := onWriteReady_control
    (offsetBuffer_isControl _) (createOffsetRequest_only _) thirdWritten
  have connected := (ConnectionOnly.connectLeader p fd).trans firstOnly
  have asked : third.nextFetchOffset = p.nextFetchOffset :=
    thirdOnly.nextFetchOffset.trans
      ((onReadReady_metadata metadata secondRead).trans
        connected.nextFetchOffset)
  have same : third.identity = p.identity :=
    (Bookkeeping.of_connectionOnly thirdOnly).identity.trans
      ((onReadReady_transition (fun _ => 0) secondRead).identity.trans
        (Bookkeeping.of_connectionOnly connected).identity)
  have sameTopic : third.topic = p.topic := congrArg Identity.topic same
  have samePartition : third.partition = p.partition :=
    congrArg Identity.partition same
  have sameConfig : third.config = p.config := congrArg Identity.config same
  rw [← sameTopic, ← samePartition] at valid offset
  obtain ⟨answered, read, next⟩ :=
    onReadReady_offsetResponse valid lower upper surroundings.offset
  rw [offset, read] at fourthRead
  obtain rfl := Except.ok.inj fourthRead
  rw [← sameConfig, ← asked, armed.nextFetchOffset]
  exact next

theorem ConnectionOnly.mem_trace
    {p q : KafkaPartition}
    {effects : List Effect}
    (only : ConnectionOnly p effects q)
    {effect : Effect}
    (member : effect ∈ p.trace) :
    effect ∈ q.trace := by
  obtain ⟨⟨_, _, _, _, rfl⟩, -⟩ := only
  exact List.mem_append.mpr (.inl member)

/-- A fetch response is handed to its handler. -/
theorem onReadReady_fetch
    {payload : Bytes}
    (long : 4 ≤ payload.length)
    (fetch : correlationId payload = apiKeyFetchRequest)
    (p : KafkaPartition)
    (surroundings : Surroundings) :
    p.onReadReady (.payload payload) surroundings =
      (p.record (.read payload)).handleFetchResponse payload surroundings := by
  rw [onReadReady, if_neg (by omega), fetch, if_neg (by decide),
    dispatchResponse, fetch, if_neg (by decide), if_pos rfl]

/-- After an error that says that the offset is out of range, an offset request
is written. -/
theorem onReadReady_outOfRange
    {p q : KafkaPartition}
    {topicName set : Bytes}
    {partition highwaterMarkOffset : Int}
    {surroundings : Surroundings}
    (valid : ValidPartition topicName partition errorOffsetOutOfRange)
    (lower : -(2 ^ 63) ≤ highwaterMarkOffset)
    (upper : highwaterMarkOffset < 2 ^ 63)
    (returned : p.onReadReady (.payload (fetchResponse topicName partition
      errorOffsetOutOfRange highwaterMarkOffset set)) surroundings = .ok q) :
    ∃ accepted, .write p.offsetBuffer accepted ∈ q.trace := by
  have long : 4 ≤ (fetchResponse topicName partition errorOffsetOutOfRange
      highwaterMarkOffset set).length := by
    simp [fetchResponse]
  have readError : readFetchResponse (fetchResponse topicName partition
      errorOffsetOutOfRange highwaterMarkOffset set) = _ :=
    readFetchResponse_error valid lower upper (by decide)
  rw [onReadReady_fetch long
    (correlationId_append (by decide) (by decide) _)] at returned
  generalize fetchResponse topicName partition errorOffsetOutOfRange
    highwaterMarkOffset set = payload at readError returned
  obtain ⟨⟨response, ec⟩, readOk, continued⟩ := bind_eq_ok.mp returned
  obtain ⟨-, rfl⟩ := Prod.mk.inj (Except.ok.inj (readOk.symm.trans readError))
  dsimp only at continued
  rw [if_pos (by decide)] at continued
  obtain ⟨written, wrote, woken⟩ := bind_eq_ok.mp continued
  rw [handleKafkaError, if_pos rfl] at wrote
  have front : (p.record (.read payload)).createOffsetRequest.writeBuffers =
      p.offsetBuffer :: p.writeBuffers := rfl
  obtain ⟨effects, only, -, -⟩ := onWriteReady_cons front wrote
  have kept := only.trans (.wakeupFetchOfConsumer woken)
  refine ⟨surroundings.writes.accepted p.offsetBuffer, kept.mem_trace ?_⟩
  exact List.mem_append.mpr (.inr (List.mem_singleton.mpr rfl))

/-- Where a consumer starts according to the description of `cStartOffset`: at
the end of the log, or at the given offset, or at the beginning of the log when
that offset is out of range. -/
def documentedOffset
    (policy : KafkaFetchOffset)
    (earliest latest current : Int) : Int :=
  if policy = .fromEnd then latest
  else if earliest ≤ current ∧ current ≤ latest then current
  else earliest

/-- The next offset is the documented one, and so within the log. -/
def LandsInLog
    (policy : KafkaFetchOffset)
    (earliest latest current : Int)
    (p : KafkaPartition) : Prop :=
  p.nextFetchOffset = documentedOffset policy earliest latest current ∧
    earliest ≤ p.nextFetchOffset ∧ p.nextFetchOffset ≤ latest

/-- The answer to the offset request of a partition. -/
def offsetAnswer (p : KafkaPartition) (earliest latest : Int) : Bytes :=
  offsetResponse p.topic p.partition 0
    [reportedOffset earliest latest (offsetTime p.config)]

/-- The policy that is implemented is the documented one unless the offset is
beyond the end of the log. -/
theorem landsInLog_iff
    {policy : KafkaFetchOffset}
    {config : KafkaClientConfig}
    {earliest latest current : Int}
    {q : KafkaPartition}
    (samePolicy : config.cStartOffset = policy)
    (ordered : earliest ≤ latest)
    (next : q.nextFetchOffset = policyOffset policy current
      (reportedOffset earliest latest (offsetTime config))) :
    LandsInLog policy earliest latest current q ↔
      policy = .fromEnd ∨ current ≤ latest := by
  unfold LandsInLog documentedOffset
  rw [next]
  by_cases atEnd : policy = .fromEnd
  · simp [policyOffset, reportedOffset, offsetTime, samePolicy, atEnd, ordered]
  · have asksEarliest : offsetTime config = offsetTimeEarliest := by
      simp [offsetTime, samePolicy, atEnd]
    have different : offsetTimeEarliest ≠ offsetTimeLatest := by decide
    rw [policyOffset, reportedOffset, asksEarliest, if_neg atEnd, if_neg atEnd,
      if_neg different]
    simp only [atEnd, false_or]
    split <;> omega

/-- The start policy lands where it is documented to exactly when it asks for
the end of the log or the offset is not beyond it, at construction and whenever
the answer to an offset request arrives after an error. -/
theorem start_policy_iff
    (crc32 : Bytes → UInt32)
    (p : KafkaPartition)
    (earliest latest : Int)
    (valid : ValidPartition p.topic p.partition 0)
    (nonnegative : 0 ≤ earliest)
    (ordered : earliest ≤ latest)
    (bounded : latest < 2 ^ 63) :
    (∀ surroundings q, AnswersMetadata surroundings.metadataRead →
      surroundings.offsetRead = .payload (p.offsetAnswer earliest latest) →
      p.init surroundings = .ok q →
      (LandsInLog p.config.cStartOffset earliest latest p.nextFetchOffset q ↔
        p.config.cStartOffset = .fromEnd ∨ p.nextFetchOffset ≤ latest)) ∧
    (∀ topicName partition highwaterMarkOffset set surroundings asked,
      ValidPartition topicName partition errorOffsetOutOfRange →
      -(2 ^ 63) ≤ highwaterMarkOffset → highwaterMarkOffset < 2 ^ 63 →
      p.onReadReady (.payload (fetchResponse topicName partition
        errorOffsetOutOfRange highwaterMarkOffset set)) surroundings =
        .ok asked →
      (∃ accepted, .write p.offsetBuffer accepted ∈ asked.trace) ∧
      ∀ history waiting later,
        Run (step crc32) (fun _ _ => True) asked history waiting →
        ∃ q, waiting.onReadReady (.payload (p.offsetAnswer earliest latest))
            later = .ok q ∧
          (LandsInLog p.config.cStartOffset earliest latest
              waiting.nextFetchOffset q ↔
            p.config.cStartOffset = .fromEnd ∨
              waiting.nextFetchOffset ≤ latest)) := by
  have reportedRange :
      -(2 ^ 63) ≤ reportedOffset earliest latest (offsetTime p.config) ∧
        reportedOffset earliest latest (offsetTime p.config) < 2 ^ 63 := by
    unfold reportedOffset
    split <;> omega
  constructor
  · intro surroundings q metadata offset returned
    exact landsInLog_iff rfl ordered (init_nextFetchOffset valid
      reportedRange.1 reportedRange.2 metadata offset returned)
  · intro topicName partition highwaterMarkOffset set surroundings asked
      validResponse lower upper returned
    refine ⟨onReadReady_outOfRange validResponse lower upper returned, ?_⟩
    intro history waiting later run
    have same : waiting.identity = p.identity :=
      (run_identity run).trans (onReadReady_transition crc32 returned).identity
    have sameTopic : waiting.topic = p.topic := congrArg Identity.topic same
    have samePartition : waiting.partition = p.partition :=
      congrArg Identity.partition same
    have sameConfig : waiting.config = p.config :=
      congrArg Identity.config same
    rw [← sameTopic, ← samePartition] at valid
    obtain ⟨q, read, next⟩ := onReadReady_offsetResponse valid
      reportedRange.1 reportedRange.2 later
    rw [sameTopic, samePartition] at read
    rw [sameConfig] at next
    exact ⟨q, read, landsInLog_iff rfl ordered next⟩

/-- A consumer of the topic `t` for which `getKafkaOffset` has found an offset. -/
def samplePositioned (nextFetchOffset : Int) : KafkaPartition :=
  { blank .consumer [116] 0 sampleBrokers
      { id := 1, host := [97], ip := [49], port := 9092 } {} with
    nextFetchOffset }

/-- A construction in which an offset request is answered. -/
def answeringSurroundings (answer : Bytes) : InitSurroundings :=
  { sampleSurroundings with offsetRead := .payload answer }

theorem answeringSurroundings_answersMetadata (answer : Bytes) :
    AnswersMetadata (answeringSurroundings answer).metadataRead := by
  intro payload same
  obtain rfl := ReadOutcome.payload.inj same
  decide +kernel

/-- A stored offset within the log is kept at construction, and one before it
is moved up in recovery. -/
theorem start_policy_iff_within :
    (∃ q, (samplePositioned 2).init (answeringSurroundings
        ((samplePositioned 2).offsetAnswer 0 3)) = .ok q ∧
      LandsInLog .fromStored 0 3 2 q) ∧
    ∃ asked q, (sampleConsumer {}).onReadReady
        (.payload (fetchResponse [116] 0 errorOffsetOutOfRange 3 [])) {} =
        .ok asked ∧
      asked.onReadReady (.payload ((sampleConsumer {}).offsetAnswer 1 3)) {} =
        .ok q ∧
      LandsInLog .fromStored 1 3 0 q := by
  have valid : ValidPartition [116] 0 0 := by
    decide
  have validError : ValidPartition [116] 0 errorOffsetOutOfRange := by
    decide
  constructor
  · obtain ⟨q, returned, -⟩ := exists_ok_of_any
      ((samplePositioned 2).init (answeringSurroundings
        ((samplePositioned 2).offsetAnswer 0 3)))
      (fun _ => true) (by decide +kernel)
    have lands := (start_policy_iff Crc32.checksum (samplePositioned 2) 0 3
      valid (by decide) (by decide) (by decide)).1
      (answeringSurroundings ((samplePositioned 2).offsetAnswer 0 3)) q
      (answeringSurroundings_answersMetadata _) rfl returned
    exact ⟨q, returned, lands.mpr (.inr (by decide))⟩
  · obtain ⟨asked, returned, unmoved⟩ := exists_ok_of_any
      ((sampleConsumer {}).onReadReady
        (.payload (fetchResponse [116] 0 errorOffsetOutOfRange 3 [])) {})
      (fun asked => asked.nextFetchOffset == 0) (by decide +kernel)
    obtain ⟨q, answered, lands⟩ := ((start_policy_iff Crc32.checksum
      (sampleConsumer {}) 1 3 valid (by decide) (by decide) (by decide)).2 [116] 0 3 [] {} asked validError
      (by decide) (by decide) returned).2 [] asked {} .nil
    have position : asked.nextFetchOffset = 0 := by simpa using unmoved
    rw [position] at lands
    exact ⟨asked, q, returned, answered, lands.mpr (.inr (by decide))⟩

/-- A stored offset beyond the end of the log stays where it is. -/
theorem beyond_end_stays :
    ∃ q disk, construct .consumer [116] 0 sampleBrokers
        { id := 1, host := [97], ip := [49], port := 9092 } {}
        (emptyDisk.write (offsetFileName emptyDisk.isDirectory {} [116] 0) [53])
        (answeringSurroundings ((samplePositioned 5).offsetAnswer 0 3)) =
        .ok (q, disk) ∧
      q.nextFetchOffset = 5 ∧ ¬ LandsInLog .fromStored 0 3 5 q := by
  obtain ⟨⟨q, disk⟩, returned, checked⟩ := exists_ok_of_any
    (construct .consumer [116] 0 sampleBrokers
      { id := 1, host := [97], ip := [49], port := 9092 } {}
      (emptyDisk.write (offsetFileName emptyDisk.isDirectory {} [116] 0) [53])
      (answeringSurroundings ((samplePositioned 5).offsetAnswer 0 3)))
    (fun result => result.1.nextFetchOffset == 5) (by decide +kernel)
  have position : q.nextFetchOffset = 5 := by simpa using checked
  refine ⟨q, disk, returned, position, ?_⟩
  intro lands
  have within := lands.2.2
  omega

end KafkaPartition
end AsyncKafka
