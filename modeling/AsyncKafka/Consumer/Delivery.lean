import AsyncKafka.Library.LogReader
import AsyncKafka.Partition.Frames
import AsyncKafka.Wire.Broker

/-!
# Delivery within a process

The consumer delivers the log from its start offset on, each message once and
in order, however its fetches overlap.  Every fetch asks for an offset that was
the next one when it was built, so an answer starts at or below the next
offset; the filter of `handleFetchResponse` drops what was delivered already,
and what is left continues where the last delivery ended.
-/

namespace AsyncKafka

open Wire Execution LogReader Broker

/-- The messages that an effect hands to the application. -/
def Effect.delivered : Effect → List Bytes
  | .receivedData messages => messages
  | _ => []

/-- The offsets that a frame asks for. -/
def WriteBuffer.fetchOffsets (buffer : WriteBuffer) : List Int :=
  match buffer.request with
  | some (.fetch request) => request.fetchOffsets
  | _ => []

namespace KafkaPartition

/-- All messages handed to the application so far. -/
def delivered (p : KafkaPartition) : List Bytes :=
  p.trace.flatMap Effect.delivered

/-- The offsets of the fetch requests handed to the kernel so far. -/
def requestedOffsets (p : KafkaPartition) : List Int :=
  p.handedFrames.flatMap WriteBuffer.fetchOffsets

/-- Consecutive messages of a log, from an offset on. -/
def IsLogSegment (log : Int → Bytes) : Int → List LogMessage → Prop
  | _, [] => True
  | first, message :: messages =>
      message.offset = first ∧ message.value = log first ∧ message.Valid ∧
        IsLogSegment log (first + 1) messages

/-- A payload that answers a fetch request which the partition has sent: an
error, or consecutive messages that begin at or below the offset asked for. -/
def IsFetchAnswer
    (log : Int → Bytes)
    (p : KafkaPartition)
    (payload : Bytes) : Prop :=
  ∃ topicName partition errorCode highwaterMarkOffset messages,
    ValidPartition topicName partition errorCode ∧
    -(2 ^ 63) ≤ highwaterMarkOffset ∧ highwaterMarkOffset < 2 ^ 63 ∧
    (messageSet messages).length < 2 ^ 31 ∧
    payload = fetchResponse topicName partition errorCode highwaterMarkOffset
      (messageSet messages) ∧
    ∃ asked ∈ p.requestedOffsets, errorCode ≠ 0 ∨
      ∃ first, first ≤ asked ∧ IsLogSegment log first messages

/-- A payload that answers an offset request: an error, no offset, or the
earliest offset of the log. -/
def IsOffsetAnswer (earliest : Int) (payload : Bytes) : Prop :=
  ∃ topicName partition errorCode offsets,
    ValidPartition topicName partition errorCode ∧
    (offsets = [] ∨ offsets = [earliest]) ∧
    -(2 ^ 63) ≤ earliest ∧ earliest < 2 ^ 63 ∧
    payload = offsetResponse topicName partition errorCode offsets

/-- The broker answers fetch and offset requests from its log.  Everything else
may happen at any time. -/
def BrokerServes
    (log : Int → Bytes)
    (earliest : Int)
    (p : KafkaPartition)
    (event : Event) : Prop :=
  ∀ payload surroundings, event = .readReady (.payload payload) surroundings →
    (correlationId payload = apiKeyFetchRequest → IsFetchAnswer log p payload) ∧
    (correlationId payload = apiKeyOffsetRequest →
      IsOffsetAnswer earliest payload)

/-- Of consecutive messages that begin at or below the next offset, the filter
delivers those from the next offset on. -/
theorem collectMessages_segment
    {log : Int → Bytes}
    (nonempty : ∀ offset, log offset ≠ [])
    {messages : List LogMessage}
    {first next : Int}
    (isSegment : IsLogSegment log first messages)
    (reaches : first ≤ next) :
    collectMessages (messages.map LogMessage.decoded) next =
      (segment log next (max next (first + messages.length)),
        max next (first + messages.length)) := by
  induction messages generalizing first next with
  | nil =>
      have same : max next (first + ([] : List LogMessage).length) = next := by
        simpa using reaches
      rw [same, segment_self]
      rfl
  | cons message messages inductionHypothesis =>
      obtain ⟨offset, value, valid, later⟩ := isSegment
      have lower := valid.lower
      have upper := valid.upper
      have count : first + ((message :: messages).length : Int) =
          first + 1 + messages.length := by
        push_cast [List.length_cons]
        ring
      rw [count]
      have decodedOffset : message.decoded.offset = first := offset
      have decodedValue : message.decoded.value = some (log first) := by
        simp [LogMessage.decoded, value, nonempty first]
      rw [List.map_cons, collectMessages, decodedOffset, decodedValue]
      by_cases isNext : next ≤ first
      · -- The message is the next one.
        obtain rfl : next = first := le_antisymm isNext reaches
        have wrapped : ByteOrder.wrap 64 (next + 1) = next + 1 :=
          ByteOrder.wrap_of_range (by decide) (by omega) (by omega)
        have bound : max next (next + 1 + messages.length) =
            max (next + 1) (next + 1 + (messages.length : Int)) := by omega
        have entries : segment log next
              (max (next + 1) (next + 1 + (messages.length : Int))) =
            log next :: segment log (next + 1)
              (max (next + 1) (next + 1 + (messages.length : Int))) :=
          segment_cons log (by omega)
        rw [if_pos le_rfl, wrapped, inductionHypothesis later le_rfl, bound,
          entries]
        rfl
      · rw [if_neg isNext, inductionHypothesis later (by omega)]

theorem Bookkeeping.delivered
    {p q : KafkaPartition}
    {effects : List Effect}
    (kept : Bookkeeping p effects q) :
    q.delivered = p.delivered := by
  obtain ⟨⟨_, _, _, _, _, _, _, _, _, _, _, rfl⟩, quiet⟩ := kept
  have nothing : effects.flatMap Effect.delivered = [] := by
    apply List.flatMap_eq_nil_iff.mpr
    intro effect member
    have isQuiet := quiet effect member
    cases effect with
    | receivedData messages => simp [Effect.isQuiet, Effect.isControl] at isQuiet
    | _ => rfl
  simp [KafkaPartition.delivered, List.flatMap_append, nothing]

theorem delivered_record_read (p : KafkaPartition) (payload : Bytes) :
    (p.record (.read payload)).delivered = p.delivered := by
  simp [delivered, record, List.flatMap_append, Effect.delivered]

/-- What is handed over is added to all that was delivered before. -/
theorem delivered_deliver
    {p : KafkaPartition}
    (registered : p.onReceivedData = true)
    (messages : MessageSet) :
    (p.deliver messages).delivered =
      p.delivered ++ (collectMessages messages p.nextFetchOffset).1 := by
  rw [delivered, (deliver_spec registered messages).1, List.flatMap_append]
  by_cases nothing : (collectMessages messages p.nextFetchOffset).1 = []
  · simp [delivered, nothing]
  · simp [delivered, nothing, Effect.delivered]

/-- Under a policy other than the end of the log, an offset response only moves
the next offset forward. -/
theorem resetOffset_of_le
    {p : KafkaPartition}
    {offset : Int}
    (policy : p.config.cStartOffset ≠ .fromEnd)
    (passed : offset ≤ p.nextFetchOffset) :
    p.resetOffset offset = p := by
  rw [resetOffset, if_neg policy, if_neg (by omega)]

/-- The offset that a partition takes from an offset response: the first one,
if the response is for this partition and carries no error. -/
theorem announcedOffset_offsetResponse
    {topicName : Bytes}
    {partition errorCode : Int}
    {offsets : List Int}
    (p : KafkaPartition)
    (valid : ValidPartition topicName partition errorCode)
    (few : offsets.length < 2 ^ 31)
    (validOffsets : ∀ offset ∈ offsets, -(2 ^ 63) ≤ offset ∧ offset < 2 ^ 63) :
    p.announcedOffset (offsetResponse topicName partition errorCode offsets) =
      if topicName = p.topic ∧ partition = p.partition ∧ errorCode = 0 then
        offsets.head?
      else none := by
  rw [announcedOffset, readOffsetResponse_offsets valid few validOffsets]
  by_cases sameTopic : topicName = p.topic
  · by_cases samePartition : partition = p.partition
    · by_cases fine : errorCode = 0 <;>
        simp [Except.toOption, OffsetResponse.topicPartitionOffset,
          findTopicPartition, findTopicByName, findTopicPartitionByNumber,
          sameTopic, samePartition, fine]
    · simp [Except.toOption, OffsetResponse.topicPartitionOffset,
        findTopicPartition, findTopicByName, findTopicPartitionByNumber,
        sameTopic, samePartition]
  · simp [Except.toOption, OffsetResponse.topicPartitionOffset,
      findTopicPartition, findTopicByName, sameTopic]

/-- The offset that an answer reports is the earliest one. -/
theorem announcedOffset_of_isOffsetAnswer
    {p : KafkaPartition}
    {earliest offset : Int}
    {payload : Bytes}
    (answer : IsOffsetAnswer earliest payload)
    (announced : p.announcedOffset payload = some offset) :
    offset = earliest := by
  obtain ⟨topicName, partition, errorCode, offsets, valid, kinds, lower, upper,
    rfl⟩ := answer
  have few : offsets.length < 2 ^ 31 := by
    rcases kinds with rfl | rfl <;> simp
  have validOffsets :
      ∀ offset ∈ offsets, -(2 ^ 63) ≤ offset ∧ offset < 2 ^ 63 := by
    intro other member
    rcases kinds with rfl | rfl
    · simp at member
    · obtain rfl := List.mem_singleton.mp member
      exact ⟨lower, upper⟩
  rw [announcedOffset_offsetResponse p valid few validOffsets] at announced
  split at announced
  · rcases kinds with rfl | rfl
    · cases announced
    · exact (Option.some.inj announced).symm
  · cases announced

/-- IsLogSegment collects the validity of all its messages. -/
theorem IsLogSegment.valid
    {log : Int → Bytes}
    {first : Int}
    {messages : List LogMessage}
    (isSegment : IsLogSegment log first messages) :
    ∀ message ∈ messages, message.Valid := by
  induction messages generalizing first with
  | nil => simp
  | cons message messages inductionHypothesis =>
      obtain ⟨-, -, valid, later⟩ := isSegment
      intro other member
      rcases List.mem_cons.mp member with rfl | inside
      · exact valid
      · exact inductionHypothesis later other inside

/-- A consumer whose fetches all ask for offsets that it has reached. -/
structure Fetching (earliest : Int) (p : KafkaPartition) : Prop where
  policy : p.config.cStartOffset ≠ .fromEnd
  registered : p.onReceivedData = true
  available : earliest ≤ p.nextFetchOffset
  reached : ∀ buffer ∈ p.frames, ∀ offset ∈ buffer.fetchOffsets,
    offset ≤ p.nextFetchOffset

/-- What is delivered of an answer continues at the next offset. -/
theorem deliver_advances
    {log : Int → Bytes}
    {earliest : Int}
    {p : KafkaPartition}
    {payload : Bytes}
    {response : FetchResponse}
    (nonempty : ∀ offset, log offset ≠ [])
    (fetching : Fetching earliest p)
    (answer : IsFetchAnswer log p payload)
    (readOk : readFetchResponse payload = .ok (response, 0)) :
    ∃ output,
      ((p.record (.read payload)).deliver response.messages).delivered =
        p.delivered ++ output ∧
      Advance log p.nextFetchOffset output
        ((p.record (.read payload)).deliver response.messages).nextFetchOffset := by
  have registered : (p.record (.read payload)).onReceivedData = true :=
    fetching.registered
  have sameNext : (p.record (.read payload)).nextFetchOffset =
      p.nextFetchOffset := rfl
  obtain ⟨topicName, partition, errorCode, highwaterMarkOffset, messages, valid,
    lower, upper, short, rfl, asked, sent, kinds⟩ := answer
  by_cases fine : errorCode = 0
  · subst fine
    obtain ⟨first, atMost, isSegment⟩ := kinds.resolve_left (by simp)
    have readMessages := readFetchResponse_messages valid lower upper short
      (readMessageSet_messageSet _ isSegment.valid short)
    rw [readMessages] at readOk
    obtain ⟨rfl, -⟩ := Prod.mk.inj (Except.ok.inj readOk)
    have reached : first ≤ p.nextFetchOffset := by
      obtain ⟨buffer, handed, inside⟩ := List.mem_flatMap.mp sent
      have behind := fetching.reached buffer
        (List.mem_append.mpr (.inl handed)) asked inside
      omega
    have collected := collectMessages_segment nonempty isSegment reached
    rw [FetchResponse.messages_single, delivered_deliver registered,
      (deliver_spec registered _).2.1, delivered_record_read, sameNext, collected]
    exact ⟨_, rfl, le_max_left _ _, rfl⟩
  · rw [readFetchResponse_error valid lower upper fine] at readOk
    exact absurd (Prod.mk.inj (Except.ok.inj readOk)).2 fine

/-- Every move of a consumer delivers what it passes of the log. -/
theorem Transition.advances
    {crc32 : Bytes → UInt32}
    {log : Int → Bytes}
    {earliest : Int}
    {p q : KafkaPartition}
    {event : Event}
    (nonempty : ∀ offset, log offset ≠ [])
    (fetching : Fetching earliest p)
    (serves : BrokerServes log earliest p event)
    (moved : Transition crc32 p event q) :
    ∃ output, q.delivered = p.delivered ++ output ∧
      Advance log p.nextFetchOffset output q.nextFetchOffset := by
  -- Most moves deliver nothing and leave the next offset as it is.
  have stays (same : q.delivered = p.delivered)
      (position : q.nextFetchOffset = p.nextFetchOffset) :
      ∃ output, q.delivered = p.delivered ++ output ∧
        Advance log p.nextFetchOffset output q.nextFetchOffset := by
    refine ⟨[], by rw [same, List.append_nil], ?_⟩
    rw [position]
    exact .stay log p.nextFetchOffset
  cases moved with
  | accept kept _ => exact stays kept.delivered kept.nextFetchOffset
  | drain _ kept => exact stays kept.delivered kept.nextFetchOffset
  | fetch kept => exact stays kept.delivered kept.nextFetchOffset
  | metadata kept => exact stays kept.delivered kept.nextFetchOffset
  | idle _ kept => exact stays kept.delivered kept.nextFetchOffset
  | write _ kept _ _ =>
      refine stays (kept.delivered.trans ?_) kept.nextFetchOffset
      simp [delivered, record, popWriteBuffer, List.flatMap_append,
        Effect.delivered]
  | lost _ kept => exact stays kept.delivered kept.nextFetchOffset
  | produced _ _ _ result kinds =>
      subst result
      refine stays ?_ rfl
      rcases kinds with rfl | ⟨offset, rfl⟩ <;>
        simp [delivered, List.flatMap_append, Effect.delivered]
  | refused _ _ _ _ kept _ result =>
      subst result
      exact stays (kept.delivered.trans (delivered_record_read p _))
        kept.nextFetchOffset
  | fetched fetch readOk kept =>
      obtain ⟨output, values, advance⟩ := deliver_advances nonempty fetching
        ((serves _ _ rfl).1 fetch) readOk
      exact ⟨output, kept.delivered.trans values,
        kept.nextFetchOffset ▸ advance⟩
  | @repositioned payload surroundings offset _ middle kind announced kept _ =>
      obtain rfl := announcedOffset_of_isOffsetAnswer
        ((serves _ _ rfl).2 kind) announced
      have samePolicy : middle.config = p.config :=
        congrArg Identity.config kept.identity
      have unmoved : middle.resetOffset offset = middle :=
        resetOffset_of_le (samePolicy ▸ fetching.policy)
          (kept.nextFetchOffset ▸ fetching.available)
      rw [unmoved] at stays ⊢
      exact stays (kept.delivered.trans (delivered_record_read p _))
        kept.nextFetchOffset
  | answered _ kept _ =>
      exact stays (kept.delivered.trans (delivered_record_read p _))
        kept.nextFetchOffset

/-! ## What fetches ask for -/

/-- A fetch asks for the next offset. -/
theorem fetchOffsets_fetchBuffer (p : KafkaPartition) :
    p.fetchBuffer.fetchOffsets = [p.nextFetchOffset] := rfl

theorem fetchOffsets_of_isControl
    {buffer : WriteBuffer}
    (control : buffer.isControl = true) :
    buffer.fetchOffsets = [] := by
  unfold WriteBuffer.isControl at control
  unfold WriteBuffer.fetchOffsets
  split at control <;> simp_all

theorem fetchOffsets_of_genuine
    {crc32 : Bytes → UInt32}
    {config : KafkaClientConfig}
    {buffer : WriteBuffer}
    (genuine : buffer.Genuine crc32 config) :
    buffer.fetchOffsets = [] := by
  obtain ⟨request, -, rfl⟩ := genuine
  rfl

/-- A move keeps the fetches behind the next offset: an old fetch because the
offset never goes back, a new one because it asks for the offset itself. -/
theorem Fetching.transition
    {crc32 : Bytes → UInt32}
    {earliest : Int}
    {p q : KafkaPartition}
    {event : Event}
    (fetching : Fetching earliest p)
    (forward : p.nextFetchOffset ≤ q.nextFetchOffset)
    (moved : Transition crc32 p event q) :
    Fetching earliest q := by
  have samePolicy : q.config = p.config := moved.config
  have sameCallback : q.onReceivedData = p.onReceivedData :=
    congrArg Identity.onReceivedData moved.identity
  refine ⟨samePolicy ▸ fetching.policy, sameCallback.trans fetching.registered,
    fetching.available.trans forward, ?_⟩
  intro buffer member offset asked
  rcases moved.mem_frames member with
    old | control | rfl | ⟨-, new⟩ | ⟨-, unreadable⟩
  · exact (fetching.reached buffer old offset asked).trans forward
  · simp [fetchOffsets_of_isControl control] at asked
  · rw [fetchOffsets_fetchBuffer, List.mem_singleton] at asked
    rw [asked]
    exact forward
  · simp [fetchOffsets_of_genuine (genuine_of_mem_produceBuffers new)] at asked
  · simp [WriteBuffer.fetchOffsets, unreadable] at asked

/-- Nothing was delivered while the partition was set up. -/
theorem Fresh.delivered
    {p : KafkaPartition}
    (fresh : Fresh p) :
    p.delivered = [] := by
  apply List.flatMap_eq_nil_iff.mpr
  intro effect member
  have prepared := fresh.preparation effect member
  cases effect with
  | receivedData messages =>
      simp [Effect.isPreparation, Effect.isQuiet, Effect.isControl] at prepared
  | _ => rfl

/-- A consumer that was just started has asked for nothing yet. -/
theorem StartedConsumer.fetching
    {earliest : Int}
    {p : KafkaPartition}
    (started : StartedConsumer p)
    (policy : p.config.cStartOffset ≠ .fromEnd)
    (available : earliest ≤ p.nextFetchOffset) :
    Fetching earliest p := by
  obtain ⟨fresh, -, registered⟩ := started.fresh
  refine ⟨policy, registered, available, ?_⟩
  intro buffer member offset asked
  have control := fresh.isControl_of_mem_frames member
  simp [fetchOffsets_of_isControl control] at asked

/-- Along a run against a broker that serves from its log, the consumer stays
behind its fetches and delivers the segment of the log that it passes. -/
theorem Fetching.run
    {crc32 : Bytes → UInt32}
    {log : Int → Bytes}
    {earliest : Int}
    {start p : KafkaPartition}
    {history : List Event}
    (nonempty : ∀ offset, log offset ≠ [])
    (fetching : Fetching earliest start)
    (run : Run (step crc32) (BrokerServes log earliest) start history p) :
    Fetching earliest p ∧ ∃ output, p.delivered = start.delivered ++ output ∧
      Advance log start.nextFetchOffset output p.nextFetchOffset := by
  refine contiguous log (Fetching earliest) delivered nextFetchOffset fetching
    ?_ run
  intro state event next held serves stepped
  have moved := step_transition stepped
  obtain ⟨output, emitted, advance⟩ := moved.advances nonempty held serves
  exact ⟨held.transition advance.1 moved, output, emitted, advance⟩

/-- What a consumer has delivered is the log from its start offset to its next
one, and the next offset never decreases. -/
theorem consumer_delivers_log
    {crc32 : Bytes → UInt32}
    {log : Int → Bytes}
    {earliest : Int}
    {start p : KafkaPartition}
    {history : List Event}
    (started : StartedConsumer start)
    (policy : start.config.cStartOffset ≠ .fromEnd)
    (nonempty : ∀ offset, log offset ≠ [])
    (available : earliest ≤ start.nextFetchOffset)
    (run : Run (step crc32) (BrokerServes log earliest) start history p) :
    p.delivered = segment log start.nextFetchOffset p.nextFetchOffset ∧
      ∀ event q, BrokerServes log earliest p event →
        step crc32 p event = .ok q → p.nextFetchOffset ≤ q.nextFetchOffset := by
  have fetching := started.fetching policy available
  obtain ⟨held, output, emitted, -, passed⟩ := fetching.run nonempty run
  constructor
  · rw [emitted, started.fresh.1.delivered, passed, List.nil_append]
  · intro event q serves stepped
    obtain ⟨_, _, forward, -⟩ :=
      (step_transition stepped).advances nonempty held serves
    exact forward

/-- A log whose values are letters. -/
def letterLog (offset : Int) : Bytes := [UInt8.ofInt (97 + offset)]

/-- The first messages of the log of letters. -/
def letterMessages (count : Nat) : List LogMessage :=
  (List.range count).map fun offset : Nat =>
    { offset, value := letterLog offset }

/-- An answer for topic `t` with the first messages of the log of letters. -/
def letterAnswer (count : Nat) : Bytes :=
  fetchResponse [116] 0 0 3 (messageSet (letterMessages count))

/-- The broker sends two or three letters once a fetch from its log was sent. -/
def servesLetters (p : KafkaPartition) : Event → Bool
  | .readReady (.payload payload) _ =>
      (payload == letterAnswer 2 || payload == letterAnswer 3) &&
        p.requestedOffsets.any fun offset => 0 ≤ offset
  | _ => true

theorem isFetchAnswer_letterAnswer
    {p : KafkaPartition}
    {count : Nat}
    {asked : Int}
    (few : count = 2 ∨ count = 3)
    (sent : asked ∈ p.requestedOffsets)
    (inLog : 0 ≤ asked) :
    IsFetchAnswer letterLog p (letterAnswer count) := by
  have valid (offset : Int) (lower : 0 ≤ offset) (upper : offset < 3) :
      LogMessage.Valid { offset, value := letterLog offset } := by
    refine ⟨?_, ?_, ?_⟩
    · simp [LogMessage.length_body, bytesWireSize, letterLog]
    · change -(2 ^ 63) ≤ offset
      omega
    · change offset < 2 ^ 63 - 1
      omega
  refine ⟨[116], 0, 0, 3, letterMessages count,
    by decide, by decide,
    by decide, ?_, rfl, asked, sent, .inr ⟨0, inLog, ?_⟩⟩
  · rcases few with rfl | rfl <;> decide
  · rcases few with rfl | rfl <;>
      simp [letterMessages, List.range_succ, IsLogSegment, valid]

theorem brokerServes_of_servesLetters
    {p : KafkaPartition}
    {event : Event}
    (serves : servesLetters p event = true)
    (earliest : Int) :
    BrokerServes letterLog earliest p event := by
  rintro payload surroundings rfl
  simp only [servesLetters, Bool.and_eq_true, Bool.or_eq_true, beq_iff_eq,
    List.any_eq_true, decide_eq_true_eq] at serves
  obtain ⟨answers, asked, sent, inLog⟩ := serves
  obtain ⟨count, few, rfl⟩ :
      ∃ count, (count = 2 ∨ count = 3) ∧ payload = letterAnswer count := by
    rcases answers with two | three
    · exact ⟨2, .inl rfl, two⟩
    · exact ⟨3, .inr rfl, three⟩
  refine ⟨fun _ => isFetchAnswer_letterAnswer few sent inLog, ?_⟩
  intro offset
  rcases few with rfl | rfl <;> exact absurd offset (by decide +kernel)

/-- Two overlapping fetches of a consumer that was paused and resumed: the
second answer repeats what the first one had delivered. -/
theorem consumer_delivers_log_overlapping :
    ∃ p, Run (step Crc32.checksum) (BrokerServes letterLog 0)
        (sampleConsumer {})
        [.fetchEvent, .writeReady .written, .pauseFetch, .resumeFetch,
          .fetchEvent, .writeReady .written,
          .readReady (.payload (letterAnswer 2)) {},
          .readReady (.payload (letterAnswer 3)) {}] p ∧
      p.nextFetchOffset = 3 ∧ p.delivered = segment letterLog 0 3 := by
  obtain ⟨p, run, reached⟩ := exists_run_of_follow (step Crc32.checksum)
    (fun p event => servesLetters p event = true) (sampleConsumer {})
    [.fetchEvent, .writeReady .written, .pauseFetch, .resumeFetch,
      .fetchEvent, .writeReady .written,
      .readReady (.payload (letterAnswer 2)) {},
      .readReady (.payload (letterAnswer 3)) {}]
    (fun p => p.nextFetchOffset == 3) (by decide +kernel)
  have served := run.mono fun _ _ serves =>
    brokerServes_of_servesLetters serves 0
  have position : p.nextFetchOffset = 3 := by simpa using reached
  have delivers := (consumer_delivers_log
    (sampleConsumer_started {} (by decide +kernel))
    (by decide) (by simp [letterLog]) (by decide) served).1
  refine ⟨p, served, position, ?_⟩
  rw [delivers, position]
  rfl

end KafkaPartition
end AsyncKafka
