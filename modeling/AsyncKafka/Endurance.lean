import AsyncKafka.Client.Producer
import AsyncKafka.Consumer.Birth
import AsyncKafka.Consumer.StartPolicy
import AsyncKafka.Partition.Failover
import AsyncKafka.Partition.Handling
import AsyncKafka.Producer.Destruction
import AsyncKafka.Producer.InTransit
import AsyncKafka.Producer.Intake
import AsyncKafka.Wire.Nested

/-!
# What stops a partition

The handlers look at little of what they get.  Here are the inputs on which one
of them does stop (an undefined step, a failed assertion or an exception that
nobody catches), and no others: a partition that was started returns from every
other event, in whatever state its calls have left it.  Among brokers that
follow the protocol none of these inputs occurs.
-/

namespace AsyncKafka

open Wire Execution

namespace KafkaPartition

/-- Whether a write loses one connection after the other until the list has no
broker but the leader.  The code then dereferences the end of the list. -/
def WriteOutcome.strands (brokers : List KafkaBroker) :
    KafkaBroker → WriteOutcome → Bool
  | leader, .reset connect next =>
      (candidate brokers leader).elim true fun broker =>
        connect.isSome && next.strands brokers broker
  | _, _ => false

/-- With two brokers in the list there is always another one to turn to. -/
theorem HasTwoBrokers.strands
    {p : KafkaPartition}
    (two : p.HasTwoBrokers)
    (leader : KafkaBroker)
    (outcome : WriteOutcome) :
    outcome.strands p.brokers leader = false := by
  induction outcome generalizing leader with
  | written | short | failed => rfl
  | reset connect next inductionHypothesis =>
      obtain ⟨broker, found⟩ := two.exists_candidate leader
      rw [WriteOutcome.strands, found, Option.elim_some,
        inductionHypothesis broker, Bool.and_false]

/-- A reconnect returns unless it runs out of brokers, if writing does. -/
theorem reconnect_returns_iff
    {p : KafkaPartition}
    {connect : Option Int}
    {writes : WriteOutcome}
    (awake : p.Awake)
    (writing : ∀ q : KafkaPartition, q.Awake → q.writeBuffers ≠ [] →
      ((∃ r, q.onWriteReady writes = .ok r) ↔
        writes.strands q.brokers q.leader = false)) :
    (∃ q, p.reconnect connect writes = .ok q) ↔
      (WriteOutcome.reset connect writes).strands p.brokers p.leader =
        false := by
  cases found : candidate p.brokers p.leader with
  | none =>
      rw [reconnect_of_none found, WriteOutcome.strands, found]
      constructor
      · rintro ⟨q, returned⟩
        cases returned
      · intro stranded
        cases stranded
  | some broker =>
      rw [reconnect_of_some found, WriteOutcome.strands, found,
        Option.elim_some]
      cases connect with
      | none => exact ⟨fun _ => rfl, fun _ => ⟨_, rfl⟩⟩
      | some fd =>
          rw [Option.isSome_some, if_pos rfl, Bool.true_and]
          -- The metadata request is in front, on the connection to the broker.
          generalize asked : (p.moveTo broker (some fd)).createMetadataRequest = q
          have front : q.writeBuffers = p.metadataBuffer :: p.writeBuffers := by
            rw [← asked]
            rfl
          have stillAwake : q.Awake := by
            rw [← asked]
            exact awake
          have sameBrokers : q.brokers = p.brokers := by
            rw [← asked]
            rfl
          have newLeader : q.leader = broker := by
            rw [← asked]
            rfl
          have wrote := writing q stillAwake (by rw [front]; simp)
          rw [sameBrokers, newLeader] at wrote
          rw [← wrote]
          constructor
          · rintro ⟨r, returned⟩
            obtain ⟨written, first, -⟩ := bind_eq_ok.mp returned
            exact ⟨written, first⟩
          · rintro ⟨written, first⟩
            obtain ⟨r, woken⟩ := (exists_wakeupFetchOfConsumer_iff written).mpr
              ((awake_onWriteReady front first).mpr stillAwake)
            exact ⟨r, bind_eq_ok.mpr ⟨written, first, woken⟩⟩

/-- Writing returns unless it runs out of brokers. -/
theorem onWriteReady_returns_iff
    {p : KafkaPartition}
    (outcome : WriteOutcome)
    (awake : p.Awake)
    (waiting : p.writeBuffers ≠ []) :
    (∃ q, p.onWriteReady outcome = .ok q) ↔
      outcome.strands p.brokers p.leader = false := by
  obtain ⟨req, rest, front⟩ := List.exists_cons_of_ne_nil waiting
  induction outcome generalizing p req rest with
  | written | short | failed =>
      rw [onWriteReady_unreset front rfl]
      exact ⟨fun _ => rfl, fun _ => ⟨_, rfl⟩⟩
  | reset connect next inductionHypothesis =>
      rw [onWriteReady_eq_reconnect front]
      apply reconnect_returns_iff
        (p := (p.popWriteBuffer req rest).record (.write req none)) awake
      intro q qAwake qWaiting
      obtain ⟨first, others, qFront⟩ := List.exists_cons_of_ne_nil qWaiting
      exact inductionHypothesis qAwake qWaiting first others qFront

/-- The reaction to an error code returns unless its request runs out of
brokers. -/
theorem handleErrorCode_returns_iff
    {p : KafkaPartition}
    (ec : Int)
    (writes : WriteOutcome)
    (awake : p.Awake) :
    (∃ q, p.handleErrorCode ec writes = .ok q) ↔
      (errorNeedsRequest ec && writes.strands p.brokers p.leader) = false := by
  cases needs : errorNeedsRequest ec with
  | false =>
      rw [Bool.false_and]
      refine ⟨fun _ => rfl, fun _ => ⟨p, ?_⟩⟩
      simp only [errorNeedsRequest, Bool.or_eq_false_iff, beq_eq_false_iff_ne]
        at needs
      simp only [handleErrorCode, handleKafkaError, needs, false_or, if_false,
        ite_self]
  | true =>
      rw [Bool.true_and]
      have failed : ec ≠ 0 := by
        rintro rfl
        cases needs
      unfold handleErrorCode handleKafkaError
      rw [if_pos failed]
      split
      · exact onWriteReady_returns_iff (p := p.createOffsetRequest) writes awake
          (List.cons_ne_nil _ _)
      · rename_i inRange
        rw [if_pos]
        · exact onWriteReady_returns_iff (p := p.createMetadataRequest) writes
            awake (List.cons_ne_nil _ _)
        · simpa [errorNeedsRequest, inRange] using needs

/-- Whether the handler that a payload is dispatched to can read it.  A decoder
stops only where a count is not one of a vector. -/
def readable (payload : Bytes) : Bool :=
  if correlationId payload = apiKeyProduceRequest then
    (readProduceResponse payload).isOk
  else if correlationId payload = apiKeyFetchRequest then
    (readFetchResponse payload).isOk
  else if correlationId payload = apiKeyMetadataRequest then
    (readMetadataResponse payload).isOk
  else if correlationId payload = apiKeyOffsetRequest then
    (readOffsetResponse payload).isOk
  else true

/-- Whether a payload stops its handler: it cannot be read, it answers a produce
request that is not in transit, or it carries an error code for which the
handler writes and runs out of brokers. -/
def payloadStops
    (p : KafkaPartition)
    (payload : Bytes)
    (surroundings : Surroundings) : Bool :=
  !readable payload ||
    (correlationId payload == apiKeyProduceRequest &&
        p.inTransitProduceRequest.isEmpty ||
      errorNeedsRequest (responseError payload) &&
        surroundings.writes.strands p.brokers p.leader)

/-- The reaction to an error code leaves the type of the partition, its fetch
event and the number of requests in transit. -/
theorem handleErrorCode_leaves
    {p q : KafkaPartition}
    {ec : Int}
    {writes : WriteOutcome}
    (reacted : p.handleErrorCode ec writes = .ok q) :
    (q.Awake ↔ p.Awake) ∧
      q.inTransitProduceRequest.length = p.inTransitProduceRequest.length := by
  obtain ⟨effects, handled, -⟩ := handleErrorCode_spec reacted
  have identity := (Bookkeeping.of_connectionOnly handled).identity
  have sameType : q.partitionType = p.partitionType :=
    congrArg Identity.partitionType identity
  obtain ⟨-, born, -, -, transit⟩ := (handleErrorCode_line reacted).keeps
  refine ⟨?_, transit⟩
  have sameOpen : q.fetchEvent.isOpen = p.fetchEvent.isOpen := born
  unfold Awake
  rw [sameType, sameOpen]

/-- A produce response is handled when a request is in transit and the reaction
to its error code returns. -/
theorem handleProduceResponse_returns_iff
    {p : KafkaPartition}
    {payload : Bytes}
    {surroundings : Surroundings}
    {response : ProduceResponse}
    {ec : Int}
    (awake : p.Awake)
    (readOk : readProduceResponse payload = .ok (response, ec)) :
    (∃ q, p.handleProduceResponse payload surroundings = .ok q) ↔
      p.inTransitProduceRequest ≠ [] ∧
        (errorNeedsRequest ec &&
          surroundings.writes.strands p.brokers p.leader) = false := by
  rw [← handleErrorCode_returns_iff ec surroundings.writes awake]
  constructor
  · rintro ⟨q, returned⟩
    unfold handleProduceResponse at returned
    rw [readOk, ok_bind] at returned
    by_cases fine : ec = 0
    · subst fine
      refine ⟨?_, p, rfl⟩
      intro nothing
      simp [acknowledge, nothing] at returned
    · simp only [ne_eq, fine, not_false_eq_true, if_true] at returned
      obtain ⟨middle, reacted, requeued⟩ := bind_eq_ok.mp returned
      have handled : p.handleErrorCode ec surroundings.writes = .ok middle :=
        (if_pos fine).trans reacted
      refine ⟨?_, middle, handled⟩
      intro nothing
      have empty : middle.inTransitProduceRequest = [] := by
        apply List.eq_nil_of_length_eq_zero
        rw [(handleErrorCode_leaves handled).2, nothing, List.length_nil]
      simp [returnRequest, empty] at requeued
  · rintro ⟨nonempty, middle, reacted⟩
    apply handleProduceResponse_returns readOk reacted
    apply List.ne_nil_of_length_pos
    rw [(handleErrorCode_leaves reacted).2]
    exact List.length_pos_of_ne_nil nonempty

/-- A fetch response is handled when the reaction to its error code returns. -/
theorem handleFetchResponse_returns_iff
    {p : KafkaPartition}
    {payload : Bytes}
    {surroundings : Surroundings}
    {response : FetchResponse}
    {ec : Int}
    (awake : p.Awake)
    (readOk : readFetchResponse payload = .ok (response, ec)) :
    (∃ q, p.handleFetchResponse payload surroundings = .ok q) ↔
      (errorNeedsRequest ec &&
        surroundings.writes.strands p.brokers p.leader) = false := by
  rw [← handleErrorCode_returns_iff ec surroundings.writes awake]
  unfold handleFetchResponse
  rw [readOk, ok_bind]
  by_cases fine : ec = 0
  · subst fine
    simp only [ne_eq, not_true_eq_false, if_false]
    refine ⟨fun _ => ⟨p, rfl⟩, fun _ => ?_⟩
    rw [exists_wakeupFetchOfConsumer_iff]
    obtain ⟨effects, same, -⟩ := deliver_eq p response.messages
    rw [same]
    exact awake
  · simp only [ne_eq, fine, not_false_eq_true, if_true, handleErrorCode]
    constructor
    · rintro ⟨q, returned⟩
      obtain ⟨middle, reacted, -⟩ := bind_eq_ok.mp returned
      exact ⟨middle, reacted⟩
    · rintro ⟨middle, reacted⟩
      have handled : p.handleErrorCode ec surroundings.writes = .ok middle :=
        (if_pos fine).trans reacted
      obtain ⟨q, woken⟩ := (exists_wakeupFetchOfConsumer_iff middle).mpr
        ((handleErrorCode_leaves handled).1.mpr awake)
      exact ⟨q, bind_eq_ok.mpr ⟨middle, reacted, woken⟩⟩

/-- A metadata response that can be read is handled. -/
theorem handleMetadataResponse_returns
    {p : KafkaPartition}
    {payload : Bytes}
    {surroundings : Surroundings}
    {response : MetadataResponse}
    {ec : Int}
    (awake : p.Awake)
    (readOk : readMetadataResponse payload = .ok (response, ec)) :
    ∃ q, p.handleMetadataResponse payload surroundings = .ok q := by
  obtain ⟨leader, handled⟩ := p.handleMetadataResponse_eq surroundings readOk
  rw [handled]
  split
  · rw [exists_wakeupFetchOfConsumer_iff]
    unfold moveTo
    split <;> exact awake
  · exact ⟨p, rfl⟩

/-- An offset response is handled when the reaction to its error code
returns. -/
theorem handleOffsetResponse_returns_iff
    {p : KafkaPartition}
    {payload : Bytes}
    {surroundings : Surroundings}
    {response : OffsetResponse}
    {ec : Int}
    (awake : p.Awake)
    (readOk : readOffsetResponse payload = .ok (response, ec)) :
    (∃ q, p.handleOffsetResponse payload surroundings = .ok q) ↔
      (errorNeedsRequest ec &&
        surroundings.writes.strands p.brokers p.leader) = false := by
  rw [← handleErrorCode_returns_iff ec surroundings.writes awake]
  unfold handleOffsetResponse
  rw [readOk, ok_bind]
  constructor
  · rintro ⟨q, returned⟩
    obtain ⟨middle, reacted, -⟩ := bind_eq_ok.mp returned
    exact ⟨middle, reacted⟩
  · rintro ⟨middle, reacted⟩
    exact ⟨_, bind_eq_ok.mpr ⟨middle, reacted, rfl⟩⟩

/-- A handler that begins with reading stops when the reading does. -/
theorem unread_returns_iff
    {decoded : Except Halt α}
    {halt : Halt}
    (unread : decoded = .error halt)
    (handle : α → Except Halt KafkaPartition)
    (other : Bool) :
    (∃ q, decoded >>= handle = .ok q) ↔
      (!(Except.error halt : Except Halt α).isOk || other) = false := by
  apply iff_of_false
  · rintro ⟨q, returned⟩
    obtain ⟨result, readOk, -⟩ := bind_eq_ok.mp returned
    rw [unread] at readOk
    cases readOk
  · intro isOk
    cases isOk

/-- Only what `payloadStops` lists stops the dispatch of a payload. -/
theorem dispatchResponse_returns_iff
    {p : KafkaPartition}
    (payload : Bytes)
    (surroundings : Surroundings)
    (awake : p.Awake) :
    (∃ q, p.dispatchResponse payload surroundings = .ok q) ↔
      p.payloadStops payload surroundings = false := by
  unfold dispatchResponse payloadStops readable responseError
  by_cases isProduce : correlationId payload = apiKeyProduceRequest
  · simp only [isProduce, if_true, beq_self_eq_true, Bool.true_and]
    cases read : readProduceResponse payload with
    | error halt => exact unread_returns_iff read _ _
    | ok result =>
        obtain ⟨response, ec⟩ := result
        rw [handleProduceResponse_returns_iff awake read, reportedError_ok]
        cases p.inTransitProduceRequest <;> simp [Except.isOk, Except.toBool]
  have notProduce : (correlationId payload == apiKeyProduceRequest) = false :=
    beq_eq_false_iff_ne.mpr isProduce
  simp only [isProduce, notProduce, if_false, Bool.false_and, Bool.false_or]
  by_cases isFetch : correlationId payload = apiKeyFetchRequest
  · simp only [isFetch, if_true]
    cases read : readFetchResponse payload with
    | error halt => exact unread_returns_iff read _ _
    | ok result =>
        obtain ⟨response, ec⟩ := result
        rw [handleFetchResponse_returns_iff awake read, reportedError_ok]
        simp [Except.isOk, Except.toBool]
  simp only [isFetch, if_false]
  by_cases isMetadata : correlationId payload = apiKeyMetadataRequest
  · simp only [isMetadata, if_true]
    cases read : readMetadataResponse payload with
    | error halt => exact unread_returns_iff read _ _
    | ok result =>
        obtain ⟨response, ec⟩ := result
        apply iff_of_true (handleMetadataResponse_returns awake read)
        rw [if_neg (by decide)]
        rfl
  simp only [isMetadata, if_false]
  by_cases isOffset : correlationId payload = apiKeyOffsetRequest
  · simp only [isOffset, if_true]
    cases read : readOffsetResponse payload with
    | error halt => exact unread_returns_iff read _ _
    | ok result =>
        obtain ⟨response, ec⟩ := result
        rw [handleOffsetResponse_returns_iff awake read, reportedError_ok]
        simp [Except.isOk, Except.toBool]
  · simp only [isOffset, if_false]
    exact iff_of_true ⟨p, rfl⟩ rfl

/-! ## Events -/

/-- Whether an event stops its handler. -/
def stops (p : KafkaPartition) : Event → Bool
  | .readReady (.payload payload) surroundings =>
      -- The identifier is copied from four bytes, and must not be -1.
      payload.length < 4 || correlationId payload == -1 ||
        p.payloadStops payload surroundings
  | .readReady .closed surroundings =>
      (WriteOutcome.reset surroundings.connect surroundings.writes).strands
        p.brokers p.leader
  | .readReady .reset surroundings =>
      (WriteOutcome.reset surroundings.connect surroundings.writes).strands
        p.brokers p.leader
  | .writeReady outcome =>
      !p.writeBuffers.isEmpty && outcome.strands p.brokers p.leader
  | _ => false

/-- With nothing to write the partition only stops waiting for the socket to
become writable. -/
theorem onWriteReady_idle
    {p : KafkaPartition}
    (nothing : p.writeBuffers = [])
    (outcome : WriteOutcome) :
    p.onWriteReady outcome = .ok (p.registerSocket ⟨true, false⟩ true) := by
  unfold onWriteReady
  simp only [nothing]

/-- The events of a producer and of a consumer: only a producer is handed
messages, and only a consumer is resumed. -/
def Suits (p : KafkaPartition) : Event → Prop
  | .produce _ => p.partitionType = .producer
  | .produceAll _ => p.partitionType = .producer
  | .resumeFetch => p.partitionType = .consumer
  | _ => True

/-- A partition whose event sources have been initialised, those which it
needs. -/
structure Equipped (p : KafkaPartition) : Prop where
  awake : p.Awake
  accepting : p.partitionType = .producer → p.Accepting

theorem readError_returns_iff
    {p : KafkaPartition}
    (surroundings : Surroundings)
    (awake : p.Awake) :
    (∃ q, p.readError surroundings = .ok q) ↔
      (WriteOutcome.reset surroundings.connect surroundings.writes).strands
        p.brokers p.leader = false := by
  unfold readError
  apply reconnect_returns_iff awake
  intro q qAwake waiting
  exact onWriteReady_returns_iff _ qAwake waiting

theorem onReadReady_returns_iff
    {p : KafkaPartition}
    (received : ReadOutcome)
    (surroundings : Surroundings)
    (awake : p.Awake) :
    (∃ q, p.onReadReady received surroundings = .ok q) ↔
      p.stops (.readReady received surroundings) = false := by
  cases received with
  | closed => exact readError_returns_iff surroundings awake
  | reset => exact readError_returns_iff surroundings awake
  | failed => exact iff_of_true ⟨p, rfl⟩ rfl
  | payload payload =>
      unfold onReadReady stops
      by_cases short : payload.length < 4
      · simp [short]
      by_cases missing : correlationId payload = -1
      · simp [short, missing]
      · simp only [short, missing, if_false, decide_false, Bool.false_or,
          beq_eq_false_iff_ne.mpr missing]
        exact dispatchResponse_returns_iff (p := p.record (.read payload))
          payload surroundings awake

/-- A partition stops on the events of `stops` and on no others. -/
theorem step_returns_iff
    (crc32 : Bytes → UInt32)
    {p : KafkaPartition}
    {event : Event}
    (equipped : p.Equipped)
    (suits : p.Suits event) :
    (∃ q, step crc32 p event = .ok q) ↔ p.stops event = false := by
  cases event with
  | produce msg =>
      obtain ⟨q, accepted, -⟩ := (equipped.accepting suits).produce msg
      exact iff_of_true ⟨q, accepted⟩ rfl
  | produceAll msgs =>
      obtain ⟨q, accepted, -⟩ := (equipped.accepting suits).produceAll msgs
      exact iff_of_true ⟨q, accepted⟩ rfl
  | pauseFetch | batchTimer | metadataTimer | commitTimer =>
      exact iff_of_true ⟨_, rfl⟩ rfl
  | resumeFetch =>
      apply iff_of_true _ rfl
      simp only [step, resumeFetch]
      split
      · obtain ⟨next, woken, -⟩ := wakeup_returns (equipped.awake suits)
        exact ⟨_, bind_eq_ok.mpr ⟨next, woken, rfl⟩⟩
      · exact ⟨p, rfl⟩
  | produceEvent | produceMsgQEvent | fetchEvent =>
      apply iff_of_true _ rfl
      simp only [step]
      split <;> exact ⟨_, rfl⟩
  | readReady received surroundings =>
      exact onReadReady_returns_iff received surroundings equipped.awake
  | writeReady outcome =>
      cases front : p.writeBuffers with
      | nil =>
          apply iff_of_true _ (by simp [stops, front])
          exact ⟨_, onWriteReady_idle front outcome⟩
      | cons req rest =>
          have waiting : p.writeBuffers ≠ [] := by
            rw [front]
            exact List.cons_ne_nil req rest
          simp only [stops, front, List.isEmpty_cons, Bool.not_false,
            Bool.true_and]
          exact onWriteReady_returns_iff outcome equipped.awake waiting

/-- Whether a call initialises the events of a producer. -/
def Call.startsProduce : Call → Bool
  | .startProduce _ _ _ => true
  | _ => false

/-- Handling an event of a wakeup source closes no descriptor. -/
theorem isOpen_handleEvent (source : WakeupEventSource) :
    source.handleEvent.2.isOpen = source.isOpen := by
  rw [WakeupEventSource.handleEvent_eq]
  split
  · rfl
  · exact WakeupEventSource.isOpen_setCounter source 0

/-- A partition with the same intake accepts messages as well. -/
theorem Accepting.congr
    {p q : KafkaPartition}
    (accepting : Accepting p)
    (same : q.intake = p.intake) :
    Accepting q := by
  have sameProduce : q.produceEvent = p.produceEvent :=
    congrArg Intake.produceEvent same
  have sameQueue : q.produceMsgQEvent = p.produceMsgQEvent :=
    congrArg Intake.produceMsgQEvent same
  refine ⟨?_, ?_⟩
  · rw [sameProduce]
    exact accepting.produceEvent
  · rw [sameQueue]
    exact accepting.produceMsgQEvent

/-- The descriptors of the two produce events stay open. -/
theorem Accepting.step
    {crc32 : Bytes → UInt32}
    {p q : KafkaPartition}
    {event : Event}
    (accepting : Accepting p)
    (stepped : KafkaPartition.step crc32 p event = .ok q) :
    Accepting q := by
  cases event with
  | produce msg =>
      obtain ⟨next, accepted, still⟩ := accepting.produce msg
      obtain rfl := Except.ok.inj (accepted.symm.trans stepped)
      exact still
  | produceAll msgs =>
      obtain ⟨next, accepted, still⟩ := accepting.produceAll msgs
      obtain rfl := Except.ok.inj (accepted.symm.trans stepped)
      exact still
  | produceEvent =>
      have opened := (isOpen_handleEvent p.produceEvent).trans
        accepting.produceEvent
      simp only [KafkaPartition.step] at stepped
      split at stepped
      all_goals
        rename_i handled
        rw [handled] at opened
        obtain rfl := Except.ok.inj stepped
        exact ⟨opened, accepting.produceMsgQEvent⟩
  | produceMsgQEvent =>
      have opened := (isOpen_handleEvent p.produceMsgQEvent).trans
        accepting.produceMsgQEvent
      simp only [KafkaPartition.step] at stepped
      split at stepped
      · rename_i handled
        rw [handled] at opened
        obtain rfl := Except.ok.inj stepped
        exact ⟨accepting.produceEvent, opened⟩
      · rename_i handled
        rw [handled] at opened
        obtain rfl := Except.ok.inj stepped
        unfold notifyProduceMsgQ
        split <;> exact ⟨accepting.produceEvent, opened⟩
  | batchTimer =>
      obtain rfl := Except.ok.inj stepped
      exact ⟨accepting.produceEvent, accepting.produceMsgQEvent⟩
  | pauseFetch | resumeFetch | fetchEvent | metadataTimer | commitTimer
    | readReady _ _ | writeReady _ =>
      exact accepting.congr (step_intake rfl stepped)

/-- Once the produce events have been initialised the partition accepts
messages. -/
theorem accepting_of_startsProduce
    {crc32 : Bytes → UInt32}
    {allowed : KafkaPartition → Call → Prop}
    {start p : KafkaPartition}
    {history : List Call}
    (run : Run (perform crc32) allowed start history p)
    (started : history.any Call.startsProduce = true) :
    Accepting p := by
  revert started
  apply run.invariant fun history p =>
    history.any Call.startsProduce = true → Accepting p
  · intro started
    cases started
  · intro history state call next before _ performed started
    rw [List.any_append, Bool.or_eq_true] at started
    cases call with
    | startProduce eventFd queueFd timerFd =>
        exact startProduce_accepting performed
    | connect _ | offsetRequest | callbacks _ _ _ =>
        have accepting := before (started.resolve_right (by simp [Call.startsProduce]))
        obtain rfl := Except.ok.inj performed
        exact ⟨accepting.produceEvent, accepting.produceMsgQEvent⟩
    | armTimer _ =>
        have accepting := before (started.resolve_right (by simp [Call.startsProduce]))
        obtain ⟨_, -, rfl⟩ := perform_armTimer performed
        exact ⟨accepting.produceEvent, accepting.produceMsgQEvent⟩
    | startFetch _ _ =>
        obtain ⟨_, -, performed⟩ := bind_eq_ok.mp performed
        exact (before (started.resolve_right (by simp [Call.startsProduce]))).congr
          (ConnectionOnly.wakeupFetchOfConsumer performed).intake
    | event event =>
        exact (before (started.resolve_right (by simp [Call.startsProduce]))).step
          performed

/-- A life in which the events that the partition needs have been initialised,
those of its type. -/
def Started (history : List Call) (p : KafkaPartition) : Prop :=
  match p.partitionType with
  | .consumer => history.any Call.startsFetch = true
  | .producer => history.any Call.startsProduce = true

theorem Started.equipped
    {crc32 : Bytes → UInt32}
    {allowed : KafkaPartition → Call → Prop}
    {start p : KafkaPartition}
    {history : List Call}
    (started : Started history p)
    (run : Run (perform crc32) allowed start history p) :
    p.Equipped := by
  unfold Started at started
  cases partitionType : p.partitionType with
  | consumer =>
      rw [partitionType] at started
      refine ⟨fun _ => born_of_startsFetch run started, ?_⟩
      intro producer
      rw [partitionType] at producer
      cases producer
  | producer =>
      rw [partitionType] at started
      refine ⟨?_, fun _ => accepting_of_startsProduce run started⟩
      intro consumer
      rw [partitionType] at consumer
      cases consumer

/-- The payloads that a broker sends: answers to the four requests, for any
topics and partitions and with any error codes.  The message sets of a fetch
response for several partitions are whole; in the place of that of a single one,
which is all that the client asks for, any bytes may stand: the last message cut
short, keys and values absent. -/
inductive Answer : Bytes → Prop
  | produced
      {topics : List (Topic ProduceResponsePartition)} :
      Broker.Sendable Broker.AcknowledgementFits topics →
      Answer (Broker.produceResponses topics)
  | fetched
      {topics : List (Topic Broker.Fetched)} :
      Broker.Sendable Broker.FetchedFits topics →
      Answer (Broker.fetchResponses topics)
  | fetchedSet
      {topicName set : Bytes}
      {partition errorCode highwaterMarkOffset : Int} :
      Broker.ValidPartition topicName partition errorCode →
      -(2 ^ 63) ≤ highwaterMarkOffset → highwaterMarkOffset < 2 ^ 63 →
      set.length < 2 ^ 31 →
      Answer (Broker.fetchResponse topicName partition errorCode
        highwaterMarkOffset set)
  | offsets
      {topics : List (Topic OffsetResponsePartition)} :
      Broker.Sendable Broker.OffsetsFit topics →
      Answer (Broker.offsetResponses topics)
  | metadata
      {response : MetadataResponse} :
      Broker.MetadataFits response →
      Answer (Broker.metadataResponse response)

/-- What is asked of an event: a payload is an answer, and one to a produce
request only if such a request was sent on the connection and not yet
answered. -/
def Answers (p : KafkaPartition) : Event → Prop
  | .readReady (.payload payload) _ =>
      Answer payload ∧ (correlationId payload = apiKeyProduceRequest →
        0 < p.exchange.produces)
  | _ => True

/-- A payload that begins with a small identifier carries that one. -/
theorem correlationId_answer
    {identifier : Int}
    (named : 0 ≤ identifier ∧ identifier < 4)
    (block : Bytes) :
    correlationId (writeInt32 identifier ++ block) = identifier :=
  correlationId_append (by omega) (by omega) block

/-- An answer begins with the identifier of a request. -/
theorem Answer.identified
    {payload : Bytes}
    (answer : Answer payload) :
    4 ≤ payload.length ∧ correlationId payload ≠ -1 := by
  have begins (identifier : Int) (block : Bytes)
      (named : 0 ≤ identifier ∧ identifier < 4) :
      4 ≤ (writeInt32 identifier ++ block).length ∧
        correlationId (writeInt32 identifier ++ block) ≠ -1 := by
    rw [List.length_append, length_writeInt32, correlationId_answer named]
    omega
  cases answer with
  | produced _ | fetched _ | fetchedSet _ _ _ _ | offsets _ | metadata _ =>
      exact begins _ _ (by decide)

/-- The fetch response for a single partition is read, whatever bytes its message
set is made of. -/
theorem exists_readFetchResponse
    {topicName set : Bytes}
    {partition errorCode highwaterMarkOffset : Int}
    (valid : Broker.ValidPartition topicName partition errorCode)
    (lower : -(2 ^ 63) ≤ highwaterMarkOffset)
    (upper : highwaterMarkOffset < 2 ^ 63)
    (short : set.length < 2 ^ 31) :
    ∃ response, readFetchResponse (Broker.fetchResponse topicName partition
      errorCode highwaterMarkOffset set) = .ok response := by
  by_cases fine : errorCode = 0
  · subst fine
    obtain ⟨messages, later, readSet⟩ := exists_readMessageSet
      (Broker.fetchResponse topicName partition 0 highwaterMarkOffset set)
      (show set.length + 12 ≤ 2 ^ 64 by omega) ⟨set, false⟩
    exact ⟨_, Broker.readFetchResponse_messages valid lower upper short readSet⟩
  · exact ⟨_, Broker.readFetchResponse_error valid lower upper fine⟩

/-- An answer can be read. -/
theorem Answer.readable
    {payload : Bytes}
    (answer : Answer payload) :
    KafkaPartition.readable payload = true := by
  unfold KafkaPartition.readable
  cases answer with
  | @produced topics sendable =>
      have named : correlationId (Broker.produceResponses topics) =
        apiKeyProduceRequest := correlationId_answer (by decide) _
      rw [named, if_pos rfl, Broker.readProduceResponse_produceResponses sendable]
      rfl
  | @fetched topics sendable =>
      have named : correlationId (Broker.fetchResponses topics) =
        apiKeyFetchRequest := correlationId_answer (by decide) _
      rw [named, if_neg (by decide), if_pos rfl,
        Broker.readFetchResponse_fetchResponses sendable]
      rfl
  | @fetchedSet topicName set partition errorCode offset valid lower upper
      short =>
      have named : correlationId (Broker.fetchResponse topicName partition
          errorCode offset set) = apiKeyFetchRequest :=
        correlationId_answer (by decide) _
      obtain ⟨response, read⟩ :=
        exists_readFetchResponse valid lower upper short
      rw [named, if_neg (by decide), if_pos rfl, read]
      rfl
  | @offsets topics sendable =>
      have named : correlationId (Broker.offsetResponses topics) =
        apiKeyOffsetRequest := correlationId_answer (by decide) _
      rw [named, if_neg (by decide), if_neg (by decide), if_neg (by decide),
        if_pos rfl, Broker.readOffsetResponse_offsetResponses sendable]
      rfl
  | @metadata response fits =>
      have named : correlationId (Broker.metadataResponse response) =
        apiKeyMetadataRequest := correlationId_answer (by decide) _
      have read : readResponse readMetadataResponseMessage
          (Broker.metadataResponse response) = .ok response :=
        Broker.readResponse_begins (by decide)
          (Broker.readMetadataResponseMessage_takes fits).begins
      rw [named, if_neg (by decide), if_neg (by decide), if_pos rfl,
        readMetadataResponse, read]
      rfl

/-- The list of brokers is the one that the constructor was given. -/
theorem run_brokers
    {crc32 : Bytes → UInt32}
    {allowed : KafkaPartition → Call → Prop}
    {start p : KafkaPartition}
    {history : List Call}
    (run : Run (perform crc32) allowed start history p) :
    p.brokers = start.brokers := by
  apply run.invariant (fun _ state => state.brokers = start.brokers) rfl
  intro _ state call next same _ performed
  rw [← same]
  cases call with
  | connect _ | offsetRequest | callbacks _ _ _ =>
      obtain rfl := Except.ok.inj performed
      rfl
  | armTimer _ =>
      obtain ⟨_, -, rfl⟩ := perform_armTimer performed
      rfl
  | startFetch _ _ =>
      exact congrArg Identity.brokers (startFetch_bookkeeping performed).identity
  | startProduce _ _ _ =>
      exact congrArg Identity.brokers (startProduce_bookkeeping performed).identity
  | event _ =>
      exact congrArg Identity.brokers (step_transition performed).identity

/-- The answer of a broker that the leader has moved from. -/
def movedTopics : List (Topic ProduceResponsePartition) :=
  [{ topicName := [116]
     partitions := [{ partition := 0, errorCode := 6, offset := 0 }] }]

theorem movedTopics_sendable :
    Broker.Sendable Broker.AcknowledgementFits movedTopics := by
  refine ⟨by decide, ?_, ?_⟩
  · intro topic member
    obtain rfl := List.mem_singleton.mp member
    decide
  · intro topic member entry inside
    obtain rfl := List.mem_singleton.mp member
    obtain rfl := List.mem_singleton.mp inside
    exact ⟨by decide, by decide, by decide⟩

end KafkaPartition
end AsyncKafka
