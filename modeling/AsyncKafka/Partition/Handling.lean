import AsyncKafka.Partition.Descriptors
import AsyncKafka.Partition.Failover

/-!
# Every callback acts on descriptors

Function by function, the partition is a sequence of actions on its
descriptors.  A callback acts on the socket alone, and connects only after it
has closed; the other event sources are armed by `init`, `startFetch` and
`startProduce`, one action for each.
-/

namespace AsyncKafka

open Wire ByteOrder Execution

namespace KafkaPartition

theorem setProduceEvent_acts
    (p : KafkaPartition)
    {source : WakeupEventSource}
    (sameFd : source.wakeupFd = p.produceEvent.wakeupFd) :
    Acts (fun p => .ok { p with produceEvent := source }) p []
      { p with produceEvent := source } := by
  refine .quiet ?_ rfl fun _ => rfl
  funext eventData
  cases eventData <;> simp [descriptors, sameFd]

theorem setProduceMsgQEvent_acts
    (p : KafkaPartition)
    {source : WakeupEventSource}
    (sameFd : source.wakeupFd = p.produceMsgQEvent.wakeupFd) :
    Acts (fun p => .ok { p with produceMsgQEvent := source }) p []
      { p with produceMsgQEvent := source } := by
  refine .quiet ?_ rfl fun _ => rfl
  funext eventData
  cases eventData <;> simp [descriptors, sameFd]

theorem setFetchEvent_acts
    (p : KafkaPartition)
    {source : WakeupEventSource}
    (sameFd : source.wakeupFd = p.fetchEvent.wakeupFd) :
    Acts (fun p => .ok { p with fetchEvent := source }) p []
      { p with fetchEvent := source } := by
  refine .quiet ?_ rfl fun _ => rfl
  funext eventData
  cases eventData <;> simp [descriptors, sameFd]

/-- A wakeup leaves the descriptor in use. -/
theorem wakeup_wakeupFd
    {source next : WakeupEventSource}
    (woken : source.wakeup = .ok next) :
    next.wakeupFd = source.wakeupFd := by
  obtain ⟨-, rfl⟩ := WakeupEventSource.wakeup_eq_ok.mp woken
  rfl

theorem wakeupFetch_acts
    {p q : KafkaPartition}
    (returned : p.wakeupFetch = .ok q) :
    Acts wakeupFetch p [] q := by
  obtain ⟨fetchEvent, woken, finished⟩ := bind_eq_ok.mp returned
  obtain rfl := Except.ok.inj finished
  have replaced := setFetchEvent_acts p (wakeup_wakeupFd woken)
  exact .quiet replaced.descriptors rfl fun reactor =>
    bind_eq_ok.mpr ⟨fetchEvent, woken, rfl⟩

theorem wakeupFetchOfConsumer_acts
    {p q : KafkaPartition}
    (returned : p.wakeupFetchOfConsumer = .ok q) :
    Acts wakeupFetchOfConsumer p [] q := by
  unfold wakeupFetchOfConsumer at returned
  split at returned
  · rename_i consumer
    have woken := wakeupFetch_acts returned
    refine ⟨woken.descriptors, woken.sockets, fun reactor => ?_⟩
    exact (if_pos consumer).trans (woken.oblivious reactor)
  · rename_i producer
    obtain rfl := Except.ok.inj returned
    exact .quiet rfl rfl fun reactor => if_neg producer

/-- The sockets that the kernel has to offer in the course of the writes. -/
def WriteOutcome.offered : WriteOutcome → List Int
  | .reset connect next => connect.toList ++ next.offered
  | _ => []

/-- Handing the front frame to the kernel. -/
theorem handOver_acts
    (p : KafkaPartition)
    (req : WriteBuffer)
    (rest : List WriteBuffer)
    (accepted : Option Nat) :
    Acts
      (fun p => .ok ((p.popWriteBuffer req rest).record (.write req accepted)))
      p [] ((p.popWriteBuffer req rest).record (.write req accepted)) := by
  have popped : Acts (fun p => .ok (p.popWriteBuffer req rest)) p []
      (p.popWriteBuffer req rest) := .quiet rfl rfl fun _ => rfl
  exact popped.bind (.record _ rfl)

theorem createMetadataRequest_acts
    {offered : List Int}
    (p : KafkaPartition) :
    ActsOrderly offered (fun p => .ok p.createMetadataRequest) p
      p.createMetadataRequest := by
  have queued : Acts (fun p => .ok { p with
      writeBuffers := p.metadataBuffer :: p.writeBuffers }) p []
      { p with writeBuffers := p.metadataBuffer :: p.writeBuffers } :=
    .quiet rfl rfl fun _ => rfl
  exact (ActsOrderly.quiet queued).bind (.watch _ true)

theorem createOffsetRequest_acts
    {offered : List Int}
    (p : KafkaPartition) :
    ActsOrderly offered (fun p => .ok p.createOffsetRequest) p
      p.createOffsetRequest := by
  have queued : Acts (fun p => .ok { p with
      writeBuffers := p.offsetBuffer :: p.writeBuffers }) p []
      { p with writeBuffers := p.offsetBuffer :: p.writeBuffers } :=
    .quiet rfl rfl fun _ => rfl
  exact (ActsOrderly.quiet queued).bind (.watch _ true)

/-- A reconnect acts on the socket only, if writing does. -/
theorem reconnect_acts
    {offered : List Int}
    {connect : Option Int}
    {writes : WriteOutcome}
    (offers : connect.toList ⊆ offered)
    (wrote : ∀ p q : KafkaPartition, p.onWriteReady writes = .ok q →
      ActsOrderly offered (fun p => p.onWriteReady writes) p q)
    {p q : KafkaPartition}
    (returned : p.reconnect connect writes = .ok q) :
    ActsOrderly offered (fun p => p.reconnect connect writes) p q := by
  cases found : candidate p.brokers p.leader with
  | none =>
      rw [reconnect_of_none found] at returned
      cases returned
  | some broker =>
      have moved (reactor : LibeventReactor) :=
        reconnect_of_some (p := p.withReactor reactor) found connect writes
      rw [reconnect_of_some found] at returned
      cases connect with
      | none =>
          obtain rfl := Except.ok.inj returned
          exact .congr moved (.disconnect p broker)
      | some fd =>
          obtain ⟨written, wroteOk, woken⟩ := bind_eq_ok.mp returned
          exact .congr moved
            ((((ActsOrderly.reconnect p broker (offers (by simp))).bind
              (createMetadataRequest_acts _)).bind (wrote _ _ wroteOk)).bind
                (.quiet (wakeupFetchOfConsumer_acts woken)))

/-- Writing acts on the socket only. -/
theorem onWriteReady_acts
    {p q : KafkaPartition}
    {outcome : WriteOutcome}
    (returned : p.onWriteReady outcome = .ok q) :
    ActsOrderly outcome.offered (fun p => p.onWriteReady outcome) p q := by
  induction outcome generalizing p q with
  | written | short | failed =>
      cases front : p.writeBuffers with
      | nil =>
          unfold onWriteReady at returned
          simp only [front] at returned
          obtain rfl := Except.ok.inj returned
          refine .congr (fun reactor => ?_) (.watch p false)
          simp only [onWriteReady, withReactor, front]
      | cons req rest =>
          unfold onWriteReady at returned
          simp only [front] at returned
          obtain rfl := Except.ok.inj returned
          refine .congr (fun reactor => ?_)
            (.quiet (handOver_acts p req rest _))
          simp only [onWriteReady, withReactor, front]
  | reset connect next inductionHypothesis =>
      cases front : p.writeBuffers with
      | nil =>
          unfold onWriteReady at returned
          simp only [front] at returned
          obtain rfl := Except.ok.inj returned
          refine .congr (fun reactor => ?_) (.watch p false)
          simp only [onWriteReady, withReactor, front]
      | cons req rest =>
          unfold onWriteReady at returned
          simp only [front] at returned
          have replaced := reconnect_acts
            (List.subset_append_left connect.toList next.offered)
            (fun _ _ wrote => (inductionHypothesis wrote).mono
              (List.subset_append_right connect.toList next.offered))
            returned
          refine .congr (fun reactor => ?_)
            ((ActsOrderly.quiet (handOver_acts p req rest none)).bind replaced)
          rw [ok_bind]
          unfold onWriteReady
          simp only [withReactor, front]
          rfl

/-! ## Responses -/

/-- The sockets that the kernel has to offer in the course of a callback. -/
def Surroundings.offered (surroundings : Surroundings) : List Int :=
  surroundings.writes.offered ++ surroundings.connect.toList

theorem handleKafkaError_acts
    {p q : KafkaPartition}
    {ec : Int}
    {writes : WriteOutcome}
    (returned : p.handleKafkaError ec writes = .ok q) :
    ActsOrderly writes.offered (fun p => p.handleKafkaError ec writes) p q := by
  unfold handleKafkaError at returned ⊢
  split at returned
  · rename_i outOfRange
    simp only [outOfRange, if_true]
    exact (createOffsetRequest_acts p).bind (onWriteReady_acts returned)
  · rename_i inRange
    split at returned
    · rename_i noLeader
      simp only [inRange, noLeader, if_true, if_false]
      exact (createMetadataRequest_acts p).bind (onWriteReady_acts returned)
    · rename_i logged
      obtain rfl := Except.ok.inj returned
      simp only [inRange, logged, if_false]
      exact .quiet (.quiet rfl rfl fun _ => rfl)

theorem handleErrorCode_acts
    {p q : KafkaPartition}
    {ec : Int}
    {writes : WriteOutcome}
    (returned : p.handleErrorCode ec writes = .ok q) :
    ActsOrderly writes.offered (fun p => p.handleErrorCode ec writes) p q := by
  unfold handleErrorCode at returned ⊢
  split at returned
  · rename_i failed
    simp only [failed, if_true, ne_eq, not_false_eq_true]
    exact handleKafkaError_acts returned
  · rename_i fine
    obtain rfl := Except.ok.inj returned
    simp only [fine, if_false]
    exact .quiet (.quiet rfl rfl fun _ => rfl)

/-- Delivering messages does nothing with descriptors. -/
theorem deliver_acts (p : KafkaPartition) (messages : MessageSet) :
    Acts (fun p => .ok (p.deliver messages)) p [] (p.deliver messages) := by
  have sockets : (p.deliver messages).sockets = p.sockets := by
    unfold deliver
    dsimp only
    split
    · simp [KafkaPartition.sockets, KafkaPartition.record, Effect.isSocket]
    · rfl
  refine .quiet ?_ sockets fun reactor => ?_
  · unfold deliver
    dsimp only
    split <;> rfl
  · unfold deliver
    dsimp only [withReactor]
    split <;> rfl

/-- Repositioning does nothing with descriptors. -/
theorem resetOffset_acts (p : KafkaPartition) (offset : Int) :
    Acts (fun p => .ok (p.resetOffset offset)) p [] (p.resetOffset offset) := by
  refine .quiet ?_ ?_ fun reactor => ?_
  · rw [resetOffset_eq]
    rfl
  · rw [resetOffset_eq]
    rfl
  · rw [resetOffset_eq, resetOffset_eq]
    rfl

theorem returnRequest_acts
    {p q : KafkaPartition}
    (returned : p.returnRequest = .ok q) :
    Acts returnRequest p [] q := by
  unfold returnRequest at returned
  split at returned
  · cases returned
  · rename_i req rest front
    obtain rfl := Except.ok.inj returned
    refine .quiet rfl rfl fun reactor => ?_
    simp only [returnRequest, withReactor, front]

theorem acknowledge_acts
    {p q : KafkaPartition}
    {response : ProduceResponse}
    (returned : p.acknowledge response = .ok q) :
    Acts (fun p => p.acknowledge response) p [] q := by
  cases front : p.inTransitProduceRequest with
  | nil =>
      simp only [acknowledge, front] at returned
      cases returned
  | cons req rest =>
      cases found : response.findTopicPartition p.topic p.partition with
      | none =>
          simp only [acknowledge, front, found] at returned
          obtain rfl := Except.ok.inj returned
          refine .quiet rfl rfl fun reactor => ?_
          simp only [acknowledge, withReactor, front, found]
      | some entry =>
          cases registered : p.onProduceResponse with
          | false =>
              simp only [acknowledge, front, found, registered,
                Bool.false_eq_true, if_false] at returned
              obtain rfl := Except.ok.inj returned
              refine .quiet rfl rfl fun reactor => ?_
              simp only [acknowledge, withReactor, front, found, registered,
                Bool.false_eq_true, if_false]
          | true =>
              simp only [acknowledge, front, found, registered, if_true]
                at returned
              obtain rfl := Except.ok.inj returned
              have reported : Acts
                  (fun p => .ok { p with
                    inTransitProduceRequest := rest
                    trace := p.trace ++
                      [.produceResponse p.topic p.partition entry.offset] })
                  p [] { p with
                    inTransitProduceRequest := rest
                    trace := p.trace ++
                      [.produceResponse p.topic p.partition entry.offset] } :=
                .quiet rfl (by simp [KafkaPartition.sockets, Effect.isSocket])
                  fun _ => rfl
              refine ⟨reported.descriptors, reported.sockets, fun reactor => ?_⟩
              simp only [acknowledge, withReactor, front, found, registered,
                if_true]
              rfl

theorem handleProduceResponse_acts
    {p q : KafkaPartition}
    {payload : Bytes}
    {surroundings : Surroundings}
    (returned : p.handleProduceResponse payload surroundings = .ok q) :
    ActsOrderly surroundings.offered
      (fun p => p.handleProduceResponse payload surroundings) p q := by
  obtain ⟨⟨response, ec⟩, readOk, continued⟩ := bind_eq_ok.mp returned
  by_cases fine : ec = 0
  · subst fine
    have acknowledged : Acts (fun p => p.acknowledge response) p [] q :=
      acknowledge_acts continued
    refine .congr (fun reactor => ?_) (.quiet acknowledged)
    unfold handleProduceResponse
    rw [readOk, ok_bind]
    rfl
  · simp only [ne_eq, fine, not_false_eq_true, if_true] at continued
    obtain ⟨middle, reacted, put⟩ := bind_eq_ok.mp continued
    have whole := (handleKafkaError_acts reacted).bind
      (.quiet (returnRequest_acts put))
    refine .congr (fun reactor => ?_)
      (whole.mono (List.subset_append_left _ _))
    unfold handleProduceResponse
    rw [readOk, ok_bind]
    simp only [ne_eq, fine, not_false_eq_true, if_true]

theorem handleFetchResponse_acts
    {p q : KafkaPartition}
    {payload : Bytes}
    {surroundings : Surroundings}
    (returned : p.handleFetchResponse payload surroundings = .ok q) :
    ActsOrderly surroundings.offered
      (fun p => p.handleFetchResponse payload surroundings) p q := by
  obtain ⟨⟨response, ec⟩, readOk, continued⟩ := bind_eq_ok.mp returned
  by_cases fine : ec = 0
  · simp only [ne_eq, fine, not_true_eq_false, if_false] at continued
    refine .congr (fun reactor => ?_)
      (.quiet ((deliver_acts p response.messages).bind
        (wakeupFetchOfConsumer_acts continued)))
    unfold handleFetchResponse
    rw [readOk, ok_bind]
    simp only [ne_eq, fine, not_true_eq_false, if_false]
    rfl
  · simp only [ne_eq, fine, not_false_eq_true, if_true] at continued
    obtain ⟨middle, reacted, woken⟩ := bind_eq_ok.mp continued
    have whole := (handleKafkaError_acts reacted).bind
      (.quiet (wakeupFetchOfConsumer_acts woken))
    refine .congr (fun reactor => ?_)
      (whole.mono (List.subset_append_left _ _))
    unfold handleFetchResponse
    rw [readOk, ok_bind]
    simp only [ne_eq, fine, not_false_eq_true, if_true]

theorem followLeader_acts
    {p q : KafkaPartition}
    {response : MetadataResponse}
    {surroundings : Surroundings}
    (returned : p.followLeader response surroundings = .ok q) :
    ActsOrderly surroundings.connect.toList
      (fun p => p.followLeader response surroundings) p q := by
  cases named : response.partitionLeader p.topic p.partition with
  | none =>
      simp only [followLeader, named] at returned
      obtain rfl := Except.ok.inj returned
      refine .quiet (.quiet rfl rfl fun reactor => ?_)
      simp only [followLeader, withReactor, named]
  | some leader =>
      by_cases moved :
          (hostnameToIp surroundings.resolved surroundings.ipBuffer).2 ≠
              p.leader.ip ∨ leader.port ≠ p.leader.port
      · simp only [followLeader, named, if_pos moved] at returned
        cases connects : surroundings.connect with
        | none =>
            simp only [connects] at returned
            refine .congr (fun reactor => ?_)
              ((ActsOrderly.disconnect p _).bind
                (.quiet (wakeupFetchOfConsumer_acts returned)))
            simp only [followLeader, withReactor, named, if_pos moved, connects]
            rfl
        | some fd =>
            simp only [connects] at returned
            refine .congr (fun reactor => ?_)
              ((ActsOrderly.reconnect p _ (by simp)).bind
                (.quiet (wakeupFetchOfConsumer_acts returned)))
            simp only [followLeader, withReactor, named, if_pos moved, connects]
            rfl
      · simp only [followLeader, named, if_neg moved] at returned
        obtain rfl := Except.ok.inj returned
        refine .quiet (.quiet rfl rfl fun reactor => ?_)
        simp only [followLeader, withReactor, named]
        exact if_neg moved

theorem handleMetadataResponse_acts
    {p q : KafkaPartition}
    {payload : Bytes}
    {surroundings : Surroundings}
    (returned : p.handleMetadataResponse payload surroundings = .ok q) :
    ActsOrderly surroundings.offered
      (fun p => p.handleMetadataResponse payload surroundings) p q := by
  obtain ⟨⟨response, ec⟩, readOk, continued⟩ := bind_eq_ok.mp returned
  obtain ⟨middle, reacted, followed⟩ := bind_eq_ok.mp continued
  have first := (handleErrorCode_acts reacted).mono
    (List.subset_append_left _ surroundings.connect.toList)
  have second := (followLeader_acts followed).mono
    (List.subset_append_right surroundings.writes.offered _)
  refine .congr (fun reactor => ?_) (first.bind second)
  unfold handleMetadataResponse
  rw [readOk, ok_bind]

theorem followOffset_acts (p : KafkaPartition) (response : OffsetResponse) :
    Acts (fun p => .ok (p.followOffset response)) p []
      (p.followOffset response) := by
  cases named : response.topicPartitionOffset p.topic p.partition with
  | none =>
      refine .quiet ?_ ?_ fun reactor => ?_ <;>
        simp only [followOffset, withReactor, named]
  | some entry =>
      cases offsets : entry.offsets with
      | nil =>
          refine .quiet ?_ ?_ fun reactor => ?_ <;>
            simp only [followOffset, withReactor, named, offsets]
      | cons offset _ =>
          have followed (q : KafkaPartition)
              (same : q.topic = p.topic ∧ q.partition = p.partition) :
              q.followOffset response = q.resetOffset offset := by
            simp only [followOffset, same.1, same.2, named, offsets]
          have reset := resetOffset_acts p offset
          rw [followed p ⟨rfl, rfl⟩]
          refine reset.congr fun reactor => ?_
          rw [followed (p.withReactor reactor) ⟨rfl, rfl⟩]

theorem handleOffsetResponse_acts
    {p q : KafkaPartition}
    {payload : Bytes}
    {surroundings : Surroundings}
    (returned : p.handleOffsetResponse payload surroundings = .ok q) :
    ActsOrderly surroundings.offered
      (fun p => p.handleOffsetResponse payload surroundings) p q := by
  obtain ⟨⟨response, ec⟩, readOk, continued⟩ := bind_eq_ok.mp returned
  obtain ⟨middle, reacted, followed⟩ := bind_eq_ok.mp continued
  obtain rfl := Except.ok.inj followed
  have first := (handleErrorCode_acts reacted).mono
    (List.subset_append_left _ surroundings.connect.toList)
  refine .congr (fun reactor => ?_)
    (first.bind (.quiet (followOffset_acts middle response)))
  unfold handleOffsetResponse
  rw [readOk, ok_bind]
  rfl

theorem readError_acts
    {p q : KafkaPartition}
    {surroundings : Surroundings}
    (returned : p.readError surroundings = .ok q) :
    ActsOrderly surroundings.offered (fun p => p.readError surroundings) p q :=
  reconnect_acts
    (List.subset_append_right surroundings.writes.offered _)
    (fun _ _ wrote => (onWriteReady_acts wrote).mono
      (List.subset_append_left _ surroundings.connect.toList))
    returned

theorem dispatchResponse_acts
    {p q : KafkaPartition}
    {payload : Bytes}
    {surroundings : Surroundings}
    (returned : p.dispatchResponse payload surroundings = .ok q) :
    ActsOrderly surroundings.offered
      (fun p => p.dispatchResponse payload surroundings) p q := by
  unfold dispatchResponse at returned ⊢
  split_ifs at returned ⊢ with isProduce isFetch isMetadata isOffset
  · exact handleProduceResponse_acts returned
  · exact handleFetchResponse_acts returned
  · exact handleMetadataResponse_acts returned
  · exact handleOffsetResponse_acts returned
  · obtain rfl := Except.ok.inj returned
    exact .quiet (.quiet rfl rfl fun _ => rfl)

theorem onReadReady_acts
    {p q : KafkaPartition}
    {received : ReadOutcome}
    {surroundings : Surroundings}
    (returned : p.onReadReady received surroundings = .ok q) :
    ActsOrderly surroundings.offered
      (fun p => p.onReadReady received surroundings) p q := by
  cases received with
  | payload payload =>
      unfold onReadReady at returned ⊢
      dsimp only at returned ⊢
      split_ifs at returned ⊢ with short refused
      exact (ActsOrderly.quiet (.record p rfl)).bind
        (dispatchResponse_acts returned)
  | closed => exact readError_acts returned
  | reset => exact readError_acts returned
  | failed =>
      obtain rfl := Except.ok.inj returned
      exact .quiet (.quiet rfl rfl fun _ => rfl)

theorem closeBatch_acts
    {p q : KafkaPartition}
    (returned : p.closeBatch = .ok q) :
    Acts closeBatch p [] q := by
  unfold closeBatch at returned
  split at returned
  · rename_i full
    obtain ⟨produceEvent, woken, finished⟩ := bind_eq_ok.mp returned
    obtain rfl := Except.ok.inj finished
    have replaced := setProduceEvent_acts p (wakeup_wakeupFd woken)
    exact .quiet replaced.descriptors rfl fun reactor =>
      (if_pos full).trans (bind_eq_ok.mpr ⟨produceEvent, woken, rfl⟩)
  · rename_i unfilled
    obtain rfl := Except.ok.inj returned
    exact .quiet rfl rfl fun reactor => if_neg unfilled

theorem enqueue_acts
    {p q : KafkaPartition}
    {msg : Bytes}
    (returned : p.enqueue msg = .ok q) :
    Acts (fun p => p.enqueue msg) p [] q := by
  obtain ⟨closed, batched, finished⟩ := bind_eq_ok.mp returned
  obtain rfl := Except.ok.inj finished
  exact (closeBatch_acts batched).bind (.quiet rfl rfl fun _ => rfl)

theorem wakeupProduceMsgQ_acts
    {p q : KafkaPartition}
    (returned : p.wakeupProduceMsgQ = .ok q) :
    Acts wakeupProduceMsgQ p [] q := by
  obtain ⟨produceMsgQEvent, woken, finished⟩ := bind_eq_ok.mp returned
  obtain rfl := Except.ok.inj finished
  have replaced := setProduceMsgQEvent_acts p (wakeup_wakeupFd woken)
  exact .quiet replaced.descriptors rfl fun reactor =>
    bind_eq_ok.mpr ⟨produceMsgQEvent, woken, rfl⟩

theorem foldlM_enqueue_acts
    {p q : KafkaPartition}
    {msgs : List Bytes}
    (returned : msgs.foldlM enqueue p = .ok q) :
    Acts (fun p => msgs.foldlM enqueue p) p [] q := by
  induction msgs generalizing p with
  | nil =>
      obtain rfl := Except.ok.inj returned
      exact .quiet rfl rfl fun _ => rfl
  | cons msg msgs inductionHypothesis =>
      rw [List.foldlM_cons] at returned
      obtain ⟨queued, first, later⟩ := bind_eq_ok.mp returned
      simp only [List.foldlM_cons]
      exact (enqueue_acts first).bind (inductionHypothesis later)

theorem produceAll_acts
    {p q : KafkaPartition}
    {msgs : List Bytes}
    {code : Int}
    (returned : p.produceAll msgs = .ok (code, q)) :
    Acts (fun p => (p.produceAll msgs).map Prod.snd) p [] q := by
  rcases produceAll_cases returned with
    ⟨rfl, rfl⟩ | ⟨nonempty, queued, accepted, notified⟩
  · exact .quiet rfl rfl fun _ => rfl
  · have whole := (foldlM_enqueue_acts accepted).bind
      (wakeupProduceMsgQ_acts notified)
    refine ⟨whole.descriptors, whole.sockets, fun reactor => ?_⟩
    have performed := whole.oblivious reactor
    obtain ⟨first, folded, woken⟩ := bind_eq_ok.mp performed
    unfold produceAll
    rw [if_neg (by simpa using nonempty), folded, ok_bind, woken]
    rfl

/-! ## Events and calls -/

/-- The sockets that the kernel has to offer in the course of an event. -/
def Event.offered : Event → List Int
  | .readReady _ surroundings => surroundings.offered
  | .writeReady outcome => outcome.offered
  | _ => []

/-- Handling an event of a wakeup source leaves its descriptor. -/
theorem handleEvent_wakeupFd
    {source next : WakeupEventSource}
    {callback : Option Nat}
    (handled : source.handleEvent = (callback, next)) :
    next.wakeupFd = source.wakeupFd := by
  rw [WakeupEventSource.handleEvent_eq] at handled
  split at handled
  · obtain ⟨-, rfl⟩ := Prod.mk.inj handled
    rfl
  · obtain ⟨-, rfl⟩ := Prod.mk.inj handled
    rfl

theorem createProduceRequest_acts
    {offered : List Int}
    (crc32 : Bytes → UInt32)
    (p : KafkaPartition) :
    ActsOrderly offered (fun p => .ok (p.createProduceRequest crc32)) p
      (p.createProduceRequest crc32) := by
  have drained : Acts (fun p => .ok { p with
      msgs := [], writeBuffers := p.writeBuffers ++ produceBuffers crc32 p })
      p [] { p with
      msgs := [], writeBuffers := p.writeBuffers ++ produceBuffers crc32 p } :=
    .quiet rfl rfl fun _ => rfl
  exact (ActsOrderly.quiet drained).bind (.watch _ true)

theorem createFetchRequest_acts
    {offered : List Int}
    (p : KafkaPartition) :
    ActsOrderly offered (fun p => .ok p.createFetchRequest) p
      p.createFetchRequest := by
  by_cases paused : p.fetchPaused = true
  · have idle : p.createFetchRequest = p := if_pos paused
    rw [idle]
    exact .quiet (.quiet rfl rfl fun _ => congrArg Except.ok (if_pos paused))
  · have queued : Acts (fun p => .ok { p with
        writeBuffers := p.writeBuffers ++ [p.fetchBuffer] }) p []
        { p with writeBuffers := p.writeBuffers ++ [p.fetchBuffer] } :=
      .quiet rfl rfl fun _ => rfl
    have asks : p.createFetchRequest =
        { p with writeBuffers := p.writeBuffers ++ [p.fetchBuffer]
          }.registerSocket getEventFlags true := if_neg paused
    rw [asks]
    refine .congr (fun _ => ?_) ((ActsOrderly.quiet queued).bind (.watch _ true))
    exact congrArg Except.ok (if_neg paused)

theorem notifyProduceMsgQ_acts (p : KafkaPartition) :
    Acts (fun p => .ok p.notifyProduceMsgQ) p [] p.notifyProduceMsgQ := by
  by_cases registered : p.onMsgQueued = true
  · have notified : p.notifyProduceMsgQ = p.record .msgQueued :=
      if_pos registered
    have acts : Acts (fun p => .ok (p.record .msgQueued)) p []
        (p.record .msgQueued) := .record p rfl
    rw [notified]
    refine ⟨acts.descriptors, acts.sockets, fun _ => ?_⟩
    exact congrArg Except.ok (if_pos registered)
  · have silent : p.notifyProduceMsgQ = p := if_neg registered
    rw [silent]
    exact .quiet rfl rfl fun _ => congrArg Except.ok (if_neg registered)

/-- Every event acts on the socket only. -/
theorem step_acts
    {crc32 : Bytes → UInt32}
    {p q : KafkaPartition}
    {event : Event}
    (stepped : step crc32 p event = .ok q) :
    ActsOrderly event.offered (fun p => step crc32 p event) p q := by
  cases event with
  | produce msg =>
      obtain ⟨queued, accepted, woken⟩ := bind_eq_ok.mp stepped
      exact .quiet ((enqueue_acts accepted).bind (wakeupProduceMsgQ_acts woken))
  | produceAll msgs =>
      obtain ⟨code, returned⟩ := step_produceAll stepped
      exact .quiet (produceAll_acts returned)
  | pauseFetch =>
      obtain rfl := Except.ok.inj stepped
      exact .quiet (.quiet rfl rfl fun _ => rfl)
  | resumeFetch =>
      simp only [step, resumeFetch] at stepped ⊢
      split at stepped
      · rename_i paused
        have resumed : Acts (fun p => .ok { p with fetchPaused := false }) p []
            { p with fetchPaused := false } := .quiet rfl rfl fun _ => rfl
        refine .congr (fun reactor => ?_)
          (.quiet (resumed.bind (wakeupFetch_acts stepped)))
        exact if_pos paused
      · rename_i running
        obtain rfl := Except.ok.inj stepped
        exact .quiet (.quiet rfl rfl fun _ => if_neg running)
  | commitTimer =>
      obtain rfl := Except.ok.inj stepped
      exact .quiet (.quiet rfl rfl fun _ => rfl)
  | metadataTimer =>
      obtain rfl := Except.ok.inj stepped
      exact createMetadataRequest_acts p
  | batchTimer =>
      obtain rfl := Except.ok.inj stepped
      exact createProduceRequest_acts crc32 p
  | readReady received surroundings => exact onReadReady_acts stepped
  | writeReady outcome => exact onWriteReady_acts stepped
  | produceEvent =>
      cases handled : p.produceEvent.handleEvent with
      | mk callback source =>
          have replaced := setProduceEvent_acts p (handleEvent_wakeupFd handled)
          cases callback with
          | none =>
              simp only [step, handled] at stepped
              obtain rfl := Except.ok.inj stepped
              refine .congr (fun _ => ?_) (.quiet replaced)
              simp only [step, withReactor, handled]
          | some count =>
              simp only [step, handled] at stepped
              obtain rfl := Except.ok.inj stepped
              refine .congr (fun _ => ?_)
                ((ActsOrderly.quiet replaced).bind
                  (createProduceRequest_acts crc32 _))
              simp only [step, withReactor, handled]
              rfl
  | produceMsgQEvent =>
      cases handled : p.produceMsgQEvent.handleEvent with
      | mk callback source =>
          have replaced := setProduceMsgQEvent_acts p (handleEvent_wakeupFd handled)
          cases callback with
          | none =>
              simp only [step, handled] at stepped
              obtain rfl := Except.ok.inj stepped
              refine .congr (fun _ => ?_) (.quiet replaced)
              simp only [step, withReactor, handled]
          | some count =>
              simp only [step, handled] at stepped
              obtain rfl := Except.ok.inj stepped
              refine .congr (fun _ => ?_)
                (.quiet (replaced.bind (notifyProduceMsgQ_acts _)))
              simp only [step, withReactor, handled]
              rfl
  | fetchEvent =>
      cases handled : p.fetchEvent.handleEvent with
      | mk callback source =>
          have replaced := setFetchEvent_acts p (handleEvent_wakeupFd handled)
          cases callback with
          | none =>
              simp only [step, handled] at stepped
              obtain rfl := Except.ok.inj stepped
              refine .congr (fun _ => ?_) (.quiet replaced)
              simp only [step, withReactor, handled]
          | some count =>
              simp only [step, handled] at stepped
              obtain rfl := Except.ok.inj stepped
              refine .congr (fun _ => ?_)
                ((ActsOrderly.quiet replaced).bind (createFetchRequest_acts _))
              simp only [step, withReactor, handled]
              rfl

/-- Arming an event source, given the operation that sets it. -/
theorem arm_acts
    (eventData : EventData)
    (fd : Int)
    (set : KafkaPartition → KafkaPartition)
    {p : KafkaPartition}
    (descriptors : (set p).descriptors =
      Function.update p.descriptors eventData fd)
    (sockets : (set p).sockets = p.sockets)
    (oblivious : ∀ reactor,
      set (p.withReactor reactor) = (set p).withReactor reactor) :
    Acts (fun p => .ok ((set p).registerSource fd eventData)) p
      [.arm eventData fd] ((set p).registerSource fd eventData) := by
  refine ⟨descriptors, ?_, fun reactor => ?_⟩
  · change (set p).sockets = p.sockets ++ []
    rw [List.append_nil, sockets]
  · rw [oblivious]
    rfl

theorem armFetchEvent_acts (p : KafkaPartition) (fd : Int) :
    Acts
      (fun p => .ok ({ p with fetchEvent := p.fetchEvent.init fd
        }.registerSource fd .fetchEvent))
      p [.arm .fetchEvent fd]
      ({ p with fetchEvent := p.fetchEvent.init fd
        }.registerSource fd .fetchEvent) := by
  refine arm_acts .fetchEvent fd
    (fun p => { p with fetchEvent := p.fetchEvent.init fd }) ?_ rfl fun _ => rfl
  funext eventData
  cases eventData <;>
    simp [descriptors, WakeupEventSource.init, Function.update]

theorem armProduceEvent_acts (p : KafkaPartition) (fd : Int) :
    Acts
      (fun p => .ok ({ p with produceEvent := p.produceEvent.init fd
        }.registerSource fd .produceEvent))
      p [.arm .produceEvent fd]
      ({ p with produceEvent := p.produceEvent.init fd
        }.registerSource fd .produceEvent) := by
  refine arm_acts .produceEvent fd
    (fun p => { p with produceEvent := p.produceEvent.init fd }) ?_ rfl
    fun _ => rfl
  funext eventData
  cases eventData <;>
    simp [descriptors, WakeupEventSource.init, Function.update]

theorem armProduceMsgQEvent_acts (p : KafkaPartition) (fd : Int) :
    Acts
      (fun p => .ok ({ p with produceMsgQEvent := p.produceMsgQEvent.init fd
        }.registerSource fd .produceMsgQEvent))
      p [.arm .produceMsgQEvent fd]
      ({ p with produceMsgQEvent := p.produceMsgQEvent.init fd
        }.registerSource fd .produceMsgQEvent) := by
  refine arm_acts .produceMsgQEvent fd
    (fun p => { p with produceMsgQEvent := p.produceMsgQEvent.init fd }) ?_ rfl
    fun _ => rfl
  funext eventData
  cases eventData <;>
    simp [descriptors, WakeupEventSource.init, Function.update]

/-- Arming a timer, given the operation that stores it. -/
theorem armTimer_acts
    (eventData : EventData)
    (fd : Int)
    (interval : KafkaClientConfig → Int)
    (store : PeriodicEventSource → KafkaPartition → KafkaPartition)
    {p : KafkaPartition}
    {timer : PeriodicEventSource}
    (armed : armTimer (interval p.config) fd = .ok timer)
    (descriptors : (store timer p).descriptors =
      Function.update p.descriptors eventData timer.timerFd)
    (sockets : (store timer p).sockets = p.sockets)
    (oblivious : ∀ reactor,
      store timer (p.withReactor reactor) = (store timer p).withReactor reactor) :
    Acts
      (fun p => armTimer (interval p.config) fd >>= fun timer =>
        .ok ((store timer p).registerSource fd eventData))
      p [.arm eventData fd] ((store timer p).registerSource fd eventData) := by
  rw [(PeriodicEventSource.init_eq_ok armed).2] at descriptors
  have acts := arm_acts eventData fd (store timer) descriptors sockets oblivious
  refine ⟨acts.descriptors, acts.sockets, fun reactor => ?_⟩
  have sameConfig : (p.withReactor reactor).config = p.config := rfl
  rw [sameConfig, armed, ok_bind]
  exact acts.oblivious reactor

/-- The actions that a call consists of. -/
def Call.Consists (descriptors : Descriptors) (actions : List Action) :
    Call → Prop
  | .connect fd => actions = [.connect fd]
  | .offsetRequest => actions = [.watch true]
  | .armTimer fd => actions = [.arm .mdTimerEvent fd]
  | .callbacks _ _ _ => actions = []
  | .startFetch eventFd timerFd =>
      actions = [.arm .fetchEvent eventFd, .arm .ocTimerEvent timerFd]
  | .startProduce eventFd queueFd timerFd =>
      actions = [.arm .produceEvent eventFd, .arm .produceMsgQEvent queueFd,
        .arm .pReqTimerEvent timerFd]
  | .event dispatched => Action.Orderly dispatched.offered descriptors actions

theorem startFetch_acts
    {p q : KafkaPartition}
    {eventFd timerFd : Int}
    (returned : p.startFetch eventFd timerFd = .ok q) :
    Acts (fun p => p.startFetch eventFd timerFd) p
      [.arm .fetchEvent eventFd, .arm .ocTimerEvent timerFd] q := by
  obtain ⟨ocTimerEvent, timerArmed, returned⟩ := bind_eq_ok.mp returned
  have armed := (armFetchEvent_acts p eventFd).bind
    (armTimer_acts .ocTimerEvent timerFd KafkaClientConfig.cAutoCommitIntervalMs
      (fun ocTimerEvent p => { p with ocTimerEvent }) timerArmed
      (by funext eventData
          cases eventData <;> simp [descriptors, Function.update])
      rfl fun _ => rfl)
  refine (armed.bind (wakeupFetchOfConsumer_acts returned)).congr fun reactor => ?_
  simp only [startFetch, ok_bind, bind_assoc]

theorem startProduce_acts
    {p q : KafkaPartition}
    {eventFd queueFd timerFd : Int}
    (returned : p.startProduce eventFd queueFd timerFd = .ok q) :
    Acts (fun p => p.startProduce eventFd queueFd timerFd) p
      [.arm .produceEvent eventFd, .arm .produceMsgQEvent queueFd,
        .arm .pReqTimerEvent timerFd] q := by
  obtain ⟨pReqTimerEvent, timerArmed, returned⟩ := bind_eq_ok.mp returned
  have armed := ((armProduceEvent_acts p eventFd).bind
    (armProduceMsgQEvent_acts _ queueFd)).bind
    (armTimer_acts .pReqTimerEvent timerFd KafkaClientConfig.pMaxBatchWaitTimeMs
      (fun pReqTimerEvent p => { p with pReqTimerEvent }) timerArmed
      (by funext eventData
          cases eventData <;> simp [descriptors, Function.update])
      rfl fun _ => rfl)
  refine (armed.bind (wakeupProduceMsgQ_acts returned)).congr fun reactor => ?_
  simp only [startProduce, ok_bind, bind_assoc]

/-- Every call is a sequence of actions. -/
theorem perform_acts
    {crc32 : Bytes → UInt32}
    {p q : KafkaPartition}
    {call : Call}
    (performed : perform crc32 p call = .ok q) :
    ∃ actions, call.Consists p.descriptors actions ∧
      Acts (fun p => perform crc32 p call) p actions q := by
  cases call with
  | connect fd =>
      obtain rfl := Except.ok.inj performed
      exact ⟨_, rfl, .connect p fd⟩
  | offsetRequest =>
      obtain rfl := Except.ok.inj performed
      have queued : Acts (fun p => .ok { p with
          writeBuffers := p.offsetBuffer :: p.writeBuffers }) p []
          { p with writeBuffers := p.offsetBuffer :: p.writeBuffers } :=
        .quiet rfl rfl fun _ => rfl
      exact ⟨_, rfl, queued.bind (.watch _ true)⟩
  | armTimer fd =>
      obtain ⟨mdTimerEvent, timerArmed, rfl⟩ := perform_armTimer performed
      refine ⟨_, rfl, armTimer_acts .mdTimerEvent fd
        KafkaClientConfig.mRefreshIntervalMs
        (fun mdTimerEvent p => { p with mdTimerEvent }) timerArmed ?_ rfl
        fun _ => rfl⟩
      funext eventData
      cases eventData <;> simp [descriptors, Function.update]
  | callbacks onReceivedData onProduceResponse onMsgQueued =>
      obtain rfl := Except.ok.inj performed
      exact ⟨_, rfl, .quiet rfl rfl fun _ => rfl⟩
  | startFetch eventFd timerFd => exact ⟨_, rfl, startFetch_acts performed⟩
  | startProduce eventFd queueFd timerFd =>
      exact ⟨_, rfl, startProduce_acts performed⟩
  | event event => exact step_acts performed

end KafkaPartition
end AsyncKafka
