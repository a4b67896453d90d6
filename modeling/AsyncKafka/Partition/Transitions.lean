import AsyncKafka.Partition.Specs

/-!
# What one event can do

Every step of a partition is one of a dozen moves.  `Transition` lists them
with everything an invariant may want to know about the states before and
after, and `step_transition` says that the list is complete.  The properties of
runs are proved by cases on it.
-/

namespace AsyncKafka

open Wire Execution

namespace Effect

/-- Effects that neither carry a message nor touch a fetch. -/
def isQuiet (effect : Effect) : Bool :=
  effect.isControl || effect == .msgQueued

theorem isQuiet_of_isControl
    {effect : Effect}
    (control : effect.isControl = true) :
    effect.isQuiet = true := by
  simp [isQuiet, control]

end Effect

namespace KafkaPartition

/-- `q` is `p` after changes to the connection, the event sources and the two
flags of the queues, which concern no message, frame or offset. -/
def Bookkeeping
    (p : KafkaPartition)
    (effects : List Effect)
    (q : KafkaPartition) : Prop :=
  (∃ leader sockFd reactor produceEvent produceMsgQEvent fetchEvent
      mdTimerEvent ocTimerEvent pReqTimerEvent msgCnt fetchPaused,
    q = { p with
      leader, sockFd, reactor, produceEvent, produceMsgQEvent, fetchEvent
      mdTimerEvent, ocTimerEvent, pReqTimerEvent, msgCnt, fetchPaused
      trace := p.trace ++ effects }) ∧
  ∀ effect ∈ effects, effect.isQuiet = true

namespace Bookkeeping

theorem of_connectionOnly
    {p q : KafkaPartition}
    {effects : List Effect}
    (only : ConnectionOnly p effects q) :
    Bookkeeping p effects q := by
  obtain ⟨⟨leader, sockFd, reactor, fetchEvent, rfl⟩, control⟩ := only
  exact ⟨⟨leader, sockFd, reactor, p.produceEvent, p.produceMsgQEvent,
      fetchEvent, p.mdTimerEvent, p.ocTimerEvent, p.pReqTimerEvent, p.msgCnt,
      p.fetchPaused, rfl⟩,
    fun effect member => Effect.isQuiet_of_isControl (control effect member)⟩

theorem refl (p : KafkaPartition) : Bookkeeping p [] p :=
  of_connectionOnly (.refl p)

theorem trans
    {p q r : KafkaPartition}
    {first second : List Effect}
    (before : Bookkeeping p first q)
    (after : Bookkeeping q second r) :
    Bookkeeping p (first ++ second) r := by
  obtain ⟨⟨_, _, _, _, _, _, _, _, _, _, _, rfl⟩, firstQuiet⟩ := before
  obtain ⟨⟨leader, sockFd, reactor, produceEvent, produceMsgQEvent, fetchEvent,
    mdTimerEvent, ocTimerEvent, pReqTimerEvent, msgCnt, fetchPaused, rfl⟩,
    secondQuiet⟩ := after
  refine ⟨⟨leader, sockFd, reactor, produceEvent, produceMsgQEvent, fetchEvent,
    mdTimerEvent, ocTimerEvent, pReqTimerEvent, msgCnt, fetchPaused, by
      rw [List.append_assoc]⟩, ?_⟩
  intro effect member
  rcases List.mem_append.mp member with inFirst | inSecond
  · exact firstQuiet effect inFirst
  · exact secondQuiet effect inSecond

/-- A change of the bookkeeping fields without an effect. -/
theorem update
    (p : KafkaPartition)
    (reactor : LibeventReactor)
    (produceEvent produceMsgQEvent fetchEvent : WakeupEventSource)
    (msgCnt : Int)
    (fetchPaused : Bool) :
    Bookkeeping p []
      { p with
        reactor, produceEvent, produceMsgQEvent, fetchEvent
        msgCnt, fetchPaused } :=
  ⟨⟨p.leader, p.sockFd, reactor, produceEvent, produceMsgQEvent, fetchEvent,
    p.mdTimerEvent, p.ocTimerEvent, p.pReqTimerEvent, msgCnt, fetchPaused, by
      rw [List.append_nil]⟩, by simp⟩

/-- A change of the produce event. -/
theorem produceEvent (p : KafkaPartition) (source : WakeupEventSource) :
    Bookkeeping p [] { p with produceEvent := source } :=
  update p p.reactor source p.produceMsgQEvent p.fetchEvent p.msgCnt
    p.fetchPaused

/-- A change of the event that reports queued messages. -/
theorem produceMsgQEvent (p : KafkaPartition) (source : WakeupEventSource) :
    Bookkeeping p [] { p with produceMsgQEvent := source } :=
  update p p.reactor p.produceEvent source p.fetchEvent p.msgCnt p.fetchPaused

/-- A change of the fetch event. -/
theorem fetchEvent (p : KafkaPartition) (source : WakeupEventSource) :
    Bookkeeping p [] { p with fetchEvent := source } :=
  update p p.reactor p.produceEvent p.produceMsgQEvent source p.msgCnt
    p.fetchPaused

/-- A change of the pause flag. -/
theorem fetchPaused (p : KafkaPartition) (paused : Bool) :
    Bookkeeping p [] { p with fetchPaused := paused } :=
  update p p.reactor p.produceEvent p.produceMsgQEvent p.fetchEvent p.msgCnt
    paused

/-- The registration of a timer or wakeup descriptor. -/
theorem registerSource (p : KafkaPartition) (fd : Int) (eventData : EventData) :
    Bookkeeping p [] (p.registerSource fd eventData) :=
  update p _ p.produceEvent p.produceMsgQEvent p.fetchEvent p.msgCnt
    p.fetchPaused

/-- A change of the timers. -/
theorem timers
    (p : KafkaPartition)
    (mdTimerEvent ocTimerEvent pReqTimerEvent : PeriodicEventSource) :
    Bookkeeping p [] { p with mdTimerEvent, ocTimerEvent, pReqTimerEvent } :=
  ⟨⟨p.leader, p.sockFd, p.reactor, p.produceEvent, p.produceMsgQEvent,
    p.fetchEvent, mdTimerEvent, ocTimerEvent, pReqTimerEvent, p.msgCnt,
    p.fetchPaused, by rw [List.append_nil]⟩, by simp⟩

end Bookkeeping

theorem closeBatch_bookkeeping
    {p q : KafkaPartition}
    (returned : p.closeBatch = .ok q) :
    Bookkeeping p [] q := by
  unfold closeBatch at returned
  split at returned
  · obtain ⟨produceEvent, -, finished⟩ := bind_eq_ok.mp returned
    obtain rfl := Except.ok.inj finished
    exact .update p p.reactor produceEvent p.produceMsgQEvent p.fetchEvent 0
      p.fetchPaused
  · obtain rfl := Except.ok.inj returned
    exact .refl p

theorem wakeupProduceMsgQ_bookkeeping
    {p q : KafkaPartition}
    (returned : p.wakeupProduceMsgQ = .ok q) :
    Bookkeeping p [] q := by
  obtain ⟨produceMsgQEvent, -, finished⟩ := bind_eq_ok.mp returned
  obtain rfl := Except.ok.inj finished
  exact .produceMsgQEvent p produceMsgQEvent

/-- One message is put at the back of the queue. -/
theorem enqueue_spec
    {p q : KafkaPartition}
    {msg : Bytes}
    (returned : p.enqueue msg = .ok q) :
    Bookkeeping { p with msgs := p.msgs ++ [msg] } [] q := by
  obtain ⟨closed, batched, finished⟩ := bind_eq_ok.mp returned
  obtain rfl := Except.ok.inj finished
  obtain ⟨⟨leader, sockFd, reactor, produceEvent, produceMsgQEvent, fetchEvent,
    mdTimerEvent, ocTimerEvent, pReqTimerEvent, msgCnt, fetchPaused, rfl⟩, -⟩ :=
    closeBatch_bookkeeping batched
  exact ⟨⟨leader, sockFd, reactor, produceEvent, produceMsgQEvent, fetchEvent,
    mdTimerEvent, ocTimerEvent, pReqTimerEvent, _, fetchPaused, rfl⟩, by simp⟩

/-- A vector of messages is put at the back of the queue in its order. -/
theorem foldlM_enqueue_spec
    {p q : KafkaPartition}
    {msgs : List Bytes}
    (returned : msgs.foldlM enqueue p = .ok q) :
    Bookkeeping { p with msgs := p.msgs ++ msgs } [] q := by
  induction msgs generalizing p with
  | nil =>
      obtain rfl := Except.ok.inj returned
      rw [List.append_nil]
      exact .refl p
  | cons msg msgs inductionHypothesis =>
      rw [List.foldlM_cons] at returned
      obtain ⟨queued, first, later⟩ := bind_eq_ok.mp returned
      have rest := inductionHypothesis later
      obtain ⟨⟨_, _, _, _, _, _, _, _, _, _, _, rfl⟩, -⟩ := enqueue_spec first
      obtain ⟨⟨leader, sockFd, reactor, produceEvent, produceMsgQEvent,
        fetchEvent, mdTimerEvent, ocTimerEvent, pReqTimerEvent, msgCnt,
        fetchPaused, rfl⟩, -⟩ := rest
      exact ⟨⟨leader, sockFd, reactor, produceEvent, produceMsgQEvent,
        fetchEvent, mdTimerEvent, ocTimerEvent, pReqTimerEvent, msgCnt,
        fetchPaused, by simp⟩, by simp⟩

/-- The messages that an event puts on the queue. -/
def Event.messages : Event → List Bytes
  | .produce msg => [msg]
  | .produceAll msgs => msgs
  | _ => []

theorem produce_spec
    {p q : KafkaPartition}
    {msg : Bytes}
    (returned : p.produce msg = .ok q) :
    Bookkeeping { p with msgs := p.msgs ++ [msg] } [] q := by
  obtain ⟨queued, accepted, woken⟩ := bind_eq_ok.mp returned
  simpa using (enqueue_spec accepted).trans (wakeupProduceMsgQ_bookkeeping woken)

/-- A vector is refused when it is empty; else its messages are put on the queue
and reported together. -/
theorem produceAll_cases
    {p q : KafkaPartition}
    {msgs : List Bytes}
    {code : Int}
    (returned : p.produceAll msgs = .ok (code, q)) :
    msgs = [] ∧ q = p ∨
      msgs ≠ [] ∧ ∃ queued, msgs.foldlM enqueue p = .ok queued ∧
        queued.wakeupProduceMsgQ = .ok q := by
  unfold produceAll at returned
  split at returned
  · rename_i empty
    obtain ⟨-, rfl⟩ := Prod.mk.inj (Except.ok.inj returned)
    exact .inl ⟨List.isEmpty_iff.mp empty, rfl⟩
  · rename_i nonempty
    obtain ⟨queued, accepted, finished⟩ := bind_eq_ok.mp returned
    obtain ⟨woken, notified, result⟩ := bind_eq_ok.mp finished
    obtain ⟨-, rfl⟩ := Prod.mk.inj (Except.ok.inj result)
    exact .inr ⟨fun empty => nonempty (List.isEmpty_iff.mpr empty), queued,
      accepted, notified⟩

theorem produceAll_spec
    {p q : KafkaPartition}
    {msgs : List Bytes}
    {code : Int}
    (returned : p.produceAll msgs = .ok (code, q)) :
    Bookkeeping { p with msgs := p.msgs ++ msgs } [] q := by
  rcases produceAll_cases returned with
    ⟨rfl, rfl⟩ | ⟨-, queued, accepted, notified⟩
  · rw [List.append_nil]
    exact .refl q
  · simpa using (foldlM_enqueue_spec accepted).trans
      (wakeupProduceMsgQ_bookkeeping notified)

/-- A step that is a call of the vector overload. -/
theorem step_produceAll
    {crc32 : Bytes → UInt32}
    {p q : KafkaPartition}
    {msgs : List Bytes}
    (stepped : step crc32 p (.produceAll msgs) = .ok q) :
    ∃ code, p.produceAll msgs = .ok (code, q) := by
  simp only [step] at stepped
  cases returned : p.produceAll msgs with
  | error halt =>
      rw [returned] at stepped
      cases stepped
  | ok result =>
      rw [returned] at stepped
      obtain rfl := Except.ok.inj stepped
      exact ⟨result.1, rfl⟩

/-! ## The list of moves -/

/-- The error code that a payload reports to the handler it is dispatched to. -/
def responseError (payload : Bytes) : Int :=
  if correlationId payload = apiKeyProduceRequest then
    reportedError (readProduceResponse payload)
  else if correlationId payload = apiKeyFetchRequest then
    reportedError (readFetchResponse payload)
  else if correlationId payload = apiKeyOffsetRequest then
    reportedError (readOffsetResponse payload)
  else 0

/-- Whether an event makes the partition give up its connection: the loss of
the connection itself, a reset of the write that the event causes, or the
news that the leader has moved. -/
def losesConnection (p : KafkaPartition) : Event → Bool
  | .readReady .closed _ => true
  | .readReady .reset _ => true
  | .readReady (.payload payload) surroundings =>
      if correlationId payload = apiKeyMetadataRequest then
        p.leaderMoves payload surroundings
      else errorBreaks (responseError payload) surroundings.writes
  | .writeReady outcome => outcome.isReset && !p.writeBuffers.isEmpty
  | _ => false

/-- No effect is a close unless the event loses the connection. -/
def KeepsConnection
    (p : KafkaPartition)
    (event : Event)
    (effects : List Effect) : Prop :=
  p.losesConnection event = false → ∀ effect ∈ effects, effect.isClose = false

/-- The moves of a partition. -/
inductive Transition (crc32 : Bytes → UInt32) (p : KafkaPartition) :
    Event → KafkaPartition → Prop
  /-- Messages are accepted, or nothing of interest happens. -/
  | accept
      {event : Event}
      {effects : List Effect}
      {q : KafkaPartition} :
      Bookkeeping { p with msgs := p.msgs ++ event.messages } effects q →
      (∀ effect ∈ effects, effect = .msgQueued) →
      Transition crc32 p event q
  /-- The queue is drained into produce frames. -/
  | drain
      {event : Event}
      {q : KafkaPartition} :
      event = .produceEvent ∨ event = .batchTimer →
      Bookkeeping
        { p with
          msgs := [], writeBuffers := p.writeBuffers ++ produceBuffers crc32 p }
        [] q →
      Transition crc32 p event q
  /-- A fetch request is queued at the current offset. -/
  | fetch
      {q : KafkaPartition} :
      Bookkeeping { p with writeBuffers := p.writeBuffers ++ [p.fetchBuffer] }
        [] q →
      Transition crc32 p .fetchEvent q
  /-- A metadata request is put in front. -/
  | metadata
      {q : KafkaPartition} :
      Bookkeeping { p with writeBuffers := p.metadataBuffer :: p.writeBuffers }
        [] q →
      Transition crc32 p .metadataTimer q
  /-- There is nothing to write. -/
  | idle
      {outcome : WriteOutcome}
      {q : KafkaPartition} :
      p.writeBuffers = [] →
      Bookkeeping p [] q →
      Transition crc32 p (.writeReady outcome) q
  /-- The front frame is handed to the kernel. -/
  | write
      {outcome : WriteOutcome}
      {req : WriteBuffer}
      {rest : List WriteBuffer}
      {effects : List Effect}
      {q : KafkaPartition} :
      p.writeBuffers = req :: rest →
      Bookkeeping
        ((p.popWriteBuffer req rest).record (.write req (outcome.accepted req)))
        effects q →
      (outcome.isReset = false → effects = []) →
      (outcome.isReset = true → ∃ fd later, effects = .close fd :: later) →
      Transition crc32 p (.writeReady outcome) q
  /-- The connection is lost in reading. -/
  | lost
      {received : ReadOutcome}
      {surroundings : Surroundings}
      {effects : List Effect}
      {q : KafkaPartition} :
      received = .closed ∨ received = .reset →
      Bookkeeping p (.close p.sockFd :: effects) q →
      Transition crc32 p (.readReady received surroundings) q
  /-- A produce request has succeeded. -/
  | produced
      {payload : Bytes}
      {surroundings : Surroundings}
      {response : ProduceResponse}
      {req : Bytes}
      {rest : List Bytes}
      {effects : List Effect}
      {q : KafkaPartition} :
      correlationId payload = apiKeyProduceRequest →
      readProduceResponse payload = .ok (response, 0) →
      p.inTransitProduceRequest = req :: rest →
      q = { p with
        inTransitProduceRequest := rest
        trace := p.trace ++ .read payload :: effects } →
      (effects = [] ∨ ∃ offset,
        effects = [.produceResponse p.topic p.partition offset]) →
      Transition crc32 p (.readReady (.payload payload) surroundings) q
  /-- A produce request has failed and is put back as its handler copies it. -/
  | refused
      {payload : Bytes}
      {surroundings : Surroundings}
      {response : ProduceResponse}
      {ec : Int}
      {req : Bytes}
      {rest : List Bytes}
      {effects : List Effect}
      {middle q : KafkaPartition} :
      correlationId payload = apiKeyProduceRequest →
      readProduceResponse payload = .ok (response, ec) →
      ec ≠ 0 →
      p.inTransitProduceRequest = req :: rest →
      Bookkeeping (p.record (.read payload)) effects middle →
      KeepsConnection p (.readReady (.payload payload) surroundings) effects →
      q = { middle with
        writeBuffers := p.writeBuffers ++
          [{ first := apiKeyProduceRequest, second := cStr req, request := none }]
        inTransitProduceRequest := rest } →
      Transition crc32 p (.readReady (.payload payload) surroundings) q
  /-- Messages have arrived. -/
  | fetched
      {payload : Bytes}
      {surroundings : Surroundings}
      {response : FetchResponse}
      {q : KafkaPartition} :
      correlationId payload = apiKeyFetchRequest →
      readFetchResponse payload = .ok (response, 0) →
      Bookkeeping ((p.record (.read payload)).deliver response.messages) [] q →
      Transition crc32 p (.readReady (.payload payload) surroundings) q
  /-- A start offset was reported. -/
  | repositioned
      {payload : Bytes}
      {surroundings : Surroundings}
      {offset : Int}
      {effects : List Effect}
      {middle : KafkaPartition} :
      correlationId payload = apiKeyOffsetRequest →
      p.announcedOffset payload = some offset →
      Bookkeeping (p.record (.read payload)) effects middle →
      KeepsConnection p (.readReady (.payload payload) surroundings) effects →
      Transition crc32 p (.readReady (.payload payload) surroundings)
        (middle.resetOffset offset)
  /-- Any other response only concerns the connection. -/
  | answered
      {payload : Bytes}
      {surroundings : Surroundings}
      {effects : List Effect}
      {q : KafkaPartition} :
      correlationId payload ≠ apiKeyProduceRequest →
      Bookkeeping (p.record (.read payload)) effects q →
      KeepsConnection p (.readReady (.payload payload) surroundings) effects →
      Transition crc32 p (.readReady (.payload payload) surroundings) q

/-- An event that puts no message on the queue and only does bookkeeping. -/
theorem Transition.quiet
    {crc32 : Bytes → UInt32}
    {p q : KafkaPartition}
    {event : Event}
    (silent : event.messages = [])
    (kept : Bookkeeping p [] q) :
    Transition crc32 p event q := by
  have accepted :
      Bookkeeping { p with msgs := p.msgs ++ event.messages } [] q := by
    rw [silent, List.append_nil]
    exact kept
  exact .accept accepted (by simp)

/-! ## Completeness of the list -/

theorem handleProduceResponse_transition
    {crc32 : Bytes → UInt32}
    {p q : KafkaPartition}
    {payload : Bytes}
    {surroundings : Surroundings}
    (produce : correlationId payload = apiKeyProduceRequest)
    (returned : (p.record (.read payload)).handleProduceResponse payload
      surroundings = .ok q) :
    Transition crc32 p (.readReady (.payload payload) surroundings) q := by
  obtain ⟨⟨response, ec⟩, readOk, -⟩ := bind_eq_ok.mp returned
  by_cases fine : ec = 0
  · subst fine
    obtain ⟨req, rest, effects, front, result, kinds⟩ :=
      handleProduceResponse_success readOk returned
    refine .produced produce readOk front ?_ kinds
    rw [result]
    simp only [record, List.append_assoc, List.singleton_append]
  · obtain ⟨req, rest, effects, middle, front, handled, unclosed, result⟩ :=
      handleProduceResponse_error readOk fine returned
    refine .refused produce readOk fine front (.of_connectionOnly handled) ?_
      result
    intro kept
    apply unclosed
    simpa [losesConnection, responseError, produce, readOk,
      apiKeyProduceRequest, apiKeyMetadataRequest] using kept

theorem handleFetchResponse_transition
    {crc32 : Bytes → UInt32}
    {p q : KafkaPartition}
    {payload : Bytes}
    {surroundings : Surroundings}
    (fetch : correlationId payload = apiKeyFetchRequest)
    (returned : (p.record (.read payload)).handleFetchResponse payload
      surroundings = .ok q) :
    Transition crc32 p (.readReady (.payload payload) surroundings) q := by
  obtain ⟨response, ec, readOk, erroneous | fine⟩ :=
    handleFetchResponse_spec returned
  · obtain ⟨-, effects, handled, unclosed⟩ := erroneous
    apply Transition.answered (by rw [fetch]; decide) (.of_connectionOnly handled)
    intro kept
    apply unclosed
    simpa [losesConnection, responseError, fetch, readOk,
      apiKeyProduceRequest, apiKeyFetchRequest, apiKeyMetadataRequest] using kept
  · obtain ⟨rfl, delivered⟩ := fine
    exact .fetched fetch readOk (.of_connectionOnly delivered)

theorem handleMetadataResponse_transition
    {crc32 : Bytes → UInt32}
    {p q : KafkaPartition}
    {payload : Bytes}
    {surroundings : Surroundings}
    (metadata : correlationId payload = apiKeyMetadataRequest)
    (returned : (p.record (.read payload)).handleMetadataResponse payload
      surroundings = .ok q) :
    Transition crc32 p (.readReady (.payload payload) surroundings) q := by
  obtain ⟨effects, handled, unmoved⟩ := handleMetadataResponse_spec returned
  apply Transition.answered (by rw [metadata]; decide) (.of_connectionOnly handled)
  intro kept
  rw [losesConnection, if_pos metadata] at kept
  rw [unmoved kept]
  simp

theorem handleOffsetResponse_transition
    {crc32 : Bytes → UInt32}
    {p q : KafkaPartition}
    {payload : Bytes}
    {surroundings : Surroundings}
    (offset : correlationId payload = apiKeyOffsetRequest)
    (returned : (p.record (.read payload)).handleOffsetResponse payload
      surroundings = .ok q) :
    Transition crc32 p (.readReady (.payload payload) surroundings) q := by
  obtain ⟨effects, middle, handled, unclosed, reported⟩ :=
    handleOffsetResponse_spec returned
  have keeps : KeepsConnection p (.readReady (.payload payload) surroundings)
      effects := by
    intro kept
    apply unclosed
    simpa [losesConnection, responseError, offset, apiKeyProduceRequest,
      apiKeyFetchRequest, apiKeyOffsetRequest, apiKeyMetadataRequest] using kept
  obtain ⟨-, rfl⟩ | ⟨start, announced, rfl⟩ := reported
  · exact .answered (by rw [offset]; decide) (.of_connectionOnly handled) keeps
  · exact .repositioned offset announced (.of_connectionOnly handled) keeps

theorem onReadReady_transition
    (crc32 : Bytes → UInt32)
    {p q : KafkaPartition}
    {received : ReadOutcome}
    {surroundings : Surroundings}
    (returned : p.onReadReady received surroundings = .ok q) :
    Transition crc32 p (.readReady received surroundings) q := by
  cases received with
  | payload payload =>
      simp only [onReadReady] at returned
      split at returned
      · cases returned
      split at returned
      · cases returned
      unfold dispatchResponse at returned
      split at returned
      · rename_i produce
        exact handleProduceResponse_transition produce returned
      split at returned
      · rename_i fetch
        exact handleFetchResponse_transition fetch returned
      split at returned
      · rename_i metadata
        exact handleMetadataResponse_transition metadata returned
      split at returned
      · rename_i offset
        exact handleOffsetResponse_transition offset returned
      · rename_i notProduce _ _ _
        obtain rfl := Except.ok.inj returned
        exact .answered notProduce (.refl _) (by simp [KeepsConnection])
  | closed =>
      obtain ⟨effects, closed⟩ := readError_spec returned
      exact .lost (.inl rfl) (.of_connectionOnly closed)
  | reset =>
      obtain ⟨effects, closed⟩ := readError_spec returned
      exact .lost (.inr rfl) (.of_connectionOnly closed)
  | failed =>
      obtain rfl := Except.ok.inj returned
      exact .quiet rfl (.refl p)

theorem onWriteReady_transition
    (crc32 : Bytes → UInt32)
    {p q : KafkaPartition}
    {outcome : WriteOutcome}
    (returned : p.onWriteReady outcome = .ok q) :
    Transition crc32 p (.writeReady outcome) q := by
  cases front : p.writeBuffers with
  | nil => exact .idle front (.of_connectionOnly (onWriteReady_nil front returned))
  | cons req rest =>
      obtain ⟨effects, written, kept, closed⟩ := onWriteReady_cons front returned
      exact .write front (.of_connectionOnly written) kept closed

theorem notifyProduceMsgQ_transition
    (crc32 : Bytes → UInt32)
    (p : KafkaPartition)
    (produceMsgQEvent : WakeupEventSource) :
    Transition crc32 p .produceMsgQEvent
      { p with produceMsgQEvent }.notifyProduceMsgQ := by
  unfold notifyProduceMsgQ
  split
  · have reported : Bookkeeping
        { p with msgs := p.msgs ++ Event.produceMsgQEvent.messages } [.msgQueued]
        ({ p with produceMsgQEvent }.record .msgQueued) :=
      ⟨⟨p.leader, p.sockFd, p.reactor, p.produceEvent, produceMsgQEvent,
        p.fetchEvent, p.mdTimerEvent, p.ocTimerEvent, p.pReqTimerEvent,
        p.msgCnt, p.fetchPaused, by
          simp only [record, Event.messages, List.append_nil]⟩,
        by simp [Effect.isQuiet]⟩
    exact .accept reported (by simp)
  · exact .quiet rfl (.produceMsgQEvent p produceMsgQEvent)

/-- Draining the queue after a change of the produce event. -/
theorem createProduceRequest_transition
    (crc32 : Bytes → UInt32)
    (p : KafkaPartition)
    (produceEvent : WakeupEventSource)
    {event : Event}
    (drains : event = .produceEvent ∨ event = .batchTimer) :
    Transition crc32 p event
      ({ p with produceEvent }.createProduceRequest crc32) :=
  .drain drains (.update _ _ produceEvent p.produceMsgQEvent p.fetchEvent
    p.msgCnt p.fetchPaused)

theorem createFetchRequest_transition
    (crc32 : Bytes → UInt32)
    (p : KafkaPartition)
    (fetchEvent : WakeupEventSource) :
    Transition crc32 p .fetchEvent { p with fetchEvent }.createFetchRequest := by
  unfold createFetchRequest
  split
  · exact .quiet rfl (.fetchEvent p fetchEvent)
  · exact .fetch (.update _ _ p.produceEvent p.produceMsgQEvent fetchEvent
      p.msgCnt p.fetchPaused)

theorem resumeFetch_bookkeeping
    {p q : KafkaPartition}
    (returned : p.resumeFetch = .ok q) :
    Bookkeeping p [] q := by
  unfold resumeFetch at returned
  split at returned
  · exact (Bookkeeping.fetchPaused p false).trans
      (.of_connectionOnly (.wakeupFetch returned))
  · obtain rfl := Except.ok.inj returned
    exact .refl p

/-- Every step of a partition is one of the moves. -/
theorem step_transition
    {crc32 : Bytes → UInt32}
    {p q : KafkaPartition}
    {event : Event}
    (returned : step crc32 p event = .ok q) :
    Transition crc32 p event q := by
  cases event with
  | produce msg => exact .accept (produce_spec returned) (by simp)
  | produceAll msgs =>
      obtain ⟨code, accepted⟩ := step_produceAll returned
      exact .accept (produceAll_spec accepted) (by simp)
  | pauseFetch =>
      obtain rfl := Except.ok.inj returned
      exact .quiet rfl (.fetchPaused p true)
  | resumeFetch => exact .quiet rfl (resumeFetch_bookkeeping returned)
  | produceEvent =>
      simp only [step] at returned
      split at returned <;> obtain rfl := Except.ok.inj returned
      · exact .quiet rfl (.produceEvent p _)
      · exact createProduceRequest_transition crc32 p _ (.inl rfl)
  | produceMsgQEvent =>
      simp only [step] at returned
      split at returned <;> obtain rfl := Except.ok.inj returned
      · exact .quiet rfl (.produceMsgQEvent p _)
      · exact notifyProduceMsgQ_transition crc32 p _
  | fetchEvent =>
      simp only [step] at returned
      split at returned <;> obtain rfl := Except.ok.inj returned
      · exact .quiet rfl (.fetchEvent p _)
      · exact createFetchRequest_transition crc32 p _
  | batchTimer =>
      obtain rfl := Except.ok.inj returned
      exact createProduceRequest_transition crc32 p p.produceEvent (.inr rfl)
  | metadataTimer =>
      obtain rfl := Except.ok.inj returned
      exact .metadata (.of_connectionOnly (createMetadataRequest_only p))
  | commitTimer =>
      obtain rfl := Except.ok.inj returned
      exact .quiet rfl (.refl p)
  | readReady received surroundings => exact onReadReady_transition crc32 returned
  | writeReady outcome => exact onWriteReady_transition crc32 returned

/-- What the constructor and the application have set once. -/
structure Identity where
  partitionType : KafkaPartitionType
  config : KafkaClientConfig
  topic : Bytes
  partition : Int
  brokers : List KafkaBroker
  onReceivedData : Bool
  onProduceResponse : Bool
  onMsgQueued : Bool
  storedOffsetFileName : Bytes

def identity (p : KafkaPartition) : Identity :=
  { partitionType := p.partitionType
    config := p.config
    topic := p.topic
    partition := p.partition
    brokers := p.brokers
    onReceivedData := p.onReceivedData
    onProduceResponse := p.onProduceResponse
    onMsgQueued := p.onMsgQueued
    storedOffsetFileName := p.storedOffsetFileName }

theorem Bookkeeping.identity
    {p q : KafkaPartition}
    {effects : List Effect}
    (kept : Bookkeeping p effects q) :
    q.identity = p.identity := by
  obtain ⟨⟨_, _, _, _, _, _, _, _, _, _, _, rfl⟩, -⟩ := kept
  rfl

theorem Bookkeeping.nextFetchOffset
    {p q : KafkaPartition}
    {effects : List Effect}
    (kept : Bookkeeping p effects q) :
    q.nextFetchOffset = p.nextFetchOffset := by
  obtain ⟨⟨_, _, _, _, _, _, _, _, _, _, _, rfl⟩, -⟩ := kept
  rfl

theorem deliver_identity (p : KafkaPartition) (messages : MessageSet) :
    (p.deliver messages).identity = p.identity := by
  obtain ⟨effects, same, -⟩ := deliver_eq p messages
  rw [same]
  rfl

theorem resetOffset_identity (p : KafkaPartition) (offset : Int) :
    (p.resetOffset offset).identity = p.identity := by
  rw [resetOffset_eq]
  rfl

/-- A move leaves the identity of the partition alone. -/
theorem Transition.identity
    {crc32 : Bytes → UInt32}
    {p q : KafkaPartition}
    {event : Event}
    (moved : Transition crc32 p event q) :
    q.identity = p.identity := by
  cases moved with
  | accept kept _ => exact kept.identity
  | drain _ kept => exact kept.identity
  | fetch kept => exact kept.identity
  | metadata kept => exact kept.identity
  | idle _ kept => exact kept.identity
  | write _ kept _ _ => exact kept.identity
  | lost _ kept => exact kept.identity
  | produced _ _ _ result _ =>
      subst result
      rfl
  | refused _ _ _ _ kept _ result =>
      subst result
      exact kept.identity
  | fetched _ _ kept => exact kept.identity.trans (deliver_identity _ _)
  | repositioned _ _ kept _ =>
      exact (resetOffset_identity _ _).trans kept.identity
  | answered _ kept _ => exact kept.identity

theorem Transition.config
    {crc32 : Bytes → UInt32}
    {p q : KafkaPartition}
    {event : Event}
    (moved : Transition crc32 p event q) :
    q.config = p.config :=
  congrArg Identity.config moved.identity

/-- A run leaves the identity of the partition alone. -/
theorem run_identity
    {crc32 : Bytes → UInt32}
    {allowed : KafkaPartition → Event → Prop}
    {start p : KafkaPartition}
    {history : List Event}
    (run : Run (step crc32) allowed start history p) :
    p.identity = start.identity := by
  apply run.invariant (fun _ state => state.identity = start.identity) rfl
  intro _ state event next same _ stepped
  exact (step_transition stepped).identity.trans same

end KafkaPartition
end AsyncKafka
