import AsyncKafka.Partition.Start

/-!
# The line to the broker

A view of a partition that keeps what its fetch loop, its interest in writing
and the matching of requests and responses depend on, and forgets the messages
and the offsets.  What an event does to the line is said once, in `Motion`; the
invariants of the line are proved by cases on it.
-/

namespace AsyncKafka

open Wire Execution

namespace WriteBuffer

/-- Whether the frame is a fetch request by its api key. -/
def isFetch (buffer : WriteBuffer) : Bool :=
  buffer.first == apiKeyFetchRequest

/-- The bytes of a frame that the kernel has accepted. -/
def taken (buffer : WriteBuffer) (accepted : Option Nat) : Bytes :=
  buffer.second.take (accepted.getD 0)

/-- Whether the kernel has accepted the whole frame. -/
def isWhole (buffer : WriteBuffer) (accepted : Option Nat) : Bool :=
  accepted.any fun count => buffer.second.length ≤ count

theorem isFetch_of_isControl
    {buffer : WriteBuffer}
    (control : buffer.isControl = true) :
    buffer.isFetch = false := by
  unfold isControl at control
  unfold isFetch
  split at control
  · simp_all [apiKeyMetadataRequest, apiKeyFetchRequest]
  · simp_all [apiKeyOffsetRequest, apiKeyFetchRequest]
  · simp at control

end WriteBuffer

/-- The bytes accepted on a connection, frame by frame. -/
abbrev Sent := List (WriteBuffer × Bytes)

/-- What the trace tells about the connections. -/
structure Exchange where
  /-- The fetch requests written whole on the current connection and not yet
  answered. -/
  fetches : Nat := 0
  /-- The produce frames accepted on the current connection and not yet
  answered. -/
  produces : Nat := 0
  /-- The bytes accepted on every connection, the current one first. -/
  streams : List Sent := [[]]
  deriving DecidableEq, Repr

namespace Exchange

/-- The connection is closed and another one begins. -/
def closed (exchange : Exchange) : Exchange :=
  { fetches := 0, produces := 0, streams := [] :: exchange.streams }

/-- Add the bytes that were accepted of a frame to the current connection. -/
def extend (streams : List Sent) (buffer : WriteBuffer) (bytes : Bytes) :
    List Sent :=
  match bytes, streams with
  | [], _ => streams
  | _, [] => [[(buffer, bytes)]]
  | _, stream :: earlier => (stream ++ [(buffer, bytes)]) :: earlier

/-- A frame was handed to the kernel. -/
def sent
    (exchange : Exchange)
    (buffer : WriteBuffer)
    (accepted : Option Nat) : Exchange :=
  { fetches :=
      if buffer.isFetch && buffer.isWhole accepted then exchange.fetches + 1
      else exchange.fetches
    produces :=
      if buffer.isProduce && accepted.isSome then exchange.produces + 1
      else exchange.produces
    streams := extend exchange.streams buffer (buffer.taken accepted) }

/-- A response was read. -/
def received (exchange : Exchange) (payload : Bytes) : Exchange :=
  { exchange with
    fetches :=
      if KafkaPartition.correlationId payload = apiKeyFetchRequest then
        exchange.fetches - 1
      else exchange.fetches
    produces :=
      if KafkaPartition.correlationId payload = apiKeyProduceRequest then
        exchange.produces - 1
      else exchange.produces }

/-- What an effect says about the connections. -/
def observe (exchange : Exchange) : Effect → Exchange
  | .close _ => exchange.closed
  | .write buffer accepted => exchange.sent buffer accepted
  | .read payload => exchange.received payload
  | _ => exchange

/-- A write that was not accepted leaves no trace. -/
@[simp] theorem sent_none (exchange : Exchange) (buffer : WriteBuffer) :
    exchange.sent buffer none = exchange := by
  simp [sent, WriteBuffer.isWhole, WriteBuffer.taken, extend]

/-- A control frame is neither a fetch nor a produce request. -/
theorem sent_control
    (exchange : Exchange)
    {buffer : WriteBuffer}
    (control : buffer.isControl = true)
    (accepted : Option Nat) :
    exchange.sent buffer accepted =
      { exchange with
        streams :=
          extend exchange.streams buffer (buffer.taken accepted) } := by
  simp [sent, WriteBuffer.isFetch_of_isControl control,
    WriteBuffer.isProduce_of_isControl control]

end Exchange

/-- The line of a partition. -/
structure Line where
  /-- Whether the reactor has an event base. -/
  attached : Bool
  /-- Whether the reactor watches the socket for writing, if it can and if
  there is one. -/
  watched : Bool
  /-- Whether the fetch event has been initialised. -/
  born : Bool
  /-- Whether the fetch event has a pending wakeup. -/
  woken : Bool
  paused : Bool
  queue : List WriteBuffer
  /-- The number of requests in transit. -/
  transit : Nat
  exchange : Exchange
  deriving DecidableEq, Repr

/-- Whether libevent holds an event that watches a descriptor for writing. -/
def LibeventReactor.watchesWriting (reactor : LibeventReactor) (fd : Int) :
    Bool :=
  reactor.live.any fun event => event.fd == fd && event.evWrite

namespace Line

/-- The front frame is taken off the deque. -/
def popped (line : Line) (req : WriteBuffer) (rest : List WriteBuffer) : Line :=
  { line with
    queue := rest
    transit := if req.isProduce then line.transit + 1 else line.transit }

/-- A frame was handed to the kernel. -/
def sent (line : Line) (req : WriteBuffer) (accepted : Option Nat) : Line :=
  { line with exchange := line.exchange.sent req accepted }

/-- A response was read. -/
def received (line : Line) (payload : Bytes) : Line :=
  { line with exchange := line.exchange.received payload }

/-- The fetch event is woken if asked for. -/
def wake (line : Line) (wakes : Bool) : Line :=
  { line with woken := line.woken || wakes }

/-- Nothing or part of one frame was accepted on a new connection. -/
def Opening (stream : Sent) : Prop :=
  stream = [] ∨ ∃ req accepted, stream = [(req, WriteBuffer.taken req accepted)]

/-- The connection has been given up and replaced, if that was possible. -/
def Replaced (line : Line) (wakes : Bool) (after : Line) : Prop :=
  ∃ opened : List Sent,
    opened ≠ [] ∧ (∀ stream ∈ opened, Opening stream) ∧
    after =
      { line with
        watched := true
        woken := line.woken || wakes
        exchange := ⟨0, 0, opened ++ line.exchange.streams⟩ }

end Line

namespace KafkaPartition

def isConsumer (p : KafkaPartition) : Bool := p.partitionType == .consumer

/-- What was exchanged so far. -/
def exchange (p : KafkaPartition) : Exchange :=
  p.trace.foldl Exchange.observe {}

/-- The line of a partition. -/
def line (p : KafkaPartition) : Line :=
  { attached := p.reactor.base
    watched := p.sockFd == -1 || !p.reactor.base ||
      p.reactor.watchesWriting p.sockFd
    born := p.fetchEvent.isOpen
    woken := p.fetchEvent.pending != 0
    paused := p.fetchPaused
    queue := p.writeBuffers
    transit := p.inTransitProduceRequest.length
    exchange := p.exchange }

theorem line_record (p : KafkaPartition) (effect : Effect) :
    (p.record effect).line =
      { p.line with exchange := p.line.exchange.observe effect } := by
  simp [line, exchange, record, List.foldl_append]

/-- A registration with both flags makes the reactor watch for writing. -/
theorem line_registerSocket (p : KafkaPartition) (modify : Bool) :
    (p.registerSocket getEventFlags modify).line =
      { p.line with watched := true } := by
  have base : (p.registerSocket getEventFlags modify).reactor.base =
      p.reactor.base := by
    simp only [registerSocket, LibeventReactor.registerFdCallback]
    split
    · cases modify <;> rfl
    · rfl
  have watches : (p.sockFd == -1 || !p.reactor.base ||
      (p.registerSocket getEventFlags modify).reactor.watchesWriting p.sockFd) =
        true := by
    cases attached : p.reactor.base with
    | false => simp
    | true =>
        simp [LibeventReactor.watchesWriting, registerSocket,
          LibeventReactor.registerFdCallback, attached, getEventFlags]
  unfold line
  rw [base]
  exact congrArg (fun watched => { p.line with watched := watched }) watches

/-- Dropping the interest in writing concerns nothing else. -/
theorem line_registerSocket_read (p : KafkaPartition) :
    ∃ watched, (p.registerSocket ⟨true, false⟩ true).line =
      { p.line with watched } := by
  have base : (p.registerSocket ⟨true, false⟩ true).reactor.base =
      p.reactor.base := by
    simp only [registerSocket, LibeventReactor.registerFdCallback]
    split <;> rfl
  refine ⟨(p.registerSocket ⟨true, false⟩ true).line.watched, ?_⟩
  simp only [line, base]
  rfl

/-- A closed socket needs no watching. -/
theorem line_closeSocket (p : KafkaPartition) (leader : KafkaBroker) :
    KafkaPartition.line { p.closeSocket with leader } =
      { p.line with
        watched := true, exchange := p.line.exchange.closed } := by
  simp [line, exchange, closeSocket, record, List.foldl_append,
    LibeventReactor.unregisterFdCallback, Exchange.observe]

theorem line_connectLeader (p : KafkaPartition) (fd : Int) :
    (p.connectLeader fd).line = { p.line with watched := true } := by
  rw [connectLeader, line_record, line_registerSocket]
  rfl

theorem line_wakeupFetch
    {p q : KafkaPartition}
    (woken : p.wakeupFetch = .ok q) :
    q.line = { p.line with woken := true } := by
  obtain ⟨fetchEvent, woke, returned⟩ := bind_eq_ok.mp woken
  obtain rfl := Except.ok.inj returned
  obtain ⟨opened, rfl⟩ := WakeupEventSource.wakeup_eq_ok.mp woke
  have pending := WakeupEventSource.pending_setCounter opened
    (p.fetchEvent.pending + 1)
  simp [line, pending, exchange, WakeupEventSource.isOpen_setCounter]

theorem line_wakeupFetchOfConsumer
    {p q : KafkaPartition}
    (woken : p.wakeupFetchOfConsumer = .ok q) :
    q.line = p.line.wake p.isConsumer := by
  unfold wakeupFetchOfConsumer at woken
  split at woken
  · rename_i consumer
    rw [line_wakeupFetch woken]
    simp [Line.wake, isConsumer, consumer]
  · rename_i producer
    obtain rfl := Except.ok.inj woken
    have other : p.isConsumer = false := beq_eq_false_iff_ne.mpr producer
    rw [Line.wake, other, Bool.or_false]

/-- A control frame is put in front. -/
theorem line_createMetadataRequest (p : KafkaPartition) :
    p.createMetadataRequest.line =
      { p.line with
        queue := p.metadataBuffer :: p.line.queue, watched := true } := by
  rw [createMetadataRequest, line_registerSocket]
  rfl

theorem line_createOffsetRequest (p : KafkaPartition) :
    p.createOffsetRequest.line =
      { p.line with
        queue := p.offsetBuffer :: p.line.queue, watched := true } := by
  rw [createOffsetRequest, line_registerSocket]
  rfl

theorem line_popWriteBuffer
    (p : KafkaPartition)
    (req : WriteBuffer)
    (rest : List WriteBuffer)
    (accepted : Option Nat) :
    ((p.popWriteBuffer req rest).record (.write req accepted)).line =
      (p.line.popped req rest).sent req accepted := by
  rw [line_record]
  unfold popWriteBuffer Line.popped Line.sent WriteBuffer.isProduce
  by_cases produce : req.first = apiKeyProduceRequest <;>
    simp [line, exchange, produce, Exchange.observe]

/-- Delivering messages does not concern the line. -/
theorem line_deliver (p : KafkaPartition) (messages : MessageSet) :
    (p.deliver messages).line = p.line := by
  unfold deliver
  dsimp only
  split
  · rw [line_record]
    rfl
  · rfl

theorem line_resetOffset (p : KafkaPartition) (offset : Int) :
    (p.resetOffset offset).line = p.line := by
  rw [resetOffset_eq]
  rfl

/-- Setting up a partition leaves no request unanswered. -/
theorem foldl_observe_unanswered
    {effects : List Effect}
    {exchange : Exchange}
    (preparation : ∀ effect ∈ effects, effect.isPreparation = true)
    (none : exchange.fetches = 0 ∧ exchange.produces = 0) :
    (effects.foldl Exchange.observe exchange).fetches = 0 ∧
      (effects.foldl Exchange.observe exchange).produces = 0 := by
  induction effects generalizing exchange with
  | nil => exact none
  | cons effect effects inductionHypothesis =>
      obtain ⟨noFetches, noProduces⟩ := none
      rw [List.foldl_cons]
      apply inductionHypothesis
        (fun other member => preparation other (List.mem_cons_of_mem _ member))
      have prepared := preparation effect List.mem_cons_self
      cases effect with
      | write buffer accepted =>
          have control : buffer.isControl = true := by
            simpa [Effect.isPreparation, Effect.isQuiet, Effect.isControl]
              using prepared
          rw [Exchange.observe, Exchange.sent_control _ control]
          exact ⟨noFetches, noProduces⟩
      | read payload =>
          simp [Exchange.observe, Exchange.received, noFetches, noProduces]
      | close fd => exact ⟨rfl, rfl⟩
      | _ => exact ⟨noFetches, noProduces⟩

theorem Fresh.unanswered
    {p : KafkaPartition}
    (fresh : Fresh p) :
    p.exchange.fetches = 0 ∧ p.exchange.produces = 0 :=
  foldl_observe_unanswered fresh.preparation ⟨rfl, rfl⟩

end KafkaPartition
end AsyncKafka
