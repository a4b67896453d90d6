import AsyncKafka.Partition.Transitions

/-!
# Newly started partitions

What a partition has behind it when its constructor has returned and fetching
or producing has been started: nothing but control frames were queued and
written, and nothing was delivered.  All runs start from such a state.
-/

namespace AsyncKafka

open Wire Execution

namespace Effect

/-- Effects that occur while a partition is set up. -/
def isPreparation (effect : Effect) : Bool :=
  effect.isQuiet ||
    match effect with
    | .read _ => true
    | _ => false

end Effect

namespace KafkaPartition

/-- Only control frames were queued and written so far. -/
structure Fresh (p : KafkaPartition) : Prop where
  noMessages : p.msgs = []
  nothingInTransit : p.inTransitProduceRequest = []
  controlFrames : ∀ buffer ∈ p.writeBuffers, buffer.isControl = true
  preparation : ∀ effect ∈ p.trace, effect.isPreparation = true

namespace Fresh

theorem bookkeeping
    {p q : KafkaPartition}
    {effects : List Effect}
    (kept : Bookkeeping p effects q)
    (fresh : Fresh p) :
    Fresh q := by
  obtain ⟨⟨_, _, _, _, _, _, _, _, _, _, _, rfl⟩, quiet⟩ := kept
  refine ⟨fresh.noMessages, fresh.nothingInTransit, fresh.controlFrames, ?_⟩
  intro effect member
  rcases List.mem_append.mp member with earlier | added
  · exact fresh.preparation effect earlier
  · simp [Effect.isPreparation, quiet effect added]

theorem read
    {p : KafkaPartition}
    (fresh : Fresh p)
    (payload : Bytes) :
    Fresh (p.record (.read payload)) := by
  refine ⟨fresh.noMessages, fresh.nothingInTransit, fresh.controlFrames, ?_⟩
  intro effect member
  rcases List.mem_append.mp member with earlier | added
  · exact fresh.preparation effect earlier
  · rw [List.mem_singleton.mp added]
    rfl

/-- A control frame in front changes nothing. -/
theorem control
    {p : KafkaPartition}
    (fresh : Fresh p)
    {req : WriteBuffer}
    (isControl : req.isControl = true) :
    Fresh { p with writeBuffers := req :: p.writeBuffers } := by
  refine ⟨fresh.noMessages, fresh.nothingInTransit, ?_, fresh.preparation⟩
  intro buffer member
  rcases List.mem_cons.mp member with rfl | later
  · exact isControl
  · exact fresh.controlFrames buffer later

/-- Writing the front frame changes nothing. -/
theorem pop
    {p : KafkaPartition}
    (fresh : Fresh p)
    {req : WriteBuffer}
    {rest : List WriteBuffer}
    (front : p.writeBuffers = req :: rest)
    (accepted : Option Nat) :
    Fresh ((p.popWriteBuffer req rest).record (.write req accepted)) := by
  have isControl : req.isControl = true :=
    fresh.controlFrames req (by simp [front])
  have notProduce : req.first ≠ apiKeyProduceRequest := by
    simpa [WriteBuffer.isProduce] using
      WriteBuffer.isProduce_of_isControl isControl
  refine ⟨fresh.noMessages, ?_, ?_, ?_⟩
  · simpa [record, popWriteBuffer, notProduce] using fresh.nothingInTransit
  · intro buffer member
    exact fresh.controlFrames buffer (by simp [front, show buffer ∈ rest from member])
  · intro effect member
    rcases List.mem_append.mp member with earlier | added
    · exact fresh.preparation effect earlier
    · rw [List.mem_singleton.mp added]
      simp [Effect.isPreparation, Effect.isQuiet, Effect.isControl, isControl]

theorem deliver
    {p : KafkaPartition}
    (fresh : Fresh p)
    (unregistered : p.onReceivedData = false)
    (messages : MessageSet) :
    Fresh (p.deliver messages) := by
  simp only [KafkaPartition.deliver, unregistered, Bool.and_false,
    Bool.false_eq_true, if_false]
  exact ⟨fresh.noMessages, fresh.nothingInTransit, fresh.controlFrames,
    fresh.preparation⟩

theorem resetOffset
    {p : KafkaPartition}
    (fresh : Fresh p)
    (offset : Int) :
    Fresh (p.resetOffset offset) := by
  rw [resetOffset_eq]
  exact ⟨fresh.noMessages, fresh.nothingInTransit, fresh.controlFrames,
    fresh.preparation⟩

/-- Reading and writing keep a partition fresh as long as the application has
not registered for messages. -/
theorem exchange
    {crc32 : Bytes → UInt32}
    {p q : KafkaPartition}
    {event : Event}
    (fresh : Fresh p)
    (unregistered : p.onReceivedData = false)
    (exchanges : (∃ received surroundings, event = .readReady received surroundings)
      ∨ ∃ outcome, event = .writeReady outcome)
    (moved : Transition crc32 p event q) :
    Fresh q := by
  have silent : event.messages = [] := by
    obtain ⟨_, _, rfl⟩ | ⟨_, rfl⟩ := exchanges <;> rfl
  cases moved with
  | accept kept _ =>
      rw [silent, List.append_nil] at kept
      exact fresh.bookkeeping kept
  | drain drains _ => rcases drains with rfl | rfl <;> simp at exchanges
  | fetch _ => simp at exchanges
  | metadata _ => simp at exchanges
  | idle _ kept => exact fresh.bookkeeping kept
  | write front kept _ _ => exact (fresh.pop front _).bookkeeping kept
  | lost _ kept => exact fresh.bookkeeping kept
  | produced _ _ front _ _ =>
      rw [fresh.nothingInTransit] at front
      cases front
  | refused _ _ _ front _ _ _ =>
      rw [fresh.nothingInTransit] at front
      cases front
  | fetched _ _ kept =>
      exact ((fresh.read _).deliver unregistered _).bookkeeping kept
  | repositioned _ _ kept _ =>
      exact ((fresh.read _).bookkeeping kept).resetOffset _
  | answered _ kept _ => exact (fresh.read _).bookkeeping kept

end Fresh

/-- A constructor's exchange, writing and reading, seen from outside. -/
theorem Fresh.written
    {p q : KafkaPartition}
    {outcome : WriteOutcome}
    (fresh : Fresh p)
    (unregistered : p.onReceivedData = false)
    (returned : p.onWriteReady outcome = .ok q) :
    Fresh q ∧ q.identity = p.identity := by
  have moved := onWriteReady_transition (fun _ => 0) returned
  exact ⟨fresh.exchange unregistered (.inr ⟨_, rfl⟩) moved, moved.identity⟩

theorem Fresh.received
    {p q : KafkaPartition}
    {received : ReadOutcome}
    {surroundings : Surroundings}
    (fresh : Fresh p)
    (unregistered : p.onReceivedData = false)
    (returned : p.onReadReady received surroundings = .ok q) :
    Fresh q ∧ q.identity = p.identity := by
  have moved := onReadReady_transition (fun _ => 0) returned
  exact ⟨fresh.exchange unregistered (.inl ⟨_, _, rfl⟩) moved, moved.identity⟩

/-- The steps of `init`: it connects, writes and reads twice, and arms the
metadata timer. -/
theorem init_steps
    {p q : KafkaPartition}
    {surroundings : InitSurroundings}
    (returned : p.init surroundings = .ok q) :
    ∃ fd first second third fourth mdTimerEvent,
      (p.connectLeader fd).createMetadataRequest.onWriteReady
        surroundings.metadataWrites = .ok first ∧
      first.onReadReady surroundings.metadataRead surroundings.metadata =
        .ok second ∧
      second.createOffsetRequest.onWriteReady surroundings.offsetWrites =
        .ok third ∧
      third.onReadReady surroundings.offsetRead surroundings.offset =
        .ok fourth ∧
      Bookkeeping fourth [] q ∧
      armTimer fourth.config.mRefreshIntervalMs surroundings.timerFd =
        .ok mdTimerEvent ∧
      q = { fourth with mdTimerEvent }.registerSource surroundings.timerFd
        .mdTimerEvent := by
  unfold init at returned
  split at returned
  · cases returned
  · rename_i fd _
    obtain ⟨first, firstWritten, returned⟩ := bind_eq_ok.mp returned
    obtain ⟨second, secondRead, returned⟩ := bind_eq_ok.mp returned
    obtain ⟨third, thirdWritten, returned⟩ := bind_eq_ok.mp returned
    obtain ⟨fourth, fourthRead, returned⟩ := bind_eq_ok.mp returned
    obtain ⟨mdTimerEvent, timerArmed, returned⟩ := bind_eq_ok.mp returned
    obtain rfl := Except.ok.inj returned
    have armed := (Bookkeeping.timers fourth mdTimerEvent
      fourth.ocTimerEvent fourth.pReqTimerEvent).trans
        (.registerSource _ surroundings.timerFd .mdTimerEvent)
    exact ⟨fd, first, second, third, fourth, mdTimerEvent, firstWritten,
      secondRead, thirdWritten, fourthRead, armed, timerArmed, rfl⟩

/-- The synchronous exchanges of `init` change nothing that was set once. -/
theorem init_identity
    {p q : KafkaPartition}
    {surroundings : InitSurroundings}
    (returned : p.init surroundings = .ok q) :
    q.identity = p.identity := by
  obtain ⟨fd, first, second, third, fourth, _, firstWritten, secondRead,
    thirdWritten, fourthRead, armed, -, -⟩ := init_steps returned
  calc q.identity = fourth.identity := armed.identity
    _ = third.identity :=
      (onReadReady_transition (fun _ => 0) fourthRead).identity
    _ = second.createOffsetRequest.identity :=
      (onWriteReady_transition (fun _ => 0) thirdWritten).identity
    _ = first.identity :=
      (onReadReady_transition (fun _ => 0) secondRead).identity
    _ = (p.connectLeader fd).createMetadataRequest.identity :=
      (onWriteReady_transition (fun _ => 0) firstWritten).identity
    _ = p.identity := rfl

/-- The synchronous exchanges of `init` leave a partition fresh. -/
theorem init_fresh
    {p q : KafkaPartition}
    {surroundings : InitSurroundings}
    (fresh : Fresh p)
    (unregistered : p.onReceivedData = false)
    (returned : p.init surroundings = .ok q) :
    Fresh q ∧ q.identity = p.identity := by
  obtain ⟨fd, first, second, third, fourth, _, firstWritten, secondRead,
    thirdWritten, fourthRead, armed, -, -⟩ := init_steps returned
  have connected : Bookkeeping p [.connect fd] (p.connectLeader fd) :=
    .of_connectionOnly (.connectLeader p fd)
  have asked (r : KafkaPartition) (rFresh : Fresh r) :
      Fresh r.createMetadataRequest ∧ Fresh r.createOffsetRequest :=
    ⟨(rFresh.control (metadataBuffer_isControl r)).bookkeeping
        (.of_connectionOnly (createMetadataRequest_only r)),
      (rFresh.control (offsetBuffer_isControl r)).bookkeeping
        (.of_connectionOnly (createOffsetRequest_only r))⟩
  have registered {r s : KafkaPartition} (same : s.identity = r.identity) :
      s.onReceivedData = r.onReceivedData :=
    congrArg Identity.onReceivedData same
  obtain ⟨firstFresh, firstSame⟩ :=
    (asked _ (fresh.bookkeeping connected)).1.written unregistered firstWritten
  have firstQuiet := (registered firstSame).trans unregistered
  obtain ⟨secondFresh, secondSame⟩ :=
    firstFresh.received firstQuiet secondRead
  have secondQuiet := (registered secondSame).trans firstQuiet
  obtain ⟨thirdFresh, thirdSame⟩ :=
    (asked _ secondFresh).2.written secondQuiet thirdWritten
  have thirdQuiet := (registered thirdSame).trans secondQuiet
  obtain ⟨fourthFresh, -⟩ := thirdFresh.received thirdQuiet fourthRead
  exact ⟨fourthFresh.bookkeeping armed, init_identity returned⟩

theorem getKafkaOffset_fresh
    {p q : KafkaPartition}
    {disk disk' : Disk}
    (fresh : Fresh p)
    (returned : p.getKafkaOffset disk = .ok (q, disk')) :
    Fresh q ∧ q.onReceivedData = p.onReceivedData ∧
      q.partitionType = p.partitionType ∧ q.config = p.config ∧
      q.brokers = p.brokers := by
  obtain ⟨noMessages, nothingInTransit, controlFrames, preparation⟩ := fresh
  unfold getKafkaOffset at returned
  dsimp only at returned
  split at returned
  · obtain ⟨rfl, -⟩ := Prod.mk.inj (Except.ok.inj returned)
    exact ⟨⟨noMessages, nothingInTransit, controlFrames, preparation⟩,
      rfl, rfl, rfl, rfl⟩
  · split at returned
    · obtain ⟨stored, -, finished⟩ := bind_eq_ok.mp returned
      obtain ⟨rfl, -⟩ := Prod.mk.inj (Except.ok.inj finished)
      exact ⟨⟨noMessages, nothingInTransit, controlFrames, preparation⟩,
        rfl, rfl, rfl, rfl⟩
    · obtain ⟨rfl, -⟩ := Prod.mk.inj (Except.ok.inj returned)
      exact ⟨⟨noMessages, nothingInTransit, controlFrames, preparation⟩,
        rfl, rfl, rfl, rfl⟩

/-- A newly constructed partition is fresh, and no callback is registered. -/
theorem construct_fresh
    {partitionType : KafkaPartitionType}
    {topic : Bytes}
    {partition : Int}
    {brokers : List KafkaBroker}
    {leader : KafkaBroker}
    {config : KafkaClientConfig}
    {disk disk' : Disk}
    {surroundings : InitSurroundings}
    {p : KafkaPartition}
    (returned : construct partitionType topic partition brokers leader config
      disk surroundings = .ok (p, disk')) :
    Fresh p ∧ p.partitionType = partitionType ∧ p.config = config ∧
      p.onReceivedData = false ∧ p.brokers = brokers := by
  have blankFresh :
      Fresh (blank partitionType topic partition brokers leader config) :=
    ⟨rfl, rfl, by simp [blank], by simp [blank]⟩
  unfold construct at returned
  obtain ⟨⟨positioned, positionedDisk⟩, located, returned⟩ :=
    bind_eq_ok.mp returned
  obtain ⟨initialised, initOk, returned⟩ := bind_eq_ok.mp returned
  obtain ⟨rfl, rfl⟩ := Prod.mk.inj (Except.ok.inj returned)
  have positionedFresh : Fresh positioned ∧ positioned.onReceivedData = false ∧
      positioned.partitionType = partitionType ∧
      positioned.config = config ∧ positioned.brokers = brokers := by
    unfold getKafkaOffsetOfConsumer at located
    split at located
    · exact getKafkaOffset_fresh blankFresh located
    · obtain ⟨rfl, -⟩ := Prod.mk.inj (Except.ok.inj located)
      exact ⟨blankFresh, rfl, rfl, rfl, rfl⟩
  obtain ⟨freshBefore, unregistered, sameType, sameConfig, sameBrokers⟩ :=
    positionedFresh
  obtain ⟨fresh, same⟩ := init_fresh freshBefore unregistered initOk
  exact ⟨fresh, (congrArg Identity.partitionType same).trans sameType,
    (congrArg Identity.config same).trans sameConfig,
    (congrArg Identity.onReceivedData same).trans unregistered,
    (congrArg Identity.brokers same).trans sameBrokers⟩

/-! ## Start -/

theorem startFetch_bookkeeping
    {p q : KafkaPartition}
    {eventFd timerFd : Int}
    (returned : p.startFetch eventFd timerFd = .ok q) :
    Bookkeeping p [] q := by
  obtain ⟨_, -, returned⟩ := bind_eq_ok.mp returned
  exact (((((Bookkeeping.fetchEvent p _).trans (.registerSource _ _ _)).trans
    (.timers _ _ _ _)).trans (.registerSource _ _ _)).trans
      (.of_connectionOnly (.wakeupFetchOfConsumer returned)))

theorem startProduce_bookkeeping
    {p q : KafkaPartition}
    {eventFd queueFd timerFd : Int}
    (returned : p.startProduce eventFd queueFd timerFd = .ok q) :
    Bookkeeping p [] q := by
  obtain ⟨_, -, returned⟩ := bind_eq_ok.mp returned
  exact ((((((Bookkeeping.produceEvent p _).trans (.registerSource _ _ _)).trans
    (.produceMsgQEvent _ _)).trans (.registerSource _ _ _)).trans
    (.timers _ _ _ _)).trans (.registerSource _ _ _)).trans
      (wakeupProduceMsgQ_bookkeeping returned)

/-- A producer before its first message: constructed, and started as often as the
constructor of its `KafkaProducer` and the application call `startProduce`, with
any callbacks registered. -/
inductive ConstructedProducer : KafkaPartition → Prop
  | constructed
      {topic : Bytes}
      {partition : Int}
      {brokers : List KafkaBroker}
      {leader : KafkaBroker}
      {config : KafkaClientConfig}
      {disk disk' : Disk}
      {surroundings : InitSurroundings}
      {p : KafkaPartition}
      {onProduceResponse onMsgQueued : Bool} :
      construct .producer topic partition brokers leader config disk
        surroundings = .ok (p, disk') →
      ConstructedProducer { p with onProduceResponse, onMsgQueued }
  | started
      {p q : KafkaPartition}
      {onProduceResponse onMsgQueued : Bool}
      {eventFd queueFd timerFd : Int} :
      ConstructedProducer p →
      { p with onProduceResponse, onMsgQueued }.startProduce eventFd queueFd
        timerFd = .ok q →
      ConstructedProducer q

/-- A producer just after a `startProduce`. -/
def StartedProducer (q : KafkaPartition) : Prop :=
  ∃ p onProduceResponse onMsgQueued eventFd queueFd timerFd,
    ConstructedProducer p ∧
    { p with onProduceResponse, onMsgQueued }.startProduce eventFd queueFd
      timerFd = .ok q

theorem StartedProducer.constructed
    {p : KafkaPartition}
    (started : StartedProducer p) :
    ConstructedProducer p := by
  obtain ⟨_, _, _, _, _, _, constructed, returned⟩ := started
  exact constructed.started returned

/-- A consumer just after `startFetch`, with `onReceivedData` registered. -/
def StartedConsumer (p : KafkaPartition) : Prop :=
  ∃ topic partition brokers leader config disk surroundings constructed disk'
      eventFd timerFd,
    construct .consumer topic partition brokers leader config disk surroundings =
      .ok (constructed, disk') ∧
    { constructed with onReceivedData := true }.startFetch eventFd timerFd =
      .ok p

theorem ConstructedProducer.fresh
    {p : KafkaPartition}
    (constructed : ConstructedProducer p) :
    Fresh p ∧ p.partitionType = .producer := by
  induction constructed with
  | constructed constructedOk =>
      obtain ⟨fresh, producer, -, -⟩ := construct_fresh constructedOk
      exact ⟨⟨fresh.noMessages, fresh.nothingInTransit, fresh.controlFrames,
        fresh.preparation⟩, producer⟩
  | started _ returned inductionHypothesis =>
      obtain ⟨fresh, producer⟩ := inductionHypothesis
      have kept := startProduce_bookkeeping returned
      exact ⟨Fresh.bookkeeping kept
        ⟨fresh.noMessages, fresh.nothingInTransit, fresh.controlFrames,
          fresh.preparation⟩,
        (congrArg Identity.partitionType kept.identity).trans producer⟩

theorem StartedConsumer.fresh
    {p : KafkaPartition}
    (started : StartedConsumer p) :
    Fresh p ∧ p.partitionType = .consumer ∧ p.onReceivedData = true := by
  obtain ⟨_, _, _, _, _, _, _, constructed, _, _, _, constructedOk,
    startedOk⟩ := started
  obtain ⟨fresh, consumer, -, -⟩ := construct_fresh constructedOk
  have kept := startFetch_bookkeeping startedOk
  exact ⟨Fresh.bookkeeping kept
    ⟨fresh.noMessages, fresh.nothingInTransit, fresh.controlFrames,
      fresh.preparation⟩,
    (congrArg Identity.partitionType kept.identity).trans consumer,
    congrArg Identity.onReceivedData kept.identity⟩

/-- A wakeup leaves the descriptor of the fetch event open. -/
theorem isOpen_wakeupFetchOfConsumer
    {p q : KafkaPartition}
    (returned : p.wakeupFetchOfConsumer = .ok q)
    (opened : p.fetchEvent.isOpen = true) :
    q.fetchEvent.isOpen = true := by
  unfold wakeupFetchOfConsumer at returned
  split at returned
  · obtain ⟨fetchEvent, woken, finished⟩ := bind_eq_ok.mp returned
    obtain rfl := Except.ok.inj finished
    obtain ⟨-, rfl⟩ := WakeupEventSource.wakeup_eq_ok.mp woken
    exact (WakeupEventSource.isOpen_setCounter _ _).trans opened
  · obtain rfl := Except.ok.inj returned
    exact opened

/-- A consumer that was just started can take responses. -/
theorem StartedConsumer.receiving
    {p : KafkaPartition}
    (started : StartedConsumer p) :
    Receiving p := by
  refine ⟨started.fresh.2.2, ?_⟩
  obtain ⟨_, _, _, _, _, _, _, constructed, _, eventFd, _, -, startedOk⟩ := started
  obtain ⟨_, -, startedOk⟩ := bind_eq_ok.mp startedOk
  exact isOpen_wakeupFetchOfConsumer startedOk
    (WakeupEventSource.isOpen_init constructed.fetchEvent eventFd)

/-- Two brokers of a cluster. -/
def sampleBrokers : List KafkaBroker :=
  [{ id := 1, host := [97], ip := [49], port := 9092 },
    { id := 2, host := [98], ip := [50], port := 9093 }]

/-- A construction in which the brokers know neither leader nor offset. -/
def sampleSurroundings : InitSurroundings :=
  { connect := some 5
    metadataRead := .payload [0, 0, 0, 3, 0, 0, 0, 0, 0, 0, 0, 0]
    offsetRead := .payload [0, 0, 0, 2, 0, 0, 0, 0]
    timerFd := 6 }

/-- A disk without files. -/
def emptyDisk : Disk := ⟨fun _ => none, fun _ => false⟩

/-- A partition of the topic `t` as the constructor makes it. -/
def sampleConstruct
    (partitionType : KafkaPartitionType)
    (config : KafkaClientConfig) : Except Halt (KafkaPartition × Disk) :=
  construct partitionType [116] 0 sampleBrokers
    { id := 1, host := [97], ip := [49], port := 9092 } config emptyDisk
    sampleSurroundings

/-- A producer of the topic `t`. -/
def sampleProducer (config : KafkaClientConfig) : KafkaPartition :=
  (do let (p, _) ← sampleConstruct .producer config
      p.startProduce 7 8 9 : Except Halt KafkaPartition).toOption.getD
    (blank .producer [116] 0 sampleBrokers {} config)

/-- A consumer of the topic `t`. -/
def sampleConsumer (config : KafkaClientConfig) : KafkaPartition :=
  (do let (p, _) ← sampleConstruct .consumer config
      { p with onReceivedData := true }.startFetch 7 8
      : Except Halt KafkaPartition).toOption.getD
    (blank .consumer [116] 0 sampleBrokers {} config)

theorem sampleProducer_started
    (config : KafkaClientConfig)
    (returns : (do
      let (p, _) ← sampleConstruct .producer config
      p.startProduce 7 8 9 : Except Halt KafkaPartition).isOk = true) :
    StartedProducer (sampleProducer config) := by
  obtain ⟨⟨p, disk⟩, constructed, started⟩ :=
    bind_eq_ok.mp (eq_ok_of_isOk returns
      (blank .producer [116] 0 sampleBrokers {} config))
  exact ⟨p, p.onProduceResponse, p.onMsgQueued, 7, 8, 9,
    .constructed constructed, started⟩

theorem sampleConsumer_started
    (config : KafkaClientConfig)
    (returns : (do
      let (p, _) ← sampleConstruct .consumer config
      { p with onReceivedData := true }.startFetch 7 8
        : Except Halt KafkaPartition).isOk = true) :
    StartedConsumer (sampleConsumer config) := by
  obtain ⟨⟨p, disk⟩, constructed, started⟩ :=
    bind_eq_ok.mp (eq_ok_of_isOk returns
      (blank .consumer [116] 0 sampleBrokers {} config))
  exact ⟨_, _, _, _, _, _, _, p, disk, 7, 8, constructed, started⟩

end KafkaPartition
end AsyncKafka
