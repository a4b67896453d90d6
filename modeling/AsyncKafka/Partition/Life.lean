import AsyncKafka.Partition.Motion

/-!
# The life of a partition

The constructor talks to the broker before any event source exists, through the
same functions that the reactor calls later.  Here its steps are calls among
the others, so that a run may begin with a partition that was never connected
and an invariant covers the constructor as well.
-/

namespace AsyncKafka

open Wire Execution

namespace KafkaPartition

/-- What the constructor, the application and the reactor do with a
partition. -/
inductive Call
  /-- The first connection, made by `init`. -/
  | connect (fd : Int)
  /-- The offset request of `init`. -/
  | offsetRequest
  /-- The metadata timer, armed by `init`. -/
  | armTimer (fd : Int)
  | callbacks (onReceivedData onProduceResponse onMsgQueued : Bool)
  | startFetch (eventFd timerFd : Int)
  | startProduce (eventFd queueFd timerFd : Int)
  | event (event : Event)
  deriving DecidableEq, Repr

/-- The effect of a call. -/
def perform (crc32 : Bytes → UInt32) (p : KafkaPartition) :
    Call → Except Halt KafkaPartition
  | .connect fd => .ok (p.connectLeader fd)
  | .offsetRequest => .ok p.createOffsetRequest
  | .armTimer fd => do
      let mdTimerEvent ←
        KafkaPartition.armTimer p.config.mRefreshIntervalMs fd
      return { p with mdTimerEvent }.registerSource fd .mdTimerEvent
  | .callbacks onReceivedData onProduceResponse onMsgQueued =>
      .ok { p with onReceivedData, onProduceResponse, onMsgQueued }
  | .startFetch eventFd timerFd => p.startFetch eventFd timerFd
  | .startProduce eventFd queueFd timerFd =>
      p.startProduce eventFd queueFd timerFd
  | .event event => step crc32 p event

/-- Arming the metadata timer only stores and registers it. -/
theorem perform_armTimer
    {crc32 : Bytes → UInt32}
    {p q : KafkaPartition}
    {fd : Int}
    (performed : perform crc32 p (.armTimer fd) = .ok q) :
    ∃ mdTimerEvent,
      KafkaPartition.armTimer p.config.mRefreshIntervalMs fd =
        .ok mdTimerEvent ∧
      q = { p with mdTimerEvent }.registerSource fd .mdTimerEvent := by
  obtain ⟨mdTimerEvent, armed, finished⟩ := bind_eq_ok.mp performed
  exact ⟨mdTimerEvent, armed, (Except.ok.inj finished).symm⟩

/-- The calls that `init` makes once it has a connection. -/
def initCalls (fd : Int) (surroundings : InitSurroundings) : List Call :=
  [.connect fd, .event .metadataTimer,
    .event (.writeReady surroundings.metadataWrites),
    .event (.readReady surroundings.metadataRead surroundings.metadata),
    .offsetRequest, .event (.writeReady surroundings.offsetWrites),
    .event (.readReady surroundings.offsetRead surroundings.offset),
    .armTimer surroundings.timerFd]

/-- The constructor's exchanges are these calls, one after the other. -/
theorem init_eq_foldlM
    (crc32 : Bytes → UInt32)
    (p : KafkaPartition)
    {surroundings : InitSurroundings}
    {fd : Int}
    (connects : surroundings.connect = some fd) :
    p.init surroundings =
      (initCalls fd surroundings).foldlM (perform crc32) p := by
  simp only [init, connects, initCalls, List.foldlM_cons, List.foldlM_nil,
    perform, step, ok_bind, bind_pure]

/-- A partition before `init`: the constructor has set its fields and a
consumer has looked for its offset. -/
def Unborn (p : KafkaPartition) : Prop :=
  ∃ partitionType topic partition brokers leader config nextFetchOffset
      storedOffsetFileName,
    p = { blank partitionType topic partition brokers leader config with
      nextFetchOffset, storedOffsetFileName }

/-- What precedes `init` in the constructor leaves a partition unborn. -/
theorem getKafkaOffsetOfConsumer_unborn
    {partitionType : KafkaPartitionType}
    {topic : Bytes}
    {partition : Int}
    {brokers : List KafkaBroker}
    {leader : KafkaBroker}
    {config : KafkaClientConfig}
    {disk disk' : Disk}
    {p : KafkaPartition}
    (located : (blank partitionType topic partition brokers leader
      config).getKafkaOffsetOfConsumer disk = .ok (p, disk')) :
    Unborn p := by
  unfold getKafkaOffsetOfConsumer getKafkaOffset at located
  split at located
  · dsimp only at located
    split at located
    · obtain ⟨rfl, -⟩ := Prod.mk.inj (Except.ok.inj located)
      exact ⟨partitionType, topic, partition, brokers, leader, config, _, _, rfl⟩
    · split at located
      · obtain ⟨stored, -, finished⟩ := bind_eq_ok.mp located
        obtain ⟨rfl, -⟩ := Prod.mk.inj (Except.ok.inj finished)
        exact ⟨partitionType, topic, partition, brokers, leader, config, _, _,
          rfl⟩
      · obtain ⟨rfl, -⟩ := Prod.mk.inj (Except.ok.inj located)
        exact ⟨partitionType, topic, partition, brokers, leader, config, _, _,
          rfl⟩
  · obtain ⟨rfl, -⟩ := Prod.mk.inj (Except.ok.inj located)
    exact ⟨partitionType, topic, partition, brokers, leader, config, _, _, rfl⟩

/-- A partition as the constructor returns it has made the calls of `init`. -/
theorem construct_run
    (crc32 : Bytes → UInt32)
    {partitionType : KafkaPartitionType}
    {topic : Bytes}
    {partition : Int}
    {brokers : List KafkaBroker}
    {leader : KafkaBroker}
    {config : KafkaClientConfig}
    {disk disk' : Disk}
    {surroundings : InitSurroundings}
    {p : KafkaPartition}
    (returned : construct partitionType topic partition brokers leader config
      disk surroundings = .ok (p, disk')) :
    ∃ start fd, Unborn start ∧ surroundings.connect = some fd ∧
      Run (perform crc32) (fun _ _ => True) start (initCalls fd surroundings)
        p := by
  unfold construct at returned
  obtain ⟨⟨start, positionedDisk⟩, located, returned⟩ := bind_eq_ok.mp returned
  obtain ⟨initialised, initOk, returned⟩ := bind_eq_ok.mp returned
  obtain ⟨rfl, rfl⟩ := Prod.mk.inj (Except.ok.inj returned)
  cases connects : surroundings.connect with
  | none =>
      rw [init, connects] at initOk
      cases initOk
  | some fd =>
      rw [init_eq_foldlM crc32 start connects] at initOk
      exact ⟨start, fd, getKafkaOffsetOfConsumer_unborn located, rfl,
        .of_foldlM initOk⟩

/-- The line of a partition that was never connected. -/
theorem Unborn.line_eq
    {p : KafkaPartition}
    (unborn : Unborn p) :
    p.line =
      { attached := true
        watched := true
        born := false
        woken := false
        paused := false
        queue := []
        transit := 0
        exchange := {} } := by
  obtain ⟨_, _, _, _, _, _, _, _, rfl⟩ := unborn
  rfl

/-- A partition of the topic `t` before `init`. -/
def sampleUnborn (partitionType : KafkaPartitionType) : KafkaPartition :=
  blank partitionType [116] 0 sampleBrokers
    { id := 1, host := [97], ip := [49], port := 9092 } {}

theorem sampleUnborn_unborn (partitionType : KafkaPartitionType) :
    Unborn (sampleUnborn partitionType) :=
  ⟨partitionType, [116], 0, sampleBrokers,
    { id := 1, host := [97], ip := [49], port := 9092 }, {}, 0, [], rfl⟩

theorem line_registerSource
    (p : KafkaPartition)
    (fd : Int)
    (eventData : EventData) :
    (p.registerSource fd eventData).line = p.line := by
  unfold registerSource LibeventReactor.registerFdCallback
  cases attached : p.reactor.base with
  | false => rfl
  | true =>
      simp [line, exchange, LibeventReactor.watchesWriting, attached]

/-- What a call does to the line. -/
inductive CallMotion (p : KafkaPartition) : Call → Line → Prop
  | event
      {event : Event}
      {after : Line} :
      Motion p event after →
      CallMotion p (.event event) after
  | connect
      {fd : Int} :
      CallMotion p (.connect fd) { p.line with watched := true }
  | ask
      {req : WriteBuffer} :
      req.isControl = true →
      CallMotion p .offsetRequest
        { p.line with queue := req :: p.line.queue, watched := true }
  /-- The fetch event is new and a consumer wakes it. -/
  | start
      {eventFd timerFd : Int} :
      CallMotion p (.startFetch eventFd timerFd)
        { p.line with born := true, woken := p.isConsumer }
  /-- The other calls do not concern the line. -/
  | quiet
      {call : Call} :
      CallMotion p call p.line

theorem isConsumer_registerSource
    (p : KafkaPartition)
    (fd : Int)
    (eventData : EventData) :
    (p.registerSource fd eventData).isConsumer = p.isConsumer := rfl

/-- A new fetch event has no wakeup pending. -/
theorem line_initFetch (p : KafkaPartition) (fd : Int) :
    line { p with fetchEvent := p.fetchEvent.init fd } =
      { p.line with born := true, woken := false } := by
  have pending : (p.fetchEvent.init fd).pending = 0 := by
    simp [WakeupEventSource.pending, WakeupEventSource.init]
  have opened := WakeupEventSource.isOpen_init p.fetchEvent fd
  simp [line, exchange, pending, opened]

theorem startFetch_line
    {p q : KafkaPartition}
    {eventFd timerFd : Int}
    (returned : p.startFetch eventFd timerFd = .ok q) :
    q.line = { p.line with born := true, woken := p.isConsumer } := by
  obtain ⟨ocTimerEvent, -, returned⟩ := bind_eq_ok.mp returned
  have woken := line_wakeupFetchOfConsumer returned
  rw [line_registerSource, isConsumer_registerSource] at woken
  -- The commit timer is not on the line.
  change q.line = Line.wake (line (registerSource
    { p with fetchEvent := p.fetchEvent.init eventFd } eventFd .fetchEvent))
    p.isConsumer at woken
  rw [line_registerSource, line_initFetch] at woken
  rw [woken, Line.wake, Bool.false_or]

theorem startProduce_line
    {p q : KafkaPartition}
    {eventFd queueFd timerFd : Int}
    (returned : p.startProduce eventFd queueFd timerFd = .ok q) :
    q.line = p.line := by
  obtain ⟨pReqTimerEvent, -, returned⟩ := bind_eq_ok.mp returned
  have woken := wakeupProduceMsgQ_line returned
  rw [line_registerSource] at woken
  change q.line = line (registerSource
    { registerSource { p with produceEvent := p.produceEvent.init eventFd }
        eventFd .produceEvent with
      produceMsgQEvent := p.produceMsgQEvent.init queueFd }
    queueFd .produceMsgQEvent) at woken
  rw [line_registerSource] at woken
  change q.line = line (registerSource
    { p with produceEvent := p.produceEvent.init eventFd } eventFd
    .produceEvent) at woken
  rw [line_registerSource] at woken
  exact woken

theorem perform_motion
    {crc32 : Bytes → UInt32}
    {p q : KafkaPartition}
    {call : Call}
    (returned : perform crc32 p call = .ok q) :
    CallMotion p call q.line := by
  cases call with
  | connect fd =>
      obtain rfl := Except.ok.inj returned
      rw [line_connectLeader]
      exact .connect
  | offsetRequest =>
      obtain rfl := Except.ok.inj returned
      rw [line_createOffsetRequest]
      exact .ask (offsetBuffer_isControl p)
  | armTimer fd =>
      obtain ⟨_, -, rfl⟩ := perform_armTimer returned
      rw [line_registerSource]
      exact .quiet
  | callbacks onReceivedData onProduceResponse onMsgQueued =>
      obtain rfl := Except.ok.inj returned
      exact .quiet
  | startFetch eventFd timerFd =>
      rw [startFetch_line returned]
      exact .start
  | startProduce eventFd queueFd timerFd =>
      rw [startProduce_line returned]
      exact .quiet
  | event event => exact .event (step_motion returned)

/-- What holds of the line of an unborn partition and is kept by every call
holds of the line in every run. -/
theorem line_invariant
    {crc32 : Bytes → UInt32}
    {allowed : KafkaPartition → Call → Prop}
    {start p : KafkaPartition}
    {history : List Call}
    (property : Line → Prop)
    (initially : property start.line)
    (kept : ∀ state call after, property state.line → allowed state call →
      CallMotion state call after → property after)
    (run : Run (perform crc32) allowed start history p) :
    property p.line := by
  apply run.invariant fun _ p => property p.line
  · exact initially
  · intro _ state call next before permitted performed
    exact kept state call next.line before permitted (perform_motion performed)

end KafkaPartition
end AsyncKafka
