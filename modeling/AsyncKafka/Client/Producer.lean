import AsyncKafka.Partition.Lifecycle
import AsyncKafka.Library.Execution

/-!
# The producer

`KafkaProducer` holds one partition, or all partitions of its topic.  In the
second case it chooses among them with a cursor, `currPartition`, which is a
variable of the file and not of the class: all producers of the process move
the same one.
-/

namespace AsyncKafka

open Wire ByteOrder Execution

/-- `KAFKA_ALL_PARTITIONS`. -/
def kafkaAllPartitions : Int := -1

inductive KafkaPartitioningMethod
  | roundRobin
  | partitionFunction
  deriving DecidableEq, Repr

/-- A producer with the members that `produce` reads. -/
structure KafkaProducer where
  partition : Int := kafkaAllPartitions
  pPartitioningMethod : KafkaPartitioningMethod := .roundRobin
  partitions : List KafkaPartition
  deriving DecidableEq, Repr

/-- The statement `currPartition = currPartition++` stores twice in one object.
The two stores are unsequenced, so that C++11 gives the statement no meaning; a
compiler emits them in one order or in the other. -/
inductive StoreOrder
  /-- The old value is stored last. -/
  | assignLast
  /-- The incremented value is stored last. -/
  | incrementLast
  deriving DecidableEq, Repr

/-- The value that the two stores leave. -/
def StoreOrder.postIncrement (order : StoreOrder) (currPartition : Int) : Int :=
  match order with
  | .assignLast => currPartition
  | .incrementLast => wrap 32 (currPartition + 1)

/-- How the compiler has ordered the stores in the two overloads of
`produce`. -/
structure StoreOrders where
  message : StoreOrder
  vector : StoreOrder
  deriving DecidableEq, Repr

namespace KafkaProducer

/-- The cursor after a call: `int32_t` in a remainder of `size_t`. -/
def advance (order : StoreOrder) (size : Nat) (currPartition : Int) : Int :=
  wrap 32 (order.postIncrement currPartition % 2 ^ 64 % size)

/-- The element of the partitions that a call accesses: the first one, or the one
at the cursor.  With a partition function, which is not implemented, it accesses
none. -/
def chosen (producer : KafkaProducer) (currPartition : Int) : Option Nat :=
  if producer.partition ≠ kafkaAllPartitions then some 0
  else match producer.pPartitioningMethod with
    | .roundRobin => some (currPartition % 2 ^ 64).toNat
    | .partitionFunction => none

/-- What both overloads of `produce` do, given what they do with a partition:
the producer and the cursor afterwards. -/
def produceWith
    (producer : KafkaProducer)
    (order : StoreOrder)
    (produce : KafkaPartition → Except Halt KafkaPartition)
    (currPartition : Int) : Except Halt (KafkaProducer × Int) :=
  match producer.chosen currPartition with
  | none => .ok (producer, currPartition)
  | some index =>
      match producer.partitions[index]? with
      | none => .error .undefinedBehaviour
      | some p => do
          let p ← produce p
          let partitions := producer.partitions.set index p
          return ({ producer with partitions },
            if producer.partition ≠ kafkaAllPartitions then currPartition
            else advance order producer.partitions.length currPartition)

/-- `produce` of one message. -/
def produce
    (producer : KafkaProducer)
    (orders : StoreOrders)
    (msg : Bytes) : Int → Except Halt (KafkaProducer × Int) :=
  producer.produceWith orders.message fun p => p.produce msg

/-- `produce` of a vector of messages. -/
def produceAll
    (producer : KafkaProducer)
    (orders : StoreOrders)
    (msgs : List Bytes) : Int → Except Halt (KafkaProducer × Int) :=
  producer.produceWith orders.vector fun p => (p.produceAll msgs).map Prod.snd

/-- Start every partition, given the descriptors that the kernel returns for
each of them. -/
def startProduce
    (producer : KafkaProducer)
    (descriptors : List (Int × Int × Int)) : Except Halt KafkaProducer := do
  let partitions ← (producer.partitions.zip descriptors).mapM
    fun (p, eventFd, queueFd, timerFd) => p.startProduce eventFd queueFd timerFd
  return { producer with partitions }

end KafkaProducer

namespace KafkaPartition

/-- The events that `produce` wakes have been initialised. -/
structure Accepting (p : KafkaPartition) : Prop where
  produceEvent : p.produceEvent.isOpen = true
  produceMsgQEvent : p.produceMsgQEvent.isOpen = true

/-- A wakeup of an open descriptor returns. -/
theorem wakeup_returns
    {source : WakeupEventSource}
    (opened : source.isOpen = true) :
    ∃ next, source.wakeup = .ok next ∧ next.isOpen = true := by
  refine ⟨source.setCounter (source.pending + 1), ?_, ?_⟩
  · exact WakeupEventSource.wakeup_eq_ok.mpr ⟨opened, rfl⟩
  · rw [WakeupEventSource.isOpen_setCounter]
    exact opened

namespace Accepting

theorem enqueue
    {p : KafkaPartition}
    (accepting : Accepting p)
    (msg : Bytes) :
    ∃ q, p.enqueue msg = .ok q ∧ Accepting q := by
  obtain ⟨produceOpen, queueOpen⟩ := accepting
  unfold KafkaPartition.enqueue closeBatch
  split
  · obtain ⟨next, woken, opened⟩ := wakeup_returns produceOpen
    rw [woken, ok_bind]
    exact ⟨_, rfl, opened, queueOpen⟩
  · exact ⟨_, rfl, produceOpen, queueOpen⟩

theorem foldlM_enqueue
    {p : KafkaPartition}
    (accepting : Accepting p)
    (msgs : List Bytes) :
    ∃ q, msgs.foldlM KafkaPartition.enqueue p = .ok q ∧ Accepting q := by
  induction msgs generalizing p with
  | nil => exact ⟨p, rfl, accepting⟩
  | cons msg msgs inductionHypothesis =>
      obtain ⟨queued, first, still⟩ := accepting.enqueue msg
      rw [List.foldlM_cons, first, ok_bind]
      exact inductionHypothesis still

theorem wakeupProduceMsgQ
    {p : KafkaPartition}
    (accepting : Accepting p) :
    ∃ q, p.wakeupProduceMsgQ = .ok q ∧ Accepting q := by
  obtain ⟨next, woken, opened⟩ := wakeup_returns accepting.produceMsgQEvent
  unfold KafkaPartition.wakeupProduceMsgQ
  rw [woken, ok_bind]
  exact ⟨_, rfl, accepting.produceEvent, opened⟩

/-- A message is always accepted. -/
theorem produce
    {p : KafkaPartition}
    (accepting : Accepting p)
    (msg : Bytes) :
    ∃ q, p.produce msg = .ok q ∧ Accepting q := by
  obtain ⟨queued, first, still⟩ := accepting.enqueue msg
  unfold KafkaPartition.produce
  rw [first, ok_bind]
  exact still.wakeupProduceMsgQ

theorem produceAll
    {p : KafkaPartition}
    (accepting : Accepting p)
    (msgs : List Bytes) :
    ∃ q, (p.produceAll msgs).map Prod.snd = .ok q ∧ Accepting q := by
  unfold KafkaPartition.produceAll
  split
  · exact ⟨p, rfl, accepting⟩
  · obtain ⟨queued, first, still⟩ := accepting.foldlM_enqueue msgs
    obtain ⟨woken, notified, after⟩ := still.wakeupProduceMsgQ
    rw [first, ok_bind, notified, ok_bind]
    exact ⟨woken, rfl, after⟩

end Accepting

/-- A partition that was started accepts messages. -/
theorem startProduce_accepting
    {p q : KafkaPartition}
    {eventFd queueFd timerFd : Int}
    (returned : p.startProduce eventFd queueFd timerFd = .ok q) :
    Accepting q := by
  obtain ⟨pReqTimerEvent, -, returned⟩ := bind_eq_ok.mp returned
  obtain ⟨r, woken, accepting⟩ := Accepting.wakeupProduceMsgQ
    (p := registerSource { registerSource { registerSource
      { p with produceEvent := p.produceEvent.init eventFd } eventFd
        .produceEvent with
      produceMsgQEvent := p.produceMsgQEvent.init queueFd } queueFd
        .produceMsgQEvent with pReqTimerEvent } timerFd .pReqTimerEvent)
    ⟨WakeupEventSource.isOpen_init _ _, WakeupEventSource.isOpen_init _ _⟩
  obtain rfl := Except.ok.inj (woken.symm.trans returned)
  exact accepting

/-- Starting returns if the batch interval is not negative. -/
theorem exists_startProduce
    {p : KafkaPartition}
    (waits : 0 ≤ p.config.pMaxBatchWaitTimeMs)
    (eventFd queueFd timerFd : Int) :
    ∃ q, p.startProduce eventFd queueFd timerFd = .ok q := by
  obtain ⟨pReqTimerEvent, armed⟩ := exists_armTimer waits timerFd
  obtain ⟨source, woken⟩ := wakeup_returns
    (WakeupEventSource.isOpen_init p.produceMsgQEvent queueFd)
  exact ⟨_, bind_eq_ok.mpr ⟨_, armed, bind_eq_ok.mpr ⟨_, woken.1, rfl⟩⟩⟩

end KafkaPartition

namespace KafkaProducer

/-- A producer as its constructor leaves it: the metadata response has named at
least one partition, fewer than its 32-bit count can, and all of them were
started. -/
structure Ready (producer : KafkaProducer) : Prop where
  nonempty : producer.partitions ≠ []
  bounded : producer.partitions.length < 2 ^ 31
  accepting : ∀ p ∈ producer.partitions, p.Accepting

theorem mapM_startProduce
    {partitions : List KafkaPartition}
    {descriptors : List (Int × Int × Int)}
    (enough : descriptors.length = partitions.length)
    (waits : ∀ p ∈ partitions, 0 ≤ p.config.pMaxBatchWaitTimeMs) :
    ∃ started, (partitions.zip descriptors).mapM
        (fun (p, eventFd, queueFd, timerFd) =>
          p.startProduce eventFd queueFd timerFd) = .ok started ∧
      started.length = partitions.length ∧
      ∀ p ∈ started, p.Accepting := by
  induction partitions generalizing descriptors with
  | nil => exact ⟨[], rfl, rfl, by simp⟩
  | cons p partitions inductionHypothesis =>
      cases descriptors with
      | nil => cases enough
      | cons descriptor descriptors =>
          obtain ⟨eventFd, queueFd, timerFd⟩ := descriptor
          obtain ⟨started, later, sameLength, accepting⟩ :=
            inductionHypothesis (Nat.succ.inj enough)
              fun other member => waits other (List.mem_cons_of_mem p member)
          obtain ⟨q, first⟩ := KafkaPartition.exists_startProduce
            (waits p List.mem_cons_self) eventFd queueFd timerFd
          refine ⟨q :: started, ?_, congrArg Nat.succ sameLength, ?_⟩
          · rw [List.zip_cons_cons, List.mapM_cons, later]
            dsimp only
            rw [first]
            rfl
          · intro other member
            rcases List.mem_cons.mp member with rfl | inLater
            · exact KafkaPartition.startProduce_accepting first
            · exact accepting other inLater

/-- The constructor ends with `startProduce`, which returns a ready producer if
the batch interval is not negative. -/
theorem startProduce_ready
    {producer : KafkaProducer}
    {descriptors : List (Int × Int × Int)}
    (nonempty : producer.partitions ≠ [])
    (bounded : producer.partitions.length < 2 ^ 31)
    (enough : descriptors.length = producer.partitions.length)
    (waits : ∀ p ∈ producer.partitions, 0 ≤ p.config.pMaxBatchWaitTimeMs) :
    ∃ started, producer.startProduce descriptors = .ok started ∧
      started.Ready ∧
      started.partitions.length = producer.partitions.length := by
  obtain ⟨partitions, mapped, sameLength, accepting⟩ :=
    mapM_startProduce enough waits
  unfold startProduce
  rw [mapped, ok_bind]
  refine ⟨_, rfl, ⟨?_, by rw [sameLength]; exact bounded, accepting⟩, sameLength⟩
  apply List.ne_nil_of_length_pos
  rw [sameLength]
  exact List.length_pos_iff.mpr nonempty

end KafkaProducer
end AsyncKafka
