import AsyncKafka.Library.Decimal
import AsyncKafka.Partition.Responses
import Mathlib.Logic.Function.Basic

/-!
# Construction, start and the offset store

The constructor with its synchronous metadata and offset exchanges, the start
of fetching and producing, and the two functions that write the offset file.
The disk outlives the partition and is a state of its own.
-/

namespace AsyncKafka

open Wire ByteOrder

/-- The file system as far as the offset store uses it.  The source opens the C
string of a name, so this is the disk of a client whose identifier, topics and
store path hold no zero byte. -/
structure Disk where
  /-- The contents of a file, if it exists. -/
  files : Bytes → Option Bytes
  /-- Whether a path names a directory. -/
  isDirectory : Bytes → Bool

namespace Disk

/-- Give a file new contents, creating it when it is missing. -/
def write (disk : Disk) (name contents : Bytes) : Disk :=
  { disk with files := Function.update disk.files name (some contents) }

/-- What opening a file for output leaves of it before anything is written. -/
def truncate (disk : Disk) (name : Bytes) : Disk := disk.write name []

@[simp] theorem files_write_self (disk : Disk) (name contents : Bytes) :
    (disk.write name contents).files name = some contents := by
  simp [write]

theorem files_write_of_ne
    {name other : Bytes}
    (different : other ≠ name)
    (disk : Disk)
    (contents : Bytes) :
    (disk.write name contents).files other = disk.files other :=
  Function.update_of_ne different _ _

end Disk

namespace KafkaPartition

/-- The text `-start-offset` that ends the name of every offset file. -/
def offsetFileSuffix : Bytes :=
  [45, 115, 116, 97, 114, 116, 45, 111, 102, 102, 115, 101, 116]

/-- The name of the offset file. -/
def offsetFileName
    (isDirectory : Bytes → Bool)
    (config : KafkaClientConfig)
    (topic : Bytes)
    (partition : Int) : Bytes :=
  let name := config.clientId ++ [45] ++ topic ++ [45] ++
    Decimal.ofInt partition ++ offsetFileSuffix
  let storePath := config.cOffsetStorePath
  if storePath ≠ [] ∧ isDirectory storePath then
    if storePath.getLast? = some 47 then storePath ++ name
    else storePath ++ [47] ++ name
  else name

/-- The conversion of a file's contents by `std::stoll`, which throws when it
fails.  Reading word by word leaves the last word of the file. -/
def storedOffset (contents : Bytes) : Except Halt Int :=
  match Decimal.toSigned 64 (Decimal.lastWord contents) with
  | none => .error .uncaughtException
  | some offset => .ok offset

/-- Find the offset file, creating it when it is missing and reading it when
the start policy asks for the stored offset. -/
def getKafkaOffset (p : KafkaPartition) (disk : Disk) :
    Except Halt (KafkaPartition × Disk) :=
  let p := { p with
    storedOffsetFileName :=
      offsetFileName disk.isDirectory p.config p.topic p.partition }
  match disk.files p.storedOffsetFileName with
  | none =>
      .ok (p, disk.write p.storedOffsetFileName
        (Decimal.ofInt p.nextFetchOffset))
  | some contents =>
      if p.config.cStartOffset = .fromStored then do
        let nextFetchOffset ← storedOffset contents
        return ({ p with nextFetchOffset }, disk)
      else
        .ok (p, disk)

/-- The number that a commit writes: `m_iNextFetchOffset - 1` converted to
`uint64_t`. -/
def commitOffset (p : KafkaPartition) : Nat :=
  (wrap 64 (p.nextFetchOffset - 1) % 2 ^ 64).toNat

/-- Write the offset file.  The guard of the source compares an unsigned
number with zero. -/
def commitKafkaOffset (p : KafkaPartition) (disk : Disk) : Disk :=
  if 0 ≤ p.commitOffset then
    (disk.truncate p.storedOffsetFileName).write p.storedOffsetFileName
      (Decimal.ofNat p.commitOffset)
  else disk

/-- What the surroundings answer during construction: the first connection,
then for the metadata and for the offset exchange the answers to writing and
reading, and the descriptor of the metadata timer. -/
structure InitSurroundings where
  connect : Option Int
  metadataWrites : WriteOutcome := .written
  metadataRead : ReadOutcome
  metadata : Surroundings := {}
  offsetWrites : WriteOutcome := .written
  offsetRead : ReadOutcome
  offset : Surroundings := {}
  timerFd : Int
  deriving DecidableEq, Repr

/-- Register a timer or wakeup descriptor, which is only ever read. -/
def registerSource (p : KafkaPartition) (fd : Int) (eventData : EventData) :
    KafkaPartition :=
  { p with reactor :=
      p.reactor.registerFdCallback fd eventData ⟨true, false⟩ false false }

/-- Arm a timer.  The period in milliseconds is divided as an integer. -/
def armTimer (periodMs fd : Int) : Except Halt PeriodicEventSource :=
  PeriodicEventSource.init (periodMs.tdiv 1000 : Int) fd

/-- A timer is armed with an interval that is not negative. -/
theorem exists_armTimer
    {periodMs : Int}
    (nonnegative : 0 ≤ periodMs)
    (fd : Int) :
    ∃ timer, armTimer periodMs fd = .ok timer := by
  apply PeriodicEventSource.exists_init
  exact_mod_cast Int.tdiv_nonneg nonnegative (by decide)

/-- A negative interval stops at the conversion, before an assertion is
reached. -/
theorem armTimer_error
    {periodMs fd : Int}
    {halt : Halt}
    (failed : armTimer periodMs fd = .error halt) :
    halt ≠ .assertionFailed := by
  unfold armTimer PeriodicEventSource.init at failed
  split at failed
  · obtain rfl := Except.error.inj failed
    decide
  · cases failed

def init (p : KafkaPartition) (surroundings : InitSurroundings) :
    Except Halt KafkaPartition :=
  match surroundings.connect with
  | none => .error .exited
  | some fd => do
      let p := p.connectLeader fd
      let p ← p.createMetadataRequest.onWriteReady surroundings.metadataWrites
      let p ← p.onReadReady surroundings.metadataRead surroundings.metadata
      let p ← p.createOffsetRequest.onWriteReady surroundings.offsetWrites
      let p ← p.onReadReady surroundings.offsetRead surroundings.offset
      let mdTimerEvent ←
        armTimer p.config.mRefreshIntervalMs surroundings.timerFd
      let p := { p with mdTimerEvent }
      return p.registerSource surroundings.timerFd .mdTimerEvent

/-- A partition before its constructor runs. -/
def blank
    (partitionType : KafkaPartitionType)
    (topic : Bytes)
    (partition : Int)
    (brokers : List KafkaBroker)
    (leader : KafkaBroker)
    (config : KafkaClientConfig) : KafkaPartition :=
  { partitionType, config, topic, partition, brokers, leader }

/-- The guarded call at the head of the constructor. -/
def getKafkaOffsetOfConsumer (p : KafkaPartition) (disk : Disk) :
    Except Halt (KafkaPartition × Disk) :=
  if p.partitionType = .consumer then p.getKafkaOffset disk else .ok (p, disk)

/-- The constructor. -/
def construct
    (partitionType : KafkaPartitionType)
    (topic : Bytes)
    (partition : Int)
    (brokers : List KafkaBroker)
    (leader : KafkaBroker)
    (config : KafkaClientConfig)
    (disk : Disk)
    (surroundings : InitSurroundings) : Except Halt (KafkaPartition × Disk) := do
  let p := blank partitionType topic partition brokers leader config
  let (p, disk) ← p.getKafkaOffsetOfConsumer disk
  let p ← p.init surroundings
  return (p, disk)

/-- Start fetching, given the descriptors of the fetch event and of the commit
timer. -/
def startFetch (p : KafkaPartition) (eventFd timerFd : Int) :
    Except Halt KafkaPartition := do
  let p := { p with fetchEvent := p.fetchEvent.init eventFd }
  let p := p.registerSource eventFd .fetchEvent
  let ocTimerEvent ← armTimer p.config.cAutoCommitIntervalMs timerFd
  let p := { p with ocTimerEvent }
  let p := p.registerSource timerFd .ocTimerEvent
  p.wakeupFetchOfConsumer

/-- Start producing, given the descriptors of the two events and of the batch
timer. -/
def startProduce (p : KafkaPartition) (eventFd queueFd timerFd : Int) :
    Except Halt KafkaPartition := do
  let p := { p with produceEvent := p.produceEvent.init eventFd }
  let p := p.registerSource eventFd .produceEvent
  let p := { p with produceMsgQEvent := p.produceMsgQEvent.init queueFd }
  let p := p.registerSource queueFd .produceMsgQEvent
  let pReqTimerEvent ← armTimer p.config.pMaxBatchWaitTimeMs timerFd
  let p := { p with pReqTimerEvent }
  let p := p.registerSource timerFd .pReqTimerEvent
  p.wakeupProduceMsgQ

/-- Stop fetching. -/
def pauseFetch (p : KafkaPartition) : KafkaPartition :=
  { p with fetchPaused := true }

/-- Fetch again after a pause. -/
def resumeFetch (p : KafkaPartition) : Except Halt KafkaPartition :=
  if p.fetchPaused then { p with fetchPaused := false }.wakeupFetch
  else .ok p

/-- Tell the application that a message was queued. -/
def notifyProduceMsgQ (p : KafkaPartition) : KafkaPartition :=
  if p.onMsgQueued then p.record .msgQueued else p

/-- What can happen to a partition: calls of its public methods, and the
dispatch of a registered event by the reactor. -/
inductive Event
  | produce (msg : Bytes)
  | produceAll (msgs : List Bytes)
  | pauseFetch
  | resumeFetch
  | produceEvent
  | produceMsgQEvent
  | fetchEvent
  | batchTimer
  | metadataTimer
  /-- The commit timer, whose callback only writes to the disk. -/
  | commitTimer
  | readReady (received : ReadOutcome) (surroundings : Surroundings)
  | writeReady (outcome : WriteOutcome)
  deriving DecidableEq, Repr

/-- The effect of one event. -/
def step (crc32 : Bytes → UInt32) (p : KafkaPartition) :
    Event → Except Halt KafkaPartition
  | .produce msg => p.produce msg
  | .produceAll msgs => (p.produceAll msgs).map Prod.snd
  | .pauseFetch => .ok p.pauseFetch
  | .resumeFetch => p.resumeFetch
  | .produceEvent =>
      match p.produceEvent.handleEvent with
      | (none, produceEvent) => .ok { p with produceEvent }
      | (some _, produceEvent) =>
          .ok ({ p with produceEvent }.createProduceRequest crc32)
  | .produceMsgQEvent =>
      match p.produceMsgQEvent.handleEvent with
      | (none, produceMsgQEvent) => .ok { p with produceMsgQEvent }
      | (some _, produceMsgQEvent) =>
          .ok { p with produceMsgQEvent }.notifyProduceMsgQ
  | .fetchEvent =>
      match p.fetchEvent.handleEvent with
      | (none, fetchEvent) => .ok { p with fetchEvent }
      | (some _, fetchEvent) => .ok { p with fetchEvent }.createFetchRequest
  | .batchTimer => .ok (p.createProduceRequest crc32)
  | .metadataTimer => .ok p.createMetadataRequest
  | .commitTimer => .ok p
  | .readReady received surroundings => p.onReadReady received surroundings
  | .writeReady outcome => p.onWriteReady outcome

end KafkaPartition
end AsyncKafka
