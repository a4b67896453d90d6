import AsyncKafka.Reactor
import AsyncKafka.Wire.Response

/-!
# The state of a partition

The members of `KafkaPartition`, the configuration it reads, and the trace of
what it has done to the outside world.  The trace is not a member of the class:
it records, in order, every system call on the socket and every call of an
application callback, so that a property of the outside can be stated about a
state.
-/

namespace AsyncKafka

open Wire

/-- Where a consumer starts. -/
inductive KafkaFetchOffset
  | fromBeginning
  | fromEnd
  | fromStored
  deriving DecidableEq, Repr

inductive KafkaPartitionType
  | consumer
  | producer
  deriving DecidableEq, Repr

def errorOffsetOutOfRange : Int := 1

def errorLeaderNotAvailable : Int := 5

def errorNotLeaderForPartition : Int := 6

/-- The configuration parameters that a partition reads, with their defaults.
The client identifier defaults to `KafkaClient`. -/
structure KafkaClientConfig where
  clientId : Bytes := [75, 97, 102, 107, 97, 67, 108, 105, 101, 110, 116]
  mRefreshIntervalMs : Int := 300000
  cMaxFetchWaitTimeMs : Int := 1000
  cMaxFetchBytes : Int := 16 * 1024
  cMinFetchBytes : Int := 1
  cAutoCommitIntervalMs : Int := 60000
  cStartOffset : KafkaFetchOffset := .fromStored
  cOffsetStorePath : Bytes := []
  pRequiredAcks : Int := 1
  pTimeout : Int := 5000
  pBatchNumMsgs : Int := 1000
  pMaxBatchWaitTimeMs : Int := 5000
  deriving DecidableEq, Repr

structure KafkaBroker where
  id : Int := -1
  host : Bytes := []
  ip : Bytes := []
  port : Int := -1
  deriving DecidableEq, Repr

/-- An entry of `m_dqWriteBuffers`.  The pair of the source is `first` and
`second`; `request` is the request that `second` encodes, and none when the
bytes encode no request. -/
structure WriteBuffer where
  first : Int
  second : Bytes
  request : Option Request
  deriving DecidableEq, Repr

/-- What the partition does to the outside world. -/
inductive Effect
  /-- A connection to the leader was opened. -/
  | connect (fd : Int)
  /-- The socket was closed. -/
  | close (fd : Int)
  /-- A frame was handed to `write`, which accepted that many bytes or failed. -/
  | write (buffer : WriteBuffer) (accepted : Option Nat)
  /-- The payload of a response was read. -/
  | read (payload : Bytes)
  /-- The reactor was told to shut down. -/
  | shutdown
  /-- `onReceivedData` was called. -/
  | receivedData (messages : List Bytes)
  /-- `onProduceResponse` was called. -/
  | produceResponse (topic : Bytes) (partition offset : Int)
  /-- `onMsgQueued` was called. -/
  | msgQueued
  deriving DecidableEq, Repr

/-- Effects that open or close a socket. -/
def Effect.isSocket : Effect → Bool
  | .connect _ => true
  | .close _ => true
  | _ => false

/-- A partition.  The three callbacks are represented by whether they are
registered. -/
structure KafkaPartition where
  partitionType : KafkaPartitionType
  config : KafkaClientConfig
  topic : Bytes
  partition : Int
  brokers : List KafkaBroker
  leader : KafkaBroker
  onReceivedData : Bool := false
  onProduceResponse : Bool := false
  onMsgQueued : Bool := false
  nextFetchOffset : Int := 0
  msgCnt : Int := 0
  fetchPaused : Bool := false
  msgs : List Bytes := []
  writeBuffers : List WriteBuffer := []
  inTransitProduceRequest : List Bytes := []
  sockFd : Int := -1
  storedOffsetFileName : Bytes := []
  reactor : LibeventReactor := {}
  produceEvent : WakeupEventSource := {}
  produceMsgQEvent : WakeupEventSource := {}
  fetchEvent : WakeupEventSource := {}
  mdTimerEvent : PeriodicEventSource := {}
  ocTimerEvent : PeriodicEventSource := {}
  pReqTimerEvent : PeriodicEventSource := {}
  trace : List Effect := []
  deriving DecidableEq, Repr

namespace KafkaPartition

/-- Add an effect to the trace. -/
def record (p : KafkaPartition) (effect : Effect) : KafkaPartition :=
  { p with trace := p.trace ++ [effect] }

/-- The event flags of the socket, `AEVENTIN | AEVENTOUT`. -/
def getEventFlags : EventFlags := ⟨true, true⟩

/-- Register the current socket with the reactor. -/
def registerSocket
    (p : KafkaPartition)
    (eventFlags : EventFlags)
    (modify : Bool) : KafkaPartition :=
  { p with reactor :=
      p.reactor.registerFdCallback p.sockFd .socket eventFlags false modify }

/-- Issue a wakeup of the fetch event. -/
def wakeupFetch (p : KafkaPartition) : Except Halt KafkaPartition := do
  let fetchEvent ← p.fetchEvent.wakeup
  return { p with fetchEvent }

/-- The guarded wakeup that follows a fetch response and every reconnect. -/
def wakeupFetchOfConsumer (p : KafkaPartition) : Except Halt KafkaPartition :=
  if p.partitionType = .consumer then p.wakeupFetch else .ok p

end KafkaPartition

end AsyncKafka
