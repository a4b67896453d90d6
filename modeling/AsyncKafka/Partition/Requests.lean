import AsyncKafka.Partition.State

/-!
# Accepting messages, building requests and writing them

The producing half of `KafkaPartition`: the message queue, the deque of
frames that wait for the socket, and `onWriteReady` with its reconnect.  What
the kernel answers to `write` and `connect` is an argument.
-/

namespace AsyncKafka
namespace KafkaPartition

open Wire ByteOrder

/-- Wake the produce event when the batch counter has reached its limit. -/
def closeBatch (p : KafkaPartition) : Except Halt KafkaPartition :=
  if p.msgCnt = p.config.pBatchNumMsgs ∧ p.partitionType = .producer then do
    let produceEvent ← p.produceEvent.wakeup
    return { p with produceEvent, msgCnt := 0 }
  else
    .ok p

/-- Put one message on the queue. -/
def enqueue (p : KafkaPartition) (msg : Bytes) : Except Halt KafkaPartition := do
  let p ← p.closeBatch
  return { p with
    msgs := p.msgs ++ [msg]
    msgCnt := wrap 32 (p.msgCnt + 1) }

/-- Wake the event that reports a queued message to the application. -/
def wakeupProduceMsgQ (p : KafkaPartition) : Except Halt KafkaPartition := do
  let produceMsgQEvent ← p.produceMsgQEvent.wakeup
  return { p with produceMsgQEvent }

/-- `produce` of one message. -/
def produce (p : KafkaPartition) (msg : Bytes) : Except Halt KafkaPartition := do
  let p ← p.enqueue msg
  p.wakeupProduceMsgQ

/-- `produce` of a vector of messages, with its return code. -/
def produceAll (p : KafkaPartition) (msgs : List Bytes) :
    Except Halt (Int × KafkaPartition) :=
  if msgs.isEmpty then
    .ok (1, p)
  else do
    let p ← msgs.foldlM enqueue p
    let p ← p.wakeupProduceMsgQ
    return (0, p)

/-- The size from which on a batch is closed, `cMaxFetchBytes - 1024` converted
to `size_t`. -/
def batchLimit (config : KafkaClientConfig) : Nat :=
  (wrap 32 (config.cMaxFetchBytes - 1024) % 2 ^ 64).toNat

/-- The loop of `createProduceRequest`: the requests that drain the messages,
given the request being filled and its size so far. -/
def batchRequests
    (limit : Nat)
    (topic : Bytes)
    (partition : Int)
    (request : ProduceRequest)
    (reqSize : Nat) : List Bytes → List ProduceRequest
  | [] => [request]
  | msg :: msgs =>
      if limit ≤ reqSize then
        request :: batchRequests limit topic partition
          (request.clear.addValue msg topic partition)
          ((0 + msg.length + 10) % 2 ^ 64) msgs
      else
        batchRequests limit topic partition
          (request.addValue msg topic partition)
          ((reqSize + msg.length + 10) % 2 ^ 64) msgs

/-- The empty request a batch starts from. -/
def blankProduceRequest (config : KafkaClientConfig) : ProduceRequest :=
  { correlationId := apiKeyProduceRequest
    requiredAcks := config.pRequiredAcks
    timeout := config.pTimeout }

/-- The frame of a produce request. -/
def produceBuffer
    (crc32 : Bytes → UInt32)
    (config : KafkaClientConfig)
    (request : ProduceRequest) : WriteBuffer :=
  { first := apiKeyProduceRequest
    second := request.write crc32 config.clientId
    request := some (.produce request) }

/-- The frames that drain the message queue. -/
def produceBuffers
    (crc32 : Bytes → UInt32)
    (p : KafkaPartition) : List WriteBuffer :=
  (batchRequests (batchLimit p.config) p.topic p.partition
    (blankProduceRequest p.config) 0 p.msgs).map (produceBuffer crc32 p.config)

/-- Drain the message queue into frames at the back of the deque. -/
def createProduceRequest
    (crc32 : Bytes → UInt32)
    (p : KafkaPartition) : KafkaPartition :=
  { p with
    msgs := []
    writeBuffers := p.writeBuffers ++ produceBuffers crc32 p
    }.registerSocket getEventFlags true

/-- The frame of a fetch request at an offset. -/
def fetchBuffer (p : KafkaPartition) : WriteBuffer :=
  let request : FetchRequest :=
    { correlationId := apiKeyFetchRequest
      maxWaitTime := p.config.cMaxFetchWaitTimeMs
      minBytes := p.config.cMinFetchBytes : FetchRequest }.fetchTopic
      p.topic p.partition p.nextFetchOffset p.config.cMaxFetchBytes
  { first := apiKeyFetchRequest
    second := request.write p.config.clientId
    request := some (.fetch request) }

/-- Put a fetch request at the back of the deque, unless fetching is paused. -/
def createFetchRequest (p : KafkaPartition) : KafkaPartition :=
  if p.fetchPaused then p
  else
    { p with writeBuffers := p.writeBuffers ++ [p.fetchBuffer]
      }.registerSocket getEventFlags true

/-- The frame of a metadata request. -/
def metadataBuffer (p : KafkaPartition) : WriteBuffer :=
  let request : MetadataRequest :=
    ({ correlationId := apiKeyMetadataRequest } : MetadataRequest).addTopicName
      p.topic
  { first := apiKeyMetadataRequest
    second := request.write p.config.clientId
    request := some (.metadata request) }

/-- Put a metadata request at the front of the deque. -/
def createMetadataRequest (p : KafkaPartition) : KafkaPartition :=
  { p with writeBuffers := p.metadataBuffer :: p.writeBuffers
    }.registerSocket getEventFlags true

/-- The time an offset request asks about under the start policy. -/
def offsetTime (config : KafkaClientConfig) : Int :=
  if config.cStartOffset = .fromEnd then offsetTimeLatest
  else offsetTimeEarliest

/-- The frame of an offset request. -/
def offsetBuffer (p : KafkaPartition) : WriteBuffer :=
  let request : OffsetRequest :=
    ({ correlationId := apiKeyOffsetRequest } : OffsetRequest).fetchTopicOffset
      p.topic p.partition (offsetTime p.config) defaultOffsetMaxNumberOfOffsets
  { first := apiKeyOffsetRequest
    second := request.write p.config.clientId
    request := some (.offset request) }

/-- Put an offset request at the front of the deque. -/
def createOffsetRequest (p : KafkaPartition) : KafkaPartition :=
  { p with writeBuffers := p.offsetBuffer :: p.writeBuffers
    }.registerSocket getEventFlags true

/-- What the kernel answers to the `write` calls of one `onWriteReady`.  After
a reset the partition reconnects, `connect` being the new socket if
`connectServer` returned one, and writes again. -/
inductive WriteOutcome
  /-- The whole frame was accepted. -/
  | written
  /-- Only that many bytes were accepted. -/
  | short (count : Nat)
  /-- The call failed with an error other than `ECONNRESET`.  A broken pipe is one
  of them in a process that ignores `SIGPIPE`, which the client leaves to its
  application; in another one it is the end of the process. -/
  | failed
  /-- The call failed with `ECONNRESET`. -/
  | reset (connect : Option Int) (next : WriteOutcome)
  deriving DecidableEq, Repr

/-- Close the socket. -/
def closeSocket (p : KafkaPartition) : KafkaPartition :=
  { p with
    reactor := p.reactor.unregisterFdCallback p.sockFd
    sockFd := -1
    }.record (.close p.sockFd)

/-- Take over the socket that `connectServer` returned. -/
def connectLeader (p : KafkaPartition) (fd : Int) : KafkaPartition :=
  ({ p with sockFd := fd }.registerSocket getEventFlags false).record
    (.connect fd)

/-- The block that both error paths share: close the socket, choose the first
broker with another identifier and connect to it.  The result tells whether
that succeeded. -/
def failover (p : KafkaPartition) (connect : Option Int) :
    Except Halt (KafkaPartition × Bool) :=
  match p.brokers.find? fun broker => broker.id != p.leader.id with
  | none => .error .undefinedBehaviour
  | some leader =>
      match connect with
      | none => .ok ({ p.closeSocket with leader }.record .shutdown, false)
      | some fd => .ok ({ p.closeSocket with leader }.connectLeader fd, true)

/-- Take the front frame off the deque.  A produce frame is remembered as being
in transit before it is known whether it can be written. -/
def popWriteBuffer
    (p : KafkaPartition)
    (req : WriteBuffer)
    (rest : List WriteBuffer) : KafkaPartition :=
  { p with
    writeBuffers := rest
    inTransitProduceRequest :=
      if req.first = apiKeyProduceRequest then
        p.inTransitProduceRequest ++ [req.second]
      else p.inTransitProduceRequest }

/-- Write the front frame of the deque. -/
def onWriteReady (p : KafkaPartition) (outcome : WriteOutcome) :
    Except Halt KafkaPartition :=
  match p.writeBuffers, outcome with
  | [], _ => .ok (p.registerSocket ⟨true, false⟩ true)
  | req :: rest, .written =>
      .ok ((p.popWriteBuffer req rest).record
        (.write req (some req.second.length)))
  | req :: rest, .short count =>
      .ok ((p.popWriteBuffer req rest).record (.write req (some count)))
  | req :: rest, .failed =>
      .ok ((p.popWriteBuffer req rest).record (.write req none))
  | req :: rest, .reset connect next => do
      let (p, connected) ←
        ((p.popWriteBuffer req rest).record (.write req none)).failover connect
      if connected then
        let p ← onWriteReady p.createMetadataRequest next
        p.wakeupFetchOfConsumer
      else
        return p
termination_by structural outcome

/-- What both error paths do after a connection was lost.  `onWriteReady`, which
recurs through it, has it written out. -/
def reconnect
    (p : KafkaPartition)
    (connect : Option Int)
    (writes : WriteOutcome) : Except Halt KafkaPartition := do
  let (p, connected) ← p.failover connect
  if connected then
    let p ← p.createMetadataRequest.onWriteReady writes
    p.wakeupFetchOfConsumer
  else
    return p

end KafkaPartition
end AsyncKafka
