import AsyncKafka.Partition.Requests

/-!
# Handling responses

The consuming half of `KafkaPartition`: the four response handlers, the
reaction to Kafka error codes, and `onReadReady`, which either dispatches a
payload by its correlation identifier or reconnects.
-/

namespace AsyncKafka
namespace KafkaPartition

open Wire ByteOrder

/-- What the surroundings answer during one callback. -/
structure Surroundings where
  /-- The answers to `write`, in case the callback writes. -/
  writes : WriteOutcome := .written
  /-- The socket that `connectServer` returns, in case the callback connects. -/
  connect : Option Int := none
  /-- The address that the resolver finds for a host name. -/
  resolved : Option Bytes := none
  /-- The string in the address buffer before the resolver is asked: the bytes of
  `char ip[100]`, which is not initialised, up to the first zero byte.  If there
  is none, the source goes on beyond the buffer, and this is what it finds. -/
  ipBuffer : Bytes := []
  deriving DecidableEq, Repr

/-- React to an error code.  The other codes are only logged. -/
def handleKafkaError (p : KafkaPartition) (ec : Int) (writes : WriteOutcome) :
    Except Halt KafkaPartition :=
  if ec = errorOffsetOutOfRange then
    p.createOffsetRequest.onWriteReady writes
  else if ec = errorLeaderNotAvailable ∨ ec = errorNotLeaderForPartition then
    p.createMetadataRequest.onWriteReady writes
  else
    .ok p

/-- The block `if (ec) handleKafkaError(ec.value())`. -/
def handleErrorCode (p : KafkaPartition) (ec : Int) (writes : WriteOutcome) :
    Except Halt KafkaPartition :=
  if ec ≠ 0 then p.handleKafkaError ec writes else .ok p

/-- The bytes of a string up to its first zero byte. -/
def cStr (string : Bytes) : Bytes := string.takeWhile fun byte => byte != 0

/-- Put the oldest request in transit back on the deque. -/
def returnRequest (p : KafkaPartition) : Except Halt KafkaPartition :=
  match p.inTransitProduceRequest with
  | [] => .error .undefinedBehaviour
  | req :: rest =>
      .ok { p with
        writeBuffers := p.writeBuffers ++
          [{ first := apiKeyProduceRequest, second := cStr req, request := none }]
        inTransitProduceRequest := rest }

/-- Forget the oldest request in transit and report the offset it got. -/
def acknowledge (p : KafkaPartition) (response : ProduceResponse) :
    Except Halt KafkaPartition :=
  match p.inTransitProduceRequest with
  | [] => .error .undefinedBehaviour
  | _ :: rest =>
      let p := { p with inTransitProduceRequest := rest }
      match response.findTopicPartition p.topic p.partition with
      | none => .ok p
      | some entry =>
          if p.onProduceResponse then
            .ok (p.record (.produceResponse p.topic p.partition entry.offset))
          else .ok p

def handleProduceResponse
    (p : KafkaPartition)
    (payload : Bytes)
    (surroundings : Surroundings) : Except Halt KafkaPartition := do
  let (response, ec) ← readProduceResponse payload
  if ec ≠ 0 then
    let p ← p.handleKafkaError ec surroundings.writes
    p.returnRequest
  else
    p.acknowledge response

/-- The loop of `handleFetchResponse`: the values to deliver and the next
offset.  Messages below the next offset are skipped, and a message without a
value advances the offset without being delivered. -/
def collectMessages : MessageSet → Int → List Bytes × Int
  | [], next => ([], next)
  | message :: messages, next =>
      if next ≤ message.offset then
        let (later, next) :=
          collectMessages messages (wrap 64 (message.offset + 1))
        (message.value.toList ++ later, next)
      else
        collectMessages messages next

/-- Take the messages of a response and hand them to the application. -/
def deliver (p : KafkaPartition) (messages : MessageSet) : KafkaPartition :=
  let (recvMsgs, next) := collectMessages messages p.nextFetchOffset
  let p := { p with nextFetchOffset := next }
  if !recvMsgs.isEmpty && p.onReceivedData then
    p.record (.receivedData recvMsgs)
  else p

def handleFetchResponse
    (p : KafkaPartition)
    (payload : Bytes)
    (surroundings : Surroundings) : Except Halt KafkaPartition := do
  let (response, ec) ← readFetchResponse payload
  if ec ≠ 0 then
    let p ← p.handleKafkaError ec surroundings.writes
    p.wakeupFetchOfConsumer
  else
    (p.deliver response.messages).wakeupFetchOfConsumer

/-- Resolve a host name into the given buffer: the return code and the buffer
afterwards, which a failed lookup leaves as it was. -/
def hostnameToIp (resolved : Option Bytes) (buffer : Bytes) : Int × Bytes :=
  match resolved with
  | none => (1, buffer)
  | some ip => (0, ip)

/-- Go over to the leader that a metadata response names. -/
def followLeader
    (p : KafkaPartition)
    (response : MetadataResponse)
    (surroundings : Surroundings) : Except Halt KafkaPartition :=
  match response.partitionLeader p.topic p.partition with
  | none => .ok p
  | some leader =>
      let ip := (hostnameToIp surroundings.resolved surroundings.ipBuffer).2
      if ip ≠ p.leader.ip ∨ leader.port ≠ p.leader.port then
        let p := { p.closeSocket with
          leader :=
            { id := leader.nodeId
              host := leader.host
              ip
              port := wrap 16 leader.port } }
        let p := match surroundings.connect with
          | none => p.record .shutdown
          | some fd => p.connectLeader fd
        p.wakeupFetchOfConsumer
      else .ok p

def handleMetadataResponse
    (p : KafkaPartition)
    (payload : Bytes)
    (surroundings : Surroundings) : Except Halt KafkaPartition := do
  let (response, ec) ← readMetadataResponse payload
  let p ← p.handleErrorCode ec surroundings.writes
  p.followLeader response surroundings

/-- Apply the start policy to the offset that the broker reported. -/
def resetOffset (p : KafkaPartition) (newStartOffset : Int) : KafkaPartition :=
  if p.config.cStartOffset = .fromEnd then
    { p with nextFetchOffset := newStartOffset }
  else if p.nextFetchOffset < newStartOffset then
    { p with nextFetchOffset := newStartOffset }
  else p

/-- Apply the start policy to the offset that an offset response names. -/
def followOffset (p : KafkaPartition) (response : OffsetResponse) :
    KafkaPartition :=
  match response.topicPartitionOffset p.topic p.partition with
  | none => p
  | some entry =>
      match entry.offsets with
      | [] => p
      | newStartOffset :: _ => p.resetOffset newStartOffset

def handleOffsetResponse
    (p : KafkaPartition)
    (payload : Bytes)
    (surroundings : Surroundings) : Except Halt KafkaPartition := do
  let (response, ec) ← readOffsetResponse payload
  let p ← p.handleErrorCode ec surroundings.writes
  return p.followOffset response

/-- What the two `readData` calls of one `onReadReady` yield. -/
inductive ReadOutcome
  /-- A length prefix and the payload it announces. -/
  | payload (bytes : Bytes)
  /-- The other end has closed the connection. -/
  | closed
  /-- The read failed with `ECONNRESET`. -/
  | reset
  /-- The read failed with another error. -/
  | failed
  deriving DecidableEq, Repr

/-- The correlation identifier in the first four bytes of a payload. -/
def correlationId (payload : Bytes) : Int := readSigned (payload.take 4)

/-- The reaction to a connection that was closed or reset. -/
def readError (p : KafkaPartition) (surroundings : Surroundings) :
    Except Halt KafkaPartition :=
  p.reconnect surroundings.connect surroundings.writes

/-- Hand a payload to the handler its correlation identifier selects. -/
def dispatchResponse
    (p : KafkaPartition)
    (payload : Bytes)
    (surroundings : Surroundings) : Except Halt KafkaPartition :=
  if correlationId payload = apiKeyProduceRequest then
    p.handleProduceResponse payload surroundings
  else if correlationId payload = apiKeyFetchRequest then
    p.handleFetchResponse payload surroundings
  else if correlationId payload = apiKeyMetadataRequest then
    p.handleMetadataResponse payload surroundings
  else if correlationId payload = apiKeyOffsetRequest then
    p.handleOffsetResponse payload surroundings
  else
    .ok p

/-- React to a readable socket. -/
def onReadReady
    (p : KafkaPartition)
    (received : ReadOutcome)
    (surroundings : Surroundings) : Except Halt KafkaPartition :=
  match received with
  | .payload payload =>
      -- The identifier is copied from the payload without a look at its size.
      if payload.length < 4 then .error .undefinedBehaviour
      else if correlationId payload = -1 then .error .assertionFailed
      else (p.record (.read payload)).dispatchResponse payload surroundings
  | .closed => p.readError surroundings
  | .reset => p.readError surroundings
  | .failed => .ok p

end KafkaPartition
end AsyncKafka
