import AsyncKafka.Library.Execution
import AsyncKafka.Partition.Lifecycle

/-!
# What the callbacks can do

Reconnecting, reacting to an error code and following a leader change only
touch the connection: everything else of the state is as before, and the
effects they add are connects, closes and the writes of control frames.  The
specifications below say this once for every function of the partition; all
later arguments about runs use them instead of the definitions.
-/

namespace AsyncKafka

open Wire Execution

namespace WriteBuffer

/-- Metadata and offset requests, which the client sends for its own sake. -/
def isControl (buffer : WriteBuffer) : Bool :=
  match buffer.request with
  | some (.metadata _) => buffer.first == apiKeyMetadataRequest
  | some (.offset _) => buffer.first == apiKeyOffsetRequest
  | _ => false

/-- Whether the frame is a produce request by its api key. -/
def isProduce (buffer : WriteBuffer) : Bool :=
  buffer.first == apiKeyProduceRequest

theorem isProduce_of_isControl
    {buffer : WriteBuffer}
    (control : buffer.isControl = true) :
    buffer.isProduce = false := by
  unfold isControl at control
  unfold isProduce
  split at control
  · simp_all [apiKeyMetadataRequest, apiKeyProduceRequest]
  · simp_all [apiKeyOffsetRequest, apiKeyProduceRequest]
  · simp at control

end WriteBuffer

namespace Effect

/-- Effects that concern the connection alone. -/
def isControl : Effect → Bool
  | .connect _ => true
  | .close _ => true
  | .shutdown => true
  | .write buffer _ => buffer.isControl
  | _ => false

def isClose : Effect → Bool
  | .close _ => true
  | _ => false

end Effect

namespace KafkaPartition

@[simp] theorem metadataBuffer_isControl (p : KafkaPartition) :
    p.metadataBuffer.isControl = true := rfl

@[simp] theorem offsetBuffer_isControl (p : KafkaPartition) :
    p.offsetBuffer.isControl = true := rfl

/-- `q` is `p` after some handling of the connection with the given effects. -/
def ConnectionOnly
    (p : KafkaPartition)
    (effects : List Effect)
    (q : KafkaPartition) : Prop :=
  (∃ leader sockFd reactor fetchEvent,
    q = { p with
      leader, sockFd, reactor, fetchEvent, trace := p.trace ++ effects }) ∧
  ∀ effect ∈ effects, effect.isControl = true

namespace ConnectionOnly

theorem refl (p : KafkaPartition) : ConnectionOnly p [] p :=
  ⟨⟨p.leader, p.sockFd, p.reactor, p.fetchEvent, by rw [List.append_nil]⟩,
    by simp⟩

theorem trans
    {p q r : KafkaPartition}
    {first second : List Effect}
    (before : ConnectionOnly p first q)
    (after : ConnectionOnly q second r) :
    ConnectionOnly p (first ++ second) r := by
  obtain ⟨⟨_, _, _, _, rfl⟩, firstControl⟩ := before
  obtain ⟨⟨leader, sockFd, reactor, fetchEvent, rfl⟩, secondControl⟩ := after
  refine ⟨⟨leader, sockFd, reactor, fetchEvent, by
    rw [List.append_assoc]⟩, ?_⟩
  intro effect member
  rcases List.mem_append.mp member with inFirst | inSecond
  · exact firstControl effect inFirst
  · exact secondControl effect inSecond

/-- Recording a control effect. -/
theorem record
    (p : KafkaPartition)
    {effect : Effect}
    (control : effect.isControl = true) :
    ConnectionOnly p [effect] (p.record effect) :=
  ⟨⟨p.leader, p.sockFd, p.reactor, p.fetchEvent, rfl⟩, by simpa using control⟩

theorem registerSocket
    (p : KafkaPartition)
    (eventFlags : EventFlags)
    (modify : Bool) :
    ConnectionOnly p [] (p.registerSocket eventFlags modify) :=
  ⟨⟨p.leader, p.sockFd, (p.registerSocket eventFlags modify).reactor,
    p.fetchEvent, by rw [List.append_nil]; rfl⟩, by simp⟩

theorem wakeupFetch
    {p q : KafkaPartition}
    (woken : p.wakeupFetch = .ok q) :
    ConnectionOnly p [] q := by
  obtain ⟨fetchEvent, -, returned⟩ := bind_eq_ok.mp woken
  obtain rfl := Except.ok.inj returned
  exact ⟨⟨p.leader, p.sockFd, p.reactor, fetchEvent, by
    rw [List.append_nil]⟩, by simp⟩

theorem wakeupFetchOfConsumer
    {p q : KafkaPartition}
    (woken : p.wakeupFetchOfConsumer = .ok q) :
    ConnectionOnly p [] q := by
  unfold KafkaPartition.wakeupFetchOfConsumer at woken
  split at woken
  · exact wakeupFetch woken
  · obtain rfl := Except.ok.inj woken
    exact refl p

/-- Closing the socket and going over to another leader. -/
theorem closeSocket (p : KafkaPartition) (leader : KafkaBroker) :
    ConnectionOnly p [.close p.sockFd] { p.closeSocket with leader } :=
  ⟨⟨leader, -1, _, p.fetchEvent, rfl⟩, by simp [Effect.isControl]⟩

theorem connectLeader (p : KafkaPartition) (fd : Int) :
    ConnectionOnly p [.connect fd] (p.connectLeader fd) :=
  ⟨⟨p.leader, fd, _, p.fetchEvent, rfl⟩, by simp [Effect.isControl]⟩

end ConnectionOnly

/-! ## Reconnecting and writing -/

/-- A failover closes the socket first. -/
theorem failover_spec
    {p q : KafkaPartition}
    {connect : Option Int}
    {connected : Bool}
    (returned : p.failover connect = .ok (q, connected)) :
    ∃ effects, ConnectionOnly p (.close p.sockFd :: effects) q := by
  unfold failover at returned
  split at returned
  · cases returned
  · rename_i leader _
    have closed := ConnectionOnly.closeSocket p leader
    split at returned
    · obtain ⟨rfl, -⟩ := Prod.mk.inj (Except.ok.inj returned)
      exact ⟨[.shutdown], closed.trans (.record _ rfl)⟩
    · rename_i fd
      obtain ⟨rfl, -⟩ := Prod.mk.inj (Except.ok.inj returned)
      exact ⟨[.connect fd], closed.trans (.connectLeader _ fd)⟩

namespace WriteOutcome

/-- The number of bytes of a frame that the first `write` accepts. -/
def accepted (req : WriteBuffer) : WriteOutcome → Option Nat
  | .written => some req.second.length
  | .short count => some count
  | .failed => none
  | .reset _ _ => none

def isReset : WriteOutcome → Bool
  | .reset _ _ => true
  | _ => false

end WriteOutcome

/-- With an empty deque `onWriteReady` only drops the interest in writing. -/
theorem onWriteReady_nil
    {p q : KafkaPartition}
    {outcome : WriteOutcome}
    (empty : p.writeBuffers = [])
    (returned : p.onWriteReady outcome = .ok q) :
    ConnectionOnly p [] q := by
  unfold onWriteReady at returned
  rw [empty] at returned
  obtain rfl := Except.ok.inj returned
  exact .registerSocket p _ true

/-- A write that is not reset hands over the front frame and does no more. -/
theorem onWriteReady_unreset
    {p : KafkaPartition}
    {req : WriteBuffer}
    {rest : List WriteBuffer}
    {outcome : WriteOutcome}
    (front : p.writeBuffers = req :: rest)
    (unreset : outcome.isReset = false) :
    p.onWriteReady outcome =
      .ok ((p.popWriteBuffer req rest).record
        (.write req (outcome.accepted req))) := by
  cases outcome with
  | written | short | failed =>
      unfold onWriteReady
      simp only [front]
      rfl
  | reset connect next => cases unreset

/-- Otherwise it takes the front frame and hands it to `write`; only a reset
adds more, and then the first thing is that the socket is closed. -/
theorem onWriteReady_cons
    {p q : KafkaPartition}
    {req : WriteBuffer}
    {rest : List WriteBuffer}
    {outcome : WriteOutcome}
    (front : p.writeBuffers = req :: rest)
    (returned : p.onWriteReady outcome = .ok q) :
    ∃ effects,
      ConnectionOnly
        ((p.popWriteBuffer req rest).record (.write req (outcome.accepted req)))
        effects q ∧
      (outcome.isReset = false → effects = []) ∧
      (outcome.isReset = true → ∃ fd later, effects = .close fd :: later) := by
  induction outcome generalizing p q req rest with
  | written | short | failed =>
      rw [onWriteReady_unreset front rfl] at returned
      obtain rfl := Except.ok.inj returned
      exact ⟨[], .refl _, fun _ => rfl, by simp [WriteOutcome.isReset]⟩
  | reset connect next inductionHypothesis =>
      unfold onWriteReady at returned
      simp only [front] at returned
      obtain ⟨⟨reconnected, connected⟩, failed, continued⟩ :=
        bind_eq_ok.mp returned
      obtain ⟨effects, failedOver⟩ := failover_spec failed
      cases connected with
      | false =>
          obtain rfl := Except.ok.inj continued
          exact ⟨_, failedOver, by simp [WriteOutcome.isReset],
            fun _ => ⟨_, _, rfl⟩⟩
      | true =>
          simp only [if_true] at continued
          obtain ⟨written, wrote, woken⟩ := bind_eq_ok.mp continued
          -- The recursive call finds the metadata frame just put in front.
          have front : reconnected.createMetadataRequest.writeBuffers =
              reconnected.metadataBuffer :: reconnected.writeBuffers := rfl
          obtain ⟨more, wroteMetadata, -, -⟩ := inductionHypothesis front wrote
          have metadata : ConnectionOnly reconnected
              [.write reconnected.metadataBuffer
                (next.accepted reconnected.metadataBuffer)]
              ((reconnected.createMetadataRequest.popWriteBuffer
                reconnected.metadataBuffer reconnected.writeBuffers).record
                (.write reconnected.metadataBuffer
                  (next.accepted reconnected.metadataBuffer))) :=
            ⟨⟨reconnected.leader, reconnected.sockFd, _,
              reconnected.fetchEvent, rfl⟩, by simp [Effect.isControl]⟩
          have whole := ((failedOver.trans metadata).trans wroteMetadata).trans
            (.wakeupFetchOfConsumer woken)
          exact ⟨_, whole, by simp [WriteOutcome.isReset],
            fun _ => ⟨_, _, rfl⟩⟩

/-- Putting a control frame in front and writing it leaves the deque and the
requests in transit as they were. -/
theorem onWriteReady_control
    {p pushed q : KafkaPartition}
    {req : WriteBuffer}
    {outcome : WriteOutcome}
    (control : req.isControl = true)
    (pushedOnly : ConnectionOnly { p with writeBuffers := req :: p.writeBuffers }
      [] pushed)
    (returned : pushed.onWriteReady outcome = .ok q) :
    ∃ effects, ConnectionOnly p effects q ∧
      (outcome.isReset = false →
        ∀ effect ∈ effects, effect.isClose = false) := by
  obtain ⟨⟨leader, sockFd, reactor, fetchEvent, rfl⟩, -⟩ := pushedOnly
  have front : req :: p.writeBuffers = req :: p.writeBuffers := rfl
  obtain ⟨effects, written, unreset, -⟩ := onWriteReady_cons front returned
  have notProduce : req.first ≠ apiKeyProduceRequest := by
    have plain := WriteBuffer.isProduce_of_isControl control
    simpa [WriteBuffer.isProduce] using plain
  have popped : ConnectionOnly p
      [.write req (outcome.accepted req)]
      (({ p with
          leader, sockFd, reactor, fetchEvent
          writeBuffers := req :: p.writeBuffers
          trace := p.trace ++ [] }.popWriteBuffer req p.writeBuffers).record
        (.write req (outcome.accepted req))) :=
    ⟨⟨leader, sockFd, reactor, fetchEvent, by
      simp only [popWriteBuffer, KafkaPartition.record, notProduce, if_false,
        List.append_nil]⟩,
      by simpa [Effect.isControl] using control⟩
  refine ⟨_, popped.trans written, fun plain => ?_⟩
  rw [unreset plain]
  simp [Effect.isClose]

theorem createMetadataRequest_only (p : KafkaPartition) :
    ConnectionOnly { p with writeBuffers := p.metadataBuffer :: p.writeBuffers }
      [] p.createMetadataRequest :=
  .registerSocket _ _ _

theorem createOffsetRequest_only (p : KafkaPartition) :
    ConnectionOnly { p with writeBuffers := p.offsetBuffer :: p.writeBuffers }
      [] p.createOffsetRequest :=
  .registerSocket _ _ _

/-- Whether an error code makes the partition write a control frame. -/
def errorNeedsRequest (ec : Int) : Bool :=
  ec == errorOffsetOutOfRange || ec == errorLeaderNotAvailable ||
    ec == errorNotLeaderForPartition

/-- Whether the reaction to an error code loses the connection. -/
def errorBreaks (ec : Int) (writes : WriteOutcome) : Bool :=
  errorNeedsRequest ec && writes.isReset

/-- Reacting to an error code only handles the connection. -/
theorem handleKafkaError_spec
    {p q : KafkaPartition}
    {ec : Int}
    {writes : WriteOutcome}
    (returned : p.handleKafkaError ec writes = .ok q) :
    ∃ effects, ConnectionOnly p effects q ∧
      (errorBreaks ec writes = false →
        ∀ effect ∈ effects, effect.isClose = false) := by
  unfold handleKafkaError at returned
  split at returned
  · rename_i code
    obtain ⟨effects, only, unclosed⟩ := onWriteReady_control
      (offsetBuffer_isControl p) (createOffsetRequest_only p) returned
    refine ⟨effects, only, fun unbroken => unclosed ?_⟩
    simpa [errorBreaks, errorNeedsRequest, code] using unbroken
  · split at returned
    · rename_i code
      obtain ⟨effects, only, unclosed⟩ := onWriteReady_control
        (metadataBuffer_isControl p) (createMetadataRequest_only p) returned
      refine ⟨effects, only, fun unbroken => unclosed ?_⟩
      rcases code with code | code <;>
        simpa [errorBreaks, errorNeedsRequest, code] using unbroken
    · obtain rfl := Except.ok.inj returned
      exact ⟨[], .refl p, by simp⟩

theorem handleErrorCode_spec
    {p q : KafkaPartition}
    {ec : Int}
    {writes : WriteOutcome}
    (returned : p.handleErrorCode ec writes = .ok q) :
    ∃ effects, ConnectionOnly p effects q ∧
      (errorBreaks ec writes = false →
        ∀ effect ∈ effects, effect.isClose = false) := by
  unfold handleErrorCode at returned
  split at returned
  · exact handleKafkaError_spec returned
  · obtain rfl := Except.ok.inj returned
    exact ⟨[], .refl p, by simp⟩

/-- A lost connection is closed and replaced. -/
theorem readError_spec
    {p q : KafkaPartition}
    {surroundings : Surroundings}
    (returned : p.readError surroundings = .ok q) :
    ∃ effects, ConnectionOnly p (.close p.sockFd :: effects) q := by
  obtain ⟨⟨reconnected, connected⟩, failed, continued⟩ := bind_eq_ok.mp returned
  obtain ⟨effects, failedOver⟩ := failover_spec failed
  cases connected with
  | false =>
      obtain rfl := Except.ok.inj continued
      exact ⟨effects, failedOver⟩
  | true =>
      simp only [if_true] at continued
      obtain ⟨written, wrote, woken⟩ := bind_eq_ok.mp continued
      obtain ⟨more, wroteMetadata, -⟩ := onWriteReady_control
        (metadataBuffer_isControl reconnected)
        (createMetadataRequest_only reconnected) wrote
      exact ⟨_, (failedOver.trans wroteMetadata).trans
        (.wakeupFetchOfConsumer woken)⟩

/-! ## Responses -/

/-- The error code that decoding a response reports, zero when there is none. -/
def reportedError (decoded : Except Halt (α × Int)) : Int :=
  (decoded.toOption.map Prod.snd).getD 0

@[simp] theorem reportedError_ok (response : α) (ec : Int) :
    reportedError (.ok (response, ec)) = ec := rfl

/-- The broker that a metadata payload names as the leader. -/
def announcedLeader (p : KafkaPartition) (payload : Bytes) :
    Option MetadataBroker :=
  (readMetadataResponse payload).toOption.bind fun (response, _) =>
    response.partitionLeader p.topic p.partition

/-- Whether a metadata payload names a leader at another address. -/
def leaderMoves
    (p : KafkaPartition)
    (payload : Bytes)
    (surroundings : Surroundings) : Bool :=
  (p.announcedLeader payload).any fun leader =>
    (hostnameToIp surroundings.resolved surroundings.ipBuffer).2 ≠ p.leader.ip
      ∨ leader.port ≠ p.leader.port

/-- Reading a metadata response reports no error of its own. -/
theorem readMetadataResponse_noError
    {payload : Bytes}
    {response : MetadataResponse}
    {ec : Int}
    (readOk : readMetadataResponse payload = .ok (response, ec)) :
    ec = 0 := by
  unfold readMetadataResponse at readOk
  cases inner : readResponse readMetadataResponseMessage payload with
  | error halt =>
      rw [inner] at readOk
      cases readOk
  | ok message =>
      rw [inner] at readOk
      exact (Prod.mk.inj (Except.ok.inj readOk)).2.symm

/-- The broker that a partition takes over as its leader, with the address
that was found for it. -/
def adoptedLeader (leader : MetadataBroker) (ip : Bytes) : KafkaBroker :=
  { id := leader.nodeId
    host := leader.host
    ip
    port := ByteOrder.wrap 16 leader.port }

/-- Close the connection to the old leader and open one to the new leader. -/
def moveTo (p : KafkaPartition) (leader : KafkaBroker) (connect : Option Int) :
    KafkaPartition :=
  match connect with
  | none => { p.closeSocket with leader }.record .shutdown
  | some fd => { p.closeSocket with leader }.connectLeader fd

/-- What a metadata response that names a leader does. -/
theorem handleMetadataResponse_announced
    {p : KafkaPartition}
    {payload : Bytes}
    {leader : MetadataBroker}
    (announced : p.announcedLeader payload = some leader)
    (surroundings : Surroundings) :
    p.handleMetadataResponse payload surroundings =
      if (hostnameToIp surroundings.resolved surroundings.ipBuffer).2 ≠
            p.leader.ip ∨ leader.port ≠ p.leader.port then
        (p.moveTo
          (adoptedLeader leader
            (hostnameToIp surroundings.resolved surroundings.ipBuffer).2)
          surroundings.connect).wakeupFetchOfConsumer
      else .ok p := by
  obtain ⟨⟨response, ec⟩, decoded, named⟩ := Option.bind_eq_some_iff.mp announced
  have readOk : readMetadataResponse payload = .ok (response, ec) := by
    cases result : readMetadataResponse payload with
    | error halt =>
        rw [result] at decoded
        cases decoded
    | ok decodedResponse =>
        rw [result] at decoded
        exact congrArg _ (Option.some.inj decoded)
  obtain rfl := readMetadataResponse_noError readOk
  have unerring : p.handleErrorCode 0 surroundings.writes = .ok p := rfl
  unfold handleMetadataResponse
  rw [readOk, ok_bind]
  simp only [unerring, ok_bind, followLeader, named]
  rfl

/-- A metadata response that names no leader does nothing. -/
theorem handleMetadataResponse_unannounced
    {p : KafkaPartition}
    {payload : Bytes}
    {response : MetadataResponse}
    {ec : Int}
    (readOk : readMetadataResponse payload = .ok (response, ec))
    (unannounced : p.announcedLeader payload = none)
    (surroundings : Surroundings) :
    p.handleMetadataResponse payload surroundings = .ok p := by
  obtain rfl := readMetadataResponse_noError readOk
  have unerring : p.handleErrorCode 0 surroundings.writes = .ok p := rfl
  have missing : response.partitionLeader p.topic p.partition = none := by
    rw [announcedLeader, readOk] at unannounced
    exact unannounced
  unfold handleMetadataResponse
  rw [readOk, ok_bind]
  simp only [unerring, ok_bind, followLeader, missing]

/-- A metadata response that can be read does nothing as long as the leader
stays where it is.  Otherwise the connection is closed, the new leader is
connected to, and the fetch event is woken whether or not that has
succeeded. -/
theorem handleMetadataResponse_eq
    (p : KafkaPartition)
    {payload : Bytes}
    (surroundings : Surroundings)
    {response : MetadataResponse}
    {ec : Int}
    (readOk : readMetadataResponse payload = .ok (response, ec)) :
    ∃ leader, p.handleMetadataResponse payload surroundings =
      if p.leaderMoves payload surroundings then
        (p.moveTo leader surroundings.connect).wakeupFetchOfConsumer
      else .ok p := by
  cases announced : p.announcedLeader payload with
  | none =>
      refine ⟨p.leader, ?_⟩
      rw [handleMetadataResponse_unannounced readOk announced, leaderMoves,
        announced]
      rfl
  | some leader =>
      refine ⟨adoptedLeader leader
        (hostnameToIp surroundings.resolved surroundings.ipBuffer).2, ?_⟩
      rw [handleMetadataResponse_announced announced, leaderMoves, announced]
      simp only [Option.any_some, decide_eq_true_eq]

/-- What a metadata response has done when it returns. -/
theorem handleMetadataResponse_cases
    {p q : KafkaPartition}
    {payload : Bytes}
    {surroundings : Surroundings}
    (returned : p.handleMetadataResponse payload surroundings = .ok q) :
    p.leaderMoves payload surroundings = false ∧ q = p ∨
      p.leaderMoves payload surroundings = true ∧ ∃ leader,
        (p.moveTo leader surroundings.connect).wakeupFetchOfConsumer =
          .ok q := by
  obtain ⟨⟨response, ec⟩, readOk, -⟩ := bind_eq_ok.mp returned
  obtain ⟨leader, handled⟩ := p.handleMetadataResponse_eq surroundings readOk
  rw [handled] at returned
  split at returned
  · rename_i moves
    exact .inr ⟨moves, leader, returned⟩
  · rename_i stays
    exact .inl ⟨by simpa using stays, (Except.ok.inj returned).symm⟩

/-- A metadata response only handles the connection, and leaves it alone when
the leader stays where it is. -/
theorem handleMetadataResponse_spec
    {p q : KafkaPartition}
    {payload : Bytes}
    {surroundings : Surroundings}
    (returned : p.handleMetadataResponse payload surroundings = .ok q) :
    ∃ effects, ConnectionOnly p effects q ∧
      (p.leaderMoves payload surroundings = false → effects = []) := by
  obtain ⟨-, rfl⟩ | ⟨moves, leader, woken⟩ :=
    handleMetadataResponse_cases returned
  · exact ⟨[], .refl q, fun _ => rfl⟩
  · have closed := ConnectionOnly.closeSocket p leader
    have stays (effects : List Effect) :
        p.leaderMoves payload surroundings = false → effects = [] := by
      rw [moves]
      intro contradiction
      cases contradiction
    unfold moveTo at woken
    split at woken
    · exact ⟨_, (closed.trans (.record _ rfl)).trans
        (.wakeupFetchOfConsumer woken), stays _⟩
    · rename_i fd _
      exact ⟨_, (closed.trans (.connectLeader _ fd)).trans
        (.wakeupFetchOfConsumer woken), stays _⟩

/-- The start offset that an offset payload reports for the partition. -/
def announcedOffset (p : KafkaPartition) (payload : Bytes) : Option Int :=
  (readOffsetResponse payload).toOption.bind fun (response, _) =>
    (response.topicPartitionOffset p.topic p.partition).bind fun entry =>
      entry.offsets.head?

/-- An offset response handles the connection and then applies the start
policy to the offset it reports, if it reports one. -/
theorem handleOffsetResponse_spec
    {p q : KafkaPartition}
    {payload : Bytes}
    {surroundings : Surroundings}
    (returned : p.handleOffsetResponse payload surroundings = .ok q) :
    ∃ effects middle, ConnectionOnly p effects middle ∧
      (errorBreaks (reportedError (readOffsetResponse payload))
          surroundings.writes = false →
        ∀ effect ∈ effects, effect.isClose = false) ∧
      (p.announcedOffset payload = none ∧ q = middle ∨
        ∃ offset, p.announcedOffset payload = some offset ∧
          q = middle.resetOffset offset) := by
  obtain ⟨⟨response, ec⟩, readOk, continued⟩ := bind_eq_ok.mp returned
  obtain ⟨middle, reacted, finished⟩ := bind_eq_ok.mp continued
  obtain ⟨effects, handled, unclosed⟩ := handleErrorCode_spec reacted
  rw [readOk]
  refine ⟨effects, middle, handled, unclosed, ?_⟩
  have topicSame : middle.topic = p.topic ∧ middle.partition = p.partition := by
    obtain ⟨⟨_, _, _, _, rfl⟩, -⟩ := handled
    exact ⟨rfl, rfl⟩
  unfold followOffset at finished
  rw [topicSame.1, topicSame.2] at finished
  have announced : p.announcedOffset payload =
      (response.topicPartitionOffset p.topic p.partition).bind fun entry =>
        entry.offsets.head? := by
    rw [announcedOffset, readOk]
    rfl
  rw [announced]
  split at finished
  · rename_i missing
    obtain rfl := Except.ok.inj finished
    simp [missing]
  · rename_i entry found
    split at finished
    · rename_i noOffsets
      obtain rfl := Except.ok.inj finished
      simp [found, noOffsets]
    · rename_i offset later offsets
      obtain rfl := Except.ok.inj finished
      exact .inr ⟨offset, by simp [found, offsets], rfl⟩

/-- A fetch response either carries an error, which only handles the
connection, or its messages are delivered. -/
theorem handleFetchResponse_spec
    {p q : KafkaPartition}
    {payload : Bytes}
    {surroundings : Surroundings}
    (returned : p.handleFetchResponse payload surroundings = .ok q) :
    ∃ response ec, readFetchResponse payload = .ok (response, ec) ∧
      (ec ≠ 0 ∧ (∃ effects, ConnectionOnly p effects q ∧
          (errorBreaks ec surroundings.writes = false →
            ∀ effect ∈ effects, effect.isClose = false)) ∨
        ec = 0 ∧ ConnectionOnly (p.deliver response.messages) [] q) := by
  obtain ⟨⟨response, ec⟩, readOk, continued⟩ := bind_eq_ok.mp returned
  refine ⟨response, ec, readOk, ?_⟩
  by_cases fine : ec = 0
  · simp only [fine, ne_eq, not_true_eq_false, if_false] at continued
    exact .inr ⟨fine, .wakeupFetchOfConsumer continued⟩
  · simp only [fine, ne_eq, not_false_eq_true, if_true] at continued
    obtain ⟨middle, handled, woken⟩ := bind_eq_ok.mp continued
    obtain ⟨effects, reacted, unclosed⟩ := handleKafkaError_spec handled
    refine .inl ⟨fine, effects, ?_, unclosed⟩
    simpa using reacted.trans (.wakeupFetchOfConsumer woken)

/-- A consumer that can take a response: the application has registered for
messages, and the descriptor of the fetch event is open. -/
structure Receiving (p : KafkaPartition) : Prop where
  registered : p.onReceivedData = true
  awake : p.fetchEvent.isOpen = true

/-- Waking the fetch event changes neither the trace nor the offset. -/
theorem exists_wakeupFetchOfConsumer
    {p : KafkaPartition}
    (awake : p.fetchEvent.isOpen = true) :
    ∃ q, p.wakeupFetchOfConsumer = .ok q ∧ q.trace = p.trace ∧
      q.nextFetchOffset = p.nextFetchOffset := by
  obtain ⟨count, found⟩ := Option.isSome_iff_exists.mp awake
  unfold wakeupFetchOfConsumer
  split
  · refine ⟨{ p with fetchEvent := p.fetchEvent.setCounter (count + 1) }, ?_,
      rfl, rfl⟩
    simp [wakeupFetch, WakeupEventSource.wakeup, found, bind, Except.bind, pure,
      Except.pure]
  · exact ⟨p, rfl, rfl, rfl⟩

/-- The start policy changes the next offset and nothing else. -/
theorem resetOffset_eq (p : KafkaPartition) (reported : Int) :
    p.resetOffset reported =
      { p with nextFetchOffset :=
          if p.config.cStartOffset = .fromEnd then reported
          else max p.nextFetchOffset reported } := by
  unfold resetOffset
  by_cases fromEnd : p.config.cStartOffset = .fromEnd
  · rw [if_pos fromEnd, if_pos fromEnd]
  · rw [if_neg fromEnd, if_neg fromEnd]
    by_cases behind : p.nextFetchOffset < reported
    · rw [if_pos behind, max_eq_right behind.le]
    · rw [if_neg behind, max_eq_left (not_lt.mp behind)]

/-- Delivering moves the next offset and calls the application at most once. -/
theorem deliver_eq (p : KafkaPartition) (messages : MessageSet) :
    ∃ effects, p.deliver messages =
        { p with
          nextFetchOffset := (collectMessages messages p.nextFetchOffset).2
          trace := p.trace ++ effects } ∧
      (effects = [] ∨ ∃ recvMsgs, effects = [.receivedData recvMsgs]) := by
  unfold deliver
  dsimp only
  split
  · exact ⟨_, rfl, .inr ⟨_, rfl⟩⟩
  · exact ⟨[], by rw [List.append_nil], .inl rfl⟩

/-- Delivering hands over what the filter leaves, in one call, and moves the
next offset. -/
theorem deliver_spec
    {p : KafkaPartition}
    (registered : p.onReceivedData = true)
    (messages : MessageSet) :
    (p.deliver messages).trace = p.trace ++
        (if (collectMessages messages p.nextFetchOffset).1 = [] then []
          else [.receivedData (collectMessages messages p.nextFetchOffset).1]) ∧
      (p.deliver messages).nextFetchOffset =
        (collectMessages messages p.nextFetchOffset).2 ∧
      (p.deliver messages).fetchEvent = p.fetchEvent := by
  cases collected : collectMessages messages p.nextFetchOffset with
  | mk recvMsgs next =>
      simp only [deliver, collected, registered, Bool.and_true]
      cases recvMsgs with
      | nil => simp
      | cons message messages => simp [record]

/-- A fetch response without an error is delivered. -/
theorem Receiving.handleFetchResponse
    {p : KafkaPartition}
    {payload : Bytes}
    {response : FetchResponse}
    (receiving : Receiving p)
    (readOk : readFetchResponse payload = .ok (response, 0))
    (surroundings : Surroundings) :
    ∃ q, p.handleFetchResponse payload surroundings = .ok q ∧
      q.trace = p.trace ++
        (if (collectMessages response.messages p.nextFetchOffset).1 = [] then []
          else [.receivedData
            (collectMessages response.messages p.nextFetchOffset).1]) ∧
      q.nextFetchOffset =
        (collectMessages response.messages p.nextFetchOffset).2 := by
  obtain ⟨trace, next, sameEvent⟩ :=
    deliver_spec receiving.registered response.messages
  obtain ⟨q, woken, traceKept, nextKept⟩ :=
    exists_wakeupFetchOfConsumer (sameEvent ▸ receiving.awake)
  refine ⟨q, ?_, traceKept.trans trace, nextKept.trans next⟩
  simp only [KafkaPartition.handleFetchResponse, readOk, ok_bind, ne_eq,
    not_true_eq_false, if_false]
  exact woken

/-- What a produce response does when it carries no error: the front request
leaves the transit queue. -/
theorem handleProduceResponse_success
    {p q : KafkaPartition}
    {payload : Bytes}
    {surroundings : Surroundings}
    {response : ProduceResponse}
    (readOk : readProduceResponse payload = .ok (response, 0))
    (returned : p.handleProduceResponse payload surroundings = .ok q) :
    ∃ req rest effects,
      p.inTransitProduceRequest = req :: rest ∧
      q = { p with
        inTransitProduceRequest := rest, trace := p.trace ++ effects } ∧
      (effects = [] ∨ ∃ offset,
        effects = [.produceResponse p.topic p.partition offset]) := by
  unfold handleProduceResponse at returned
  rw [readOk, ok_bind] at returned
  simp only [ne_eq, not_true_eq_false, if_false, acknowledge] at returned
  split at returned
  · cases returned
  · rename_i req rest front
    refine ⟨req, rest, ?_⟩
    split at returned
    · obtain rfl := Except.ok.inj returned
      exact ⟨[], front, by rw [List.append_nil], .inl rfl⟩
    · rename_i entry _
      split at returned
      · obtain rfl := Except.ok.inj returned
        exact ⟨_, front, rfl, .inr ⟨entry.offset, rfl⟩⟩
      · obtain rfl := Except.ok.inj returned
        exact ⟨[], front, by rw [List.append_nil], .inl rfl⟩

/-- What a produce response does when it carries an error: after the reaction
to the error the front request is put back, cut at its first zero byte. -/
theorem handleProduceResponse_error
    {p q : KafkaPartition}
    {payload : Bytes}
    {surroundings : Surroundings}
    {response : ProduceResponse}
    {ec : Int}
    (readOk : readProduceResponse payload = .ok (response, ec))
    (erroneous : ec ≠ 0)
    (returned : p.handleProduceResponse payload surroundings = .ok q) :
    ∃ req rest effects middle,
      p.inTransitProduceRequest = req :: rest ∧
      ConnectionOnly p effects middle ∧
      (errorBreaks ec surroundings.writes = false →
        ∀ effect ∈ effects, effect.isClose = false) ∧
      q = { middle with
        writeBuffers := p.writeBuffers ++
          [{ first := apiKeyProduceRequest, second := cStr req, request := none }]
        inTransitProduceRequest := rest } := by
  unfold handleProduceResponse at returned
  rw [readOk, ok_bind] at returned
  simp only [erroneous, ne_eq, not_false_eq_true, if_true] at returned
  obtain ⟨middle, reacted, requeued⟩ := bind_eq_ok.mp returned
  obtain ⟨effects, handled, unclosed⟩ := handleKafkaError_spec reacted
  have same : middle.inTransitProduceRequest = p.inTransitProduceRequest ∧
      middle.writeBuffers = p.writeBuffers := by
    obtain ⟨⟨_, _, _, _, rfl⟩, -⟩ := handled
    exact ⟨rfl, rfl⟩
  unfold returnRequest at requeued
  split at requeued
  · cases requeued
  · rename_i req rest front
    obtain rfl := Except.ok.inj requeued
    exact ⟨req, rest, effects, middle, same.1 ▸ front, handled, unclosed, by
      rw [same.2]⟩

end KafkaPartition
end AsyncKafka
