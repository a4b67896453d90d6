import AsyncKafka.Consumer.Ascent
import AsyncKafka.Producer.Received

/-!
# Producer, broker and consumer

The whole way of a message: a producer and a consumer of one partition, and a
broker between them that takes the bytes of the producer's connections, one
connection after the other, appends what it reads to its log and answers the
consumer from there.  The three take their steps in any order.
-/

namespace AsyncKafka

open Wire Execution Broker LogReader

/-- The two ends and what the broker has received. -/
structure Pipeline where
  producer : KafkaPartition
  consumer : KafkaPartition
  /-- The log of the broker before the producer was there. -/
  earlier : List Bytes
  /-- The bytes that have arrived on the connections of the producer. -/
  received : List Bytes
  deriving DecidableEq

namespace Pipeline

/-- What may happen next. -/
inductive Input
  /-- A call of the producer. -/
  | produce (call : KafkaPartition.Call)
  /-- More bytes arrive on the connection that the broker reads. -/
  | arrive (bytes : Bytes)
  /-- The broker turns to the next connection. -/
  | turn
  /-- An event of the consumer. -/
  | consume (event : KafkaPartition.Event)
  deriving DecidableEq, Repr

/-- The messages that an input gives to the producer. -/
def Input.messages : Input → List Bytes
  | .produce call => call.messages
  | _ => []

/-- The log of the broker. -/
def log (crc32 : Bytes → UInt32) (s : Pipeline) : List Bytes :=
  s.earlier ++ s.received.flatMap
    (arrivedValues crc32 s.producer.topic s.producer.partition)

/-- What has been received once more bytes arrive. -/
def receivedWith (s : Pipeline) (bytes : Bytes) : List Bytes :=
  s.received.dropLast ++ [s.received.getLastD [] ++ bytes]

def step (crc32 : Bytes → UInt32) (s : Pipeline) : Input → Except Halt Pipeline
  | .produce call => do
      let producer ← KafkaPartition.perform crc32 s.producer call
      return { s with producer }
  | .arrive bytes => .ok { s with received := s.receivedWith bytes }
  | .turn => .ok { s with received := s.received ++ [[]] }
  | .consume event => do
      let consumer ← KafkaPartition.step crc32 s.consumer event
      return { s with consumer }

/-- Nothing arrives that the kernel of the producer has not accepted, and the
messages that the consumer is shown are in the log. -/
def Permitted (crc32 : Bytes → UInt32) (s : Pipeline) : Input → Prop
  | .produce call => KafkaPartition.Careful s.producer call ∧ [] ∉ call.messages
  | .arrive bytes =>
      Chunks.Within (s.receivedWith bytes) s.producer.exchange.channels
  | .turn => Chunks.Within (s.received ++ [[]]) s.producer.exchange.channels
  | .consume event =>
      KafkaPartition.BrokerServes (written [0] (s.log crc32)) 0 s.consumer
        event ∧
      (s.log crc32).length < 2 ^ 63 ∧
      ∀ message ∈ KafkaPartition.shown event,
        message.offset < (s.log crc32).length

end Pipeline

namespace KafkaPartition

variable {crc32 : Bytes → UInt32} {p q : KafkaPartition}

theorem Bookkeeping.trace_prefix
    {effects : List Effect}
    (kept : Bookkeeping p effects q) :
    p.trace <+: q.trace := by
  obtain ⟨⟨_, _, _, _, _, _, _, _, _, _, _, rfl⟩, -⟩ := kept
  exact List.prefix_append _ _

/-- What a partition has done to the outside is never undone. -/
theorem Transition.trace_prefix
    {event : Event}
    (moved : Transition crc32 p event q) :
    p.trace <+: q.trace := by
  have recorded (effect : Effect) : p.trace <+: (p.record effect).trace :=
    List.prefix_append _ _
  cases moved with
  | accept kept _ => exact kept.trace_prefix
  | drain _ kept => exact kept.trace_prefix
  | fetch kept => exact kept.trace_prefix
  | metadata kept => exact kept.trace_prefix
  | idle _ kept => exact kept.trace_prefix
  | write _ kept _ _ => exact (recorded _).trans kept.trace_prefix
  | lost _ kept => exact kept.trace_prefix
  | produced _ _ _ result _ =>
      subst result
      exact List.prefix_append _ _
  | refused _ _ _ _ kept _ result =>
      subst result
      exact (recorded _).trans kept.trace_prefix
  | @fetched payload _ _ _ _ _ kept =>
      refine ((recorded (.read payload)).trans ?_).trans kept.trace_prefix
      unfold deliver
      dsimp only
      split
      · exact List.prefix_append _ _
      · exact List.prefix_rfl
  | @repositioned _ _ offset _ middle _ _ kept _ =>
      have unmoved : (middle.resetOffset offset).trace = middle.trace := by
        rw [resetOffset_eq]
      rw [unmoved]
      exact (recorded _).trans kept.trace_prefix
  | answered _ kept _ => exact (recorded _).trans kept.trace_prefix

/-- What no call changes, and what it only adds to. -/
theorem perform_keeps
    {call : Call}
    (performed : perform crc32 p call = .ok q) :
    q.topic = p.topic ∧ q.partition = p.partition ∧ p.trace <+: q.trace := by
  cases call with
  | event event =>
      have moved := step_transition performed
      exact ⟨congrArg Identity.topic moved.identity,
        congrArg Identity.partition moved.identity, moved.trace_prefix⟩
  | connect fd =>
      obtain rfl := Except.ok.inj performed
      exact ⟨rfl, rfl, List.prefix_append _ _⟩
  | offsetRequest =>
      obtain rfl := Except.ok.inj performed
      exact ⟨rfl, rfl, List.prefix_rfl⟩
  | armTimer fd =>
      obtain ⟨_, -, rfl⟩ := perform_armTimer performed
      exact ⟨rfl, rfl, List.prefix_rfl⟩
  | callbacks onReceivedData onProduceResponse onMsgQueued =>
      obtain rfl := Except.ok.inj performed
      exact ⟨rfl, rfl, List.prefix_rfl⟩
  | startFetch eventFd timerFd =>
      have kept := startFetch_bookkeeping performed
      exact ⟨congrArg Identity.topic kept.identity,
        congrArg Identity.partition kept.identity, kept.trace_prefix⟩
  | startProduce eventFd queueFd timerFd =>
      have kept := startProduce_bookkeeping performed
      exact ⟨congrArg Identity.topic kept.identity,
        congrArg Identity.partition kept.identity, kept.trace_prefix⟩

/-- The connections only grow. -/
theorem within_channels_of_trace
    (longer : p.trace <+: q.trace) :
    Chunks.Within p.exchange.channels q.exchange.channels := by
  obtain ⟨effects, added⟩ := longer
  unfold exchange
  rw [← added, List.foldl_append]
  clear added
  generalize p.trace.foldl Exchange.observe {} = before
  induction effects generalizing before with
  | nil => exact .refl _
  | cons effect effects inductionHypothesis =>
      exact (before.within_observe effect).trans
        (inductionHypothesis (before.observe effect))

/-- The filter does not pass the end of the log. -/
theorem collectMessages_le
    {messages : MessageSet}
    {next bound : Int}
    (lower : -(2 ^ 63) ≤ next)
    (atMost : next ≤ bound)
    (upper : bound < 2 ^ 63)
    (inside : ∀ message ∈ messages, message.offset < bound) :
    (collectMessages messages next).2 ≤ bound := by
  rw [collectMessages_eq_take (fun message member => by
    have isInside := inside message member
    omega) lower]
  dsimp only
  exact HighWater.take_le MessageAndOffset.offset atMost inside

/-- The next offset of a consumer stays within the log that it is served
from. -/
theorem step_within
    {earliest bound : Int}
    {log : Int → Bytes}
    {event : Event}
    (fetching : Fetching earliest p)
    (serves : BrokerServes log earliest p event)
    (lower : -(2 ^ 63) ≤ p.nextFetchOffset)
    (atMost : p.nextFetchOffset ≤ bound)
    (upper : bound < 2 ^ 63)
    (inside : ∀ message ∈ shown event, message.offset < bound)
    (stepped : step crc32 p event = .ok q) :
    q.nextFetchOffset ≤ bound := by
  cases step_offsetMove fetching.registered stepped with
  | collected _ advanced =>
      rw [advanced]
      exact collectMessages_le lower atMost upper inside
  | @repositioned offset _ isAnnounced _ moved =>
      obtain rfl : offset = earliest := by
        unfold announced at isAnnounced
        split at isAnnounced
        · rename_i payload surroundings _
          split at isAnnounced
          · rename_i kind
            exact announcedOffset_of_isOffsetAnswer
              ((serves payload surroundings rfl).2 kind) isAnnounced
          · cases isAnnounced
        · cases isAnnounced
      rw [moved, resetOffset_of_le fetching.policy fetching.available]
      exact atMost

end KafkaPartition

namespace Pipeline

variable {crc32 : Bytes → UInt32} {start s t : Pipeline}

/-! ## What every step preserves -/

/-- The log of the broker is what it was before and accepted messages, and the
consumer has delivered a segment of it. -/
structure Flowing (crc32 : Bytes → UInt32) (start s : Pipeline) : Prop where
  legal : KafkaPartition.Legal crc32 s.producer
  earlier : s.earlier = start.earlier
  within : Chunks.Within s.received s.producer.exchange.channels
  something : [] ∉ s.earlier ++
    (s.producer.handedValues ++ s.producer.waitingValues)
  fetching : KafkaPartition.Fetching 0 s.consumer
  inRange : KafkaPartition.OffsetInRange s.consumer
  forward : start.consumer.nextFetchOffset ≤ s.consumer.nextFetchOffset
  ahead : s.consumer.nextFetchOffset ≤ (s.log crc32).length
  delivered : s.consumer.delivered =
    ((s.log crc32).take s.consumer.nextFetchOffset.toNat).drop
      start.consumer.nextFetchOffset.toNat

namespace Flowing

/-- What the broker has appended was handed to the kernel before. -/
theorem appended_sublist
    (flowing : Flowing crc32 start s) :
    (s.received.flatMap (arrivedValues crc32 s.producer.topic
      s.producer.partition)).Sublist s.producer.handedValues :=
  (flowing.legal.arrivedValues flowing.within).1.trans
    (s.producer.wholeFrames_sublist.flatMap _)

/-- No entry of the log is empty. -/
theorem nonempty
    (flowing : Flowing crc32 start s)
    (offset : Int) :
    written [0] (s.log crc32) offset ≠ [] := by
  intro empty
  rw [written, List.getD_eq_getElem?_getD] at empty
  cases entry : (s.log crc32)[offset.toNat]? with
  | none =>
      rw [entry] at empty
      cases empty
  | some value =>
      rw [entry, Option.getD_some] at empty
      have member : [] ∈ s.log crc32 := empty ▸ List.mem_of_getElem? entry
      apply flowing.something
      rcases List.mem_append.mp member with before | appended
      · exact List.mem_append_left _ before
      · exact List.mem_append_right _ (List.mem_append_left _
          (flowing.appended_sublist.subset appended))

/-- The log only grows by what arrives. -/
theorem of_log_prefix
    (flowing : Flowing crc32 start s)
    (legal : KafkaPartition.Legal crc32 t.producer)
    (sameEarlier : t.earlier = s.earlier)
    (within : Chunks.Within t.received t.producer.exchange.channels)
    (something : [] ∉ s.earlier ++
      (t.producer.handedValues ++ t.producer.waitingValues))
    (sameConsumer : t.consumer = s.consumer)
    (grows : s.log crc32 <+: t.log crc32) :
    Flowing crc32 start t := by
  obtain ⟨more, added⟩ := grows
  have inside : s.consumer.nextFetchOffset.toNat ≤ (s.log crc32).length := by
    have ahead := flowing.ahead
    omega
  refine ⟨legal, sameEarlier.trans flowing.earlier, within,
    sameEarlier ▸ something, ?_, ?_, ?_, ?_, ?_⟩
  · rw [sameConsumer]
    exact flowing.fetching
  · rw [sameConsumer]
    exact flowing.inRange
  · rw [sameConsumer]
    exact flowing.forward
  · have ahead := flowing.ahead
    rw [sameConsumer, ← added, List.length_append]
    push_cast
    omega
  · rw [sameConsumer, ← added, List.take_append_of_le_length inside]
    exact flowing.delivered

/-- A call of the producer. -/
theorem produce
    {call : KafkaPartition.Call}
    (flowing : Flowing crc32 start s)
    (permitted : Permitted crc32 s (.produce call))
    (stepped : step crc32 s (.produce call) = .ok t) :
    Flowing crc32 start t := by
  obtain ⟨careful, notEmpty⟩ := permitted
  obtain ⟨producer, performed, result⟩ := bind_eq_ok.mp stepped
  obtain rfl := Except.ok.inj result
  obtain ⟨sameTopic, samePartition, longer⟩ :=
    KafkaPartition.perform_keeps performed
  obtain ⟨output, handed, moved⟩ := KafkaPartition.perform_move performed
    careful.moderate.unrefused
  refine flowing.of_log_prefix (flowing.legal.perform careful performed) rfl
    (flowing.within.trans (KafkaPartition.within_channels_of_trace longer)) ?_ rfl
    ?_
  · have balance : producer.handedValues ++ producer.waitingValues =
        s.producer.handedValues ++ s.producer.waitingValues ++
          call.messages := by
      unfold Fifo.Move at moved
      rw [handed, List.append_assoc, ← moved, List.append_assoc]
    change [] ∉ s.earlier ++ (producer.handedValues ++ producer.waitingValues)
    rw [balance, ← List.append_assoc, List.mem_append]
    rintro (old | new)
    · exact flowing.something old
    · exact notEmpty new
  · have same : (log crc32 { s with producer }) = s.log crc32 := by
      unfold log
      rw [sameTopic, samePartition]
    rw [same]

/-- More bytes arrive on the connection that the broker reads. -/
theorem arrive
    {bytes : Bytes}
    (flowing : Flowing crc32 start s)
    (permitted : Permitted crc32 s (.arrive bytes))
    (stepped : step crc32 s (.arrive bytes) = .ok t) :
    Flowing crc32 start t := by
  obtain rfl := Except.ok.inj stepped
  refine flowing.of_log_prefix flowing.legal rfl permitted flowing.something rfl
    ?_
  unfold log receivedWith
  dsimp only
  rw [List.prefix_append_right_inj]
  cases s.received using List.reverseRecOn with
  | nil => exact List.nil_prefix
  | append_singleton before last =>
      obtain ⟨later, more⟩ := arrivedValues_prefix crc32 s.producer.topic
        s.producer.partition last bytes
      simp only [List.dropLast_concat, List.getLastD_concat,
        List.flatMap_append, List.flatMap_singleton]
      rw [List.prefix_append_right_inj, ← more]
      exact List.prefix_append _ _

/-- The broker turns to the next connection. -/
theorem turn
    (flowing : Flowing crc32 start s)
    (permitted : Permitted crc32 s .turn)
    (stepped : step crc32 s .turn = .ok t) :
    Flowing crc32 start t := by
  obtain rfl := Except.ok.inj stepped
  refine flowing.of_log_prefix flowing.legal rfl permitted flowing.something rfl
    ?_
  unfold log
  dsimp only
  rw [List.flatMap_append, List.flatMap_singleton, arrivedValues_nil,
    List.append_nil]

/-- An event of the consumer. -/
theorem consume
    {event : KafkaPartition.Event}
    (flowing : Flowing crc32 start s)
    (permitted : Permitted crc32 s (.consume event))
    (stepped : step crc32 s (.consume event) = .ok t) :
    Flowing crc32 start t := by
  obtain ⟨serves, upper, inside⟩ := permitted
  obtain ⟨consumer, returned, result⟩ := bind_eq_ok.mp stepped
  obtain rfl := Except.ok.inj result
  have begun : 0 ≤ s.consumer.nextFetchOffset := flowing.fetching.available
  have ahead := flowing.ahead
  have moved := KafkaPartition.step_transition returned
  obtain ⟨output, emitted, forward, segment⟩ :=
    moved.advances flowing.nonempty flowing.fetching serves
  have bound : consumer.nextFetchOffset ≤ (s.log crc32).length :=
    KafkaPartition.step_within flowing.fetching serves (by omega) ahead
      (by exact_mod_cast upper) inside returned
  have early := flowing.forward
  refine ⟨flowing.legal, flowing.earlier, flowing.within, flowing.something,
    flowing.fetching.transition forward moved,
    moved.offsetInRange flowing.inRange, early.trans forward, bound, ?_⟩
  change consumer.delivered =
    ((s.log crc32).take consumer.nextFetchOffset.toNat).drop
      start.consumer.nextFetchOffset.toNat
  rw [emitted, flowing.delivered, segment, segment_written [0] begun bound]
  exact drop_take_append _ (by omega) (by omega) (by omega)

end Flowing

/-- A producer before its first connection, and a consumer that was just started
at an offset that the log of the broker has. -/
structure Opened (s : Pipeline) : Prop where
  unborn : KafkaPartition.Unborn s.producer
  fits : KafkaPartition.IdentityFits s.producer
  inRange : KafkaPartition.OffsetInRange s.producer
  started : KafkaPartition.StartedConsumer s.consumer
  policy : s.consumer.config.cStartOffset ≠ .fromEnd
  begun : 0 ≤ s.consumer.nextFetchOffset
  inLog : s.consumer.nextFetchOffset ≤ s.earlier.length
  short : s.earlier.length < 2 ^ 63
  nonempty : [] ∉ s.earlier
  nothing : s.received = []

theorem Opened.flowing
    (opened : Opened s)
    (crc32 : Bytes → UInt32) :
    Flowing crc32 s s := by
  obtain ⟨unborn, fits, inRange, started, policy, begun, inLog, short, nonempty,
    nothing⟩ := opened
  have alone : s.log crc32 = s.earlier := by
    rw [log, nothing, List.flatMap_nil, List.append_nil]
  refine ⟨unborn.legal fits inRange crc32, rfl, nothing ▸ trivial, ?_,
    started.fetching policy begun, ⟨by omega, by omega⟩, le_rfl, ?_, ?_⟩
  · rw [unborn.noValues, List.append_nil]
    exact nonempty
  · rw [alone]
    exact inLog
  · rw [started.fresh.1.delivered, List.drop_eq_nil_of_le]
    exact List.length_take_le _ _

theorem Flowing.step
    {input : Input}
    (flowing : Flowing crc32 start s)
    (permitted : Permitted crc32 s input)
    (stepped : Pipeline.step crc32 s input = .ok t) :
    Flowing crc32 start t := by
  cases input with
  | produce call => exact flowing.produce permitted stepped
  | arrive bytes => exact flowing.arrive permitted stepped
  | turn => exact flowing.turn permitted stepped
  | consume event => exact flowing.consume permitted stepped

/-- What the producer has handed over or keeps is what it has accepted. -/
theorem Flowing.run
    {history : List Input}
    (opened : Opened start)
    (run : Run (Pipeline.step crc32) (Permitted crc32) start history s) :
    Flowing crc32 start s ∧
      s.producer.handedValues ++ s.producer.waitingValues =
        history.flatMap Input.messages := by
  obtain ⟨flowing, conserved⟩ := Fifo.conserved (Flowing crc32 start)
    (fun state => state.producer.handedValues)
    (fun state => state.producer.waitingValues) Input.messages
    (opened.flowing crc32) (fun state input next held permitted stepped => by
      refine ⟨held.step permitted stepped, ?_⟩
      cases input with
      | produce call =>
          obtain ⟨producer, performed, result⟩ := bind_eq_ok.mp stepped
          obtain rfl := Except.ok.inj result
          exact KafkaPartition.perform_move performed
            permitted.1.moderate.unrefused
      | arrive bytes =>
          obtain rfl := Except.ok.inj stepped
          exact ⟨[], by simp, .idle _⟩
      | turn =>
          obtain rfl := Except.ok.inj stepped
          exact ⟨[], by simp, .idle _⟩
      | consume event =>
          obtain ⟨consumer, _, result⟩ := bind_eq_ok.mp stepped
          obtain rfl := Except.ok.inj result
          exact ⟨[], by simp, .idle _⟩) run
  rw [opened.unborn.noValues, List.nil_append] at conserved
  exact ⟨flowing, conserved⟩

/-- However producer, broker and consumer take turns, the consumer has delivered
the log from its start offset to its next one, and the log continues with
messages that the producer has accepted, in their order and none of them
twice. -/
theorem delivered_in_order
    {history : List Input}
    (opened : Opened start)
    (run : Run (step crc32) (Permitted crc32) start history s) :
    s.consumer.delivered =
        ((s.log crc32).take s.consumer.nextFetchOffset.toNat).drop
          start.consumer.nextFetchOffset.toNat ∧
      s.consumer.nextFetchOffset ≤ (s.log crc32).length ∧
      ∃ appended, s.log crc32 = start.earlier ++ appended ∧
        appended.Sublist (history.flatMap Input.messages) := by
  obtain ⟨flowing, conserved⟩ := Flowing.run opened run
  refine ⟨flowing.delivered, flowing.ahead, s.received.flatMap
    (arrivedValues crc32 s.producer.topic s.producer.partition), ?_, ?_⟩
  · rw [← flowing.earlier]
    rfl
  · rw [← conserved]
    exact flowing.appended_sublist.trans (List.sublist_append_left _ _)

/-- Once nothing waits, no frame was cut, all bytes have arrived and the
consumer has reached the end of the log, it has delivered every accepted message
exactly once, behind what the log held from its start offset on. -/
theorem delivered_exactly_once
    {history : List Input}
    (opened : Opened start)
    (run : Run (step crc32) (Permitted crc32) start history s)
    (sent : s.producer.waitingValues = [])
    (whole : s.producer.wholeFrames = s.producer.handedFrames)
    (arrived : s.received = s.producer.exchange.channels)
    (caughtUp : s.consumer.nextFetchOffset = (s.log crc32).length) :
    s.consumer.delivered =
      (start.earlier ++ history.flatMap Input.messages).drop
        start.consumer.nextFetchOffset.toNat := by
  obtain ⟨flowing, conserved⟩ := Flowing.run opened run
  have appended := (flowing.legal.arrivedValues flowing.within).2 arrived
  have everything : s.log crc32 =
      start.earlier ++ history.flatMap Input.messages := by
    rw [sent, List.append_nil] at conserved
    rw [log, flowing.earlier, appended, whole, ← conserved]
    rfl
  rw [flowing.delivered, caughtUp, Int.toNat_natCast, List.take_length,
    everything]

/-! ## Two letters -/

/-- The executable form of `Permitted` for a broker that sends the letters that
it has to a consumer that asked for them. -/
def permitsLetters (s : Pipeline) : Input → Bool
  | .produce call =>
      KafkaPartition.careful s.producer call && !call.messages.contains []
  | .arrive bytes =>
      decide (Chunks.Within (s.receivedWith bytes) s.producer.exchange.channels)
  | .turn =>
      decide (Chunks.Within (s.received ++ [[]]) s.producer.exchange.channels)
  | .consume (.readReady (.payload payload) _) =>
      (s.consumer.requestedOffsets.any fun offset => 0 ≤ offset) &&
        (payload == KafkaPartition.letterAnswer 1 &&
            s.log Crc32.checksum == [[97]] ||
          payload == KafkaPartition.letterAnswer 2 &&
            s.log Crc32.checksum == [[97], [98]])
  | .consume _ => decide ((s.log Crc32.checksum).length < 2 ^ 63)

/-- The first letters of a log answer a fetch request. -/
theorem isFetchAnswer_letters
    {p : KafkaPartition}
    {log : Int → Bytes}
    {count : Nat}
    (few : count ≤ 2)
    (letters : ∀ offset : Nat, offset < count →
      log offset = KafkaPartition.letterLog offset)
    (asks : p.requestedOffsets.any (fun offset => 0 ≤ offset) = true) :
    KafkaPartition.IsFetchAnswer log p (KafkaPartition.letterAnswer count) := by
  obtain ⟨asked, sent, inLog⟩ := List.any_eq_true.mp asks
  have valid (offset : Nat) (inside : offset < count) :
      LogMessage.Valid
        { offset, value := KafkaPartition.letterLog offset } := by
    refine ⟨?_, ?_, ?_⟩
    · simp [LogMessage.length_body, bytesWireSize, KafkaPartition.letterLog]
    · change -(2 ^ 63) ≤ (offset : Int)
      omega
    · change (offset : Int) < 2 ^ 63 - 1
      omega
  refine ⟨[116], 0, 0, 3, KafkaPartition.letterMessages count, by decide,
    by decide, by decide, ?_, rfl, asked, sent,
    .inr ⟨0, of_decide_eq_true inLog, ?_⟩⟩
  · obtain rfl | rfl | rfl : count = 0 ∨ count = 1 ∨ count = 2 := by omega
    all_goals decide
  · obtain rfl | rfl | rfl : count = 0 ∨ count = 1 ∨ count = 2 := by omega
    · trivial
    · exact ⟨rfl, (letters 0 (by decide)).symm, valid 0 (by decide), trivial⟩
    · exact ⟨rfl, (letters 0 (by decide)).symm, valid 0 (by decide), rfl,
        (letters 1 (by decide)).symm, valid 1 (by decide), trivial⟩

/-- A broker that has one or two letters may send them. -/
theorem permitted_letters
    {count : Nat}
    (few : count = 1 ∨ count = 2)
    (asks : s.consumer.requestedOffsets.any (fun offset => 0 ≤ offset) = true)
    (content : s.log Crc32.checksum = [[97], [98]].take count)
    (surroundings : KafkaPartition.Surroundings) :
    Permitted Crc32.checksum s (.consume
      (.readReady (.payload (KafkaPartition.letterAnswer count))
        surroundings)) := by
  have letters : ∀ offset : Nat, offset < count →
      written [0] (s.log Crc32.checksum) offset =
        KafkaPartition.letterLog offset := by
    intro offset inside
    rw [content]
    rcases few with rfl | rfl
    · obtain rfl : offset = 0 := by omega
      rfl
    · obtain rfl | rfl : offset = 0 ∨ offset = 1 := by omega
      all_goals rfl
  have answer := isFetchAnswer_letters (by omega) letters asks
  refine ⟨?_, ?_, ?_⟩
  · intro payload others same
    obtain ⟨samePayload, -⟩ := KafkaPartition.Event.readReady.inj same
    obtain rfl := KafkaPartition.ReadOutcome.payload.inj samePayload
    refine ⟨fun _ => answer, fun kind => absurd kind ?_⟩
    rcases few with rfl | rfl <;> decide +kernel
  · rw [content]
    rcases few with rfl | rfl <;> decide
  · change ∀ message ∈ KafkaPartition.fetchedMessages
      (KafkaPartition.letterAnswer count), _
    rw [content]
    rcases few with rfl | rfl <;> decide +kernel

theorem permitsLetters_sound
    {input : Input}
    (checked : permitsLetters s input = true) :
    Permitted Crc32.checksum s input := by
  cases input with
  | produce call =>
      obtain ⟨isCareful, notEmpty⟩ := Bool.and_eq_true_iff.mp checked
      exact ⟨KafkaPartition.careful_sound isCareful, by simpa using notEmpty⟩
  | arrive bytes =>
      exact show Chunks.Within _ _ from of_decide_eq_true checked
  | turn => exact show Chunks.Within _ _ from of_decide_eq_true checked
  | consume event =>
      -- An event that shows nothing needs a log that can be numbered.
      have silent (short : (s.log Crc32.checksum).length < 2 ^ 63)
          (unread : ∀ payload surroundings,
            event ≠ .readReady (.payload payload) surroundings)
          (nothing : KafkaPartition.shown event = []) :
          Permitted Crc32.checksum s (.consume event) := by
        refine ⟨fun payload surroundings same => ?_, short, by simp [nothing]⟩
        exact absurd same (unread payload surroundings)
      cases event with
      | readReady outcome surroundings =>
          cases outcome with
          | payload payload =>
              obtain ⟨asks, answers⟩ := Bool.and_eq_true_iff.mp checked
              rcases Bool.or_eq_true_iff.mp answers with one | two
              · obtain ⟨same, content⟩ := Bool.and_eq_true_iff.mp one
                obtain rfl := eq_of_beq same
                exact permitted_letters (.inl rfl) asks (eq_of_beq content) _
              · obtain ⟨same, content⟩ := Bool.and_eq_true_iff.mp two
                obtain rfl := eq_of_beq same
                exact permitted_letters (.inr rfl) asks (eq_of_beq content) _
          | _ => exact silent (of_decide_eq_true checked) (by simp) rfl
      | _ => exact silent (of_decide_eq_true checked) (by simp) rfl

/-- A producer and a consumer of the topic `t`, and a broker with an empty
log. -/
def samplePipeline : Pipeline where
  producer := KafkaPartition.sampleUnborn .producer
  consumer := KafkaPartition.sampleConsumer {}
  earlier := []
  received := []

/-- The frame of one letter. -/
def letterFrame (letter : UInt8) : Bytes :=
  (KafkaPartition.produceBuffer Crc32.checksum samplePipeline.producer.config
    (samplePipeline.producer.chunkRequest [[letter]])).second

/-- The bytes of a producer that has sent a letter. -/
def firstBytes : Bytes :=
  samplePipeline.producer.metadataBuffer.second ++
    samplePipeline.producer.offsetBuffer.second ++ letterFrame 97

/-- The calls of a producer that sends a letter. -/
def letterCalls : List KafkaPartition.Call :=
  KafkaPartition.initCalls 5 KafkaPartition.sampleSurroundings ++
    [.startProduce 7 8 9, .event (.produce [97]), .event .batchTimer,
      .event (.writeReady .written)]

/-- Two letters are sent, and the consumer is served while the second one is on
its way and again when it has come. -/
def letterInputs : List Input :=
  letterCalls.map .produce ++ [.turn, .arrive firstBytes, .consume .fetchEvent,
    .consume (.writeReady .written),
    .produce (.event (.produce [98])), .produce (.event .batchTimer),
    .produce (.event (.writeReady .written)),
    .arrive ((letterFrame 98).take 40),
    .consume (.readReady (.payload (KafkaPartition.letterAnswer 1)) {}),
    .arrive ((letterFrame 98).drop 40), .consume .fetchEvent,
    .consume (.writeReady .written),
    .consume (.readReady (.payload (KafkaPartition.letterAnswer 2)) {})]

theorem samplePipeline_opened : Opened samplePipeline where
  unborn := KafkaPartition.sampleUnborn_unborn .producer
  fits := KafkaPartition.sampleUnborn_fits
  inRange := ⟨by decide, by decide⟩
  started := KafkaPartition.sampleConsumer_started {} (by decide +kernel)
  policy := by decide
  begun := by decide
  inLog := by decide
  short := by decide
  nonempty := by decide
  nothing := rfl

/-- The second answer repeats the first letter, which is delivered once. -/
theorem delivered_in_order_letters :
    ∃ s, Run (step Crc32.checksum) (Permitted Crc32.checksum) samplePipeline
        letterInputs s ∧
      s.consumer.nextFetchOffset = 2 ∧
      s.consumer.delivered = (s.log Crc32.checksum).take 2 ∧
      ∃ appended, s.log Crc32.checksum = appended ∧
        appended.Sublist [[97], [98]] := by
  obtain ⟨s, run, reached⟩ := exists_run_of_follow (step Crc32.checksum)
    (fun s input => permitsLetters s input = true) samplePipeline letterInputs
    (fun s => s.consumer.nextFetchOffset == 2) (by decide +kernel)
  have permitted := run.mono fun _ _ checked => permitsLetters_sound checked
  have position : s.consumer.nextFetchOffset = 2 := by simpa using reached
  obtain ⟨delivered, -, appended, log, ordered⟩ :=
    delivered_in_order samplePipeline_opened permitted
  refine ⟨s, permitted, position, ?_, appended, log, ordered⟩
  rw [delivered, position]
  rfl

/-- Both letters have been delivered once everything has arrived. -/
theorem delivered_exactly_once_letters :
    ∃ s, Run (step Crc32.checksum) (Permitted Crc32.checksum) samplePipeline
        letterInputs s ∧
      s.consumer.delivered = [[97], [98]] := by
  obtain ⟨s, run, reached⟩ := exists_run_of_follow (step Crc32.checksum)
    (fun s input => permitsLetters s input = true) samplePipeline letterInputs
    (fun s => s.producer.waitingValues = [] ∧
      s.producer.wholeFrames = s.producer.handedFrames ∧
      s.received = s.producer.exchange.channels ∧
      s.consumer.nextFetchOffset = (s.log Crc32.checksum).length)
    (by decide +kernel)
  obtain ⟨sent, whole, arrived, caughtUp⟩ := of_decide_eq_true reached
  have permitted := run.mono fun _ _ checked => permitsLetters_sound checked
  exact ⟨s, permitted, delivered_exactly_once samplePipeline_opened permitted
    sent whole arrived caughtUp⟩

end Pipeline
end AsyncKafka
