import AsyncKafka.Partition.Readable
import AsyncKafka.Partition.Streams
import AsyncKafka.Producer.Queue

/-!
# What brokers receive of a producer

The bytes that the kernel has accepted on a connection arrive up to some point.
A broker reads the requests that have arrived whole and appends their values to
the log of the partition.  A frame that was cut short and one that the kernel
refused are never sent again, so a message may be lost, but none arrives twice
and none overtakes another.
-/

namespace AsyncKafka

open Wire Execution Broker StreamReader

namespace Broker

/-- The decoder of requests is one with a length prefix. -/
theorem readRequest_eq_prefixed (crc32 : Bytes → UInt32) :
    readRequest crc32 =
      prefixed malformed 4 (fun head => (ByteOrder.readSigned head).toNat) (do
        let apiKey ← readInt16
        readVersion readInt16 0
        let correlationId ← readInt32
        let clientId ← readString
        let request ← readRequestMessage crc32 apiKey correlationId
        return (clientId, request)) := rfl

theorem readRequest_awaits
    {crc32 : Bytes → UInt32}
    {block : Bytes}
    {result : Bytes × Request}
    (takes : (readRequest crc32).Takes block result) :
    (readRequest crc32).Awaits block := by
  have whole := takes.whole
  rw [readRequest_eq_prefixed] at whole ⊢
  exact prefixed_awaits whole

theorem readRequest_starves_nil (crc32 : Bytes → UInt32) :
    (readRequest crc32).Starves [] := by
  intro part beginning result rest returned
  obtain rfl := List.prefix_nil.mp beginning
  rw [readRequest_eq_prefixed] at returned
  obtain ⟨head, body, width, -, nothing, -⟩ := prefixed_left returned
  obtain ⟨rfl, -⟩ := List.append_eq_nil_iff.mp nothing.symm
  cases width

/-- The requests that have arrived whole, with the names of the clients. -/
def arrivedRequests (crc32 : Bytes → UInt32) (bytes : Bytes) :
    List (Bytes × Request) :=
  (readRequest crc32).arrived (bytes.length + 1) bytes

end Broker

/-- The values that a broker appends to the log of a partition. -/
def Wire.Request.appended (topic : Bytes) (partition : Int) :
    Request → List Bytes
  | .produce request =>
      (request.topics.filter fun entry => entry.topicName = topic).flatMap
        fun entry =>
          (entry.partitions.filter fun part => part.partition = partition).flatMap
            fun part => part.messages.map fun message => message.value.getD []
  | _ => []

/-- All values of a request for one partition are for that partition. -/
theorem Wire.Request.Concerns.appended
    {topic : Bytes}
    {partition : Int}
    {request : ProduceRequest}
    (concerns : (Request.produce request).Concerns topic partition) :
    (Request.produce request).appended topic partition = request.values := by
  have topics : (request.topics.filter fun entry => entry.topicName = topic) =
      request.topics := by
    rw [List.filter_eq_self]
    exact fun entry member => decide_eq_true (concerns entry member).1
  simp only [Request.appended, ProduceRequest.values, topics]
  refine List.flatMap_congr fun entry member => ?_
  have partitions :
      (entry.partitions.filter fun part => part.partition = partition) =
        entry.partitions := by
    rw [List.filter_eq_self]
    exact fun part inside =>
      decide_eq_true ((concerns entry member).2 part inside)
  rw [partitions]

namespace WriteBuffer

/-- The request that the frame encodes. -/
def carried (buffer : WriteBuffer) : Request :=
  buffer.request.getD (.metadata { correlationId := 0, topicNames := [] })

namespace Readable

variable {crc32 : Bytes → UInt32} {clientId topic : Bytes} {partition : Int}
  {buffer : WriteBuffer} {request : Request}

theorem carried
    (readable : buffer.Readable crc32 clientId topic partition request) :
    buffer.carried = request := by
  rw [WriteBuffer.carried, readable.built, Option.getD_some]

theorem nonempty
    (readable : buffer.Readable crc32 clientId topic partition request) :
    buffer.second ≠ [] := by
  intro empty
  have returned := readable.read []
  rw [empty] at returned
  exact readRequest_starves_nil crc32 [] List.prefix_rfl _ _ returned

/-- What a broker appends for a frame is what the frame carries. -/
theorem appended
    (readable : buffer.Readable crc32 clientId topic partition request) :
    request.appended topic partition = buffer.values := by
  have built := readable.built
  have concerns := readable.concerns
  unfold values
  rw [built]
  cases request with
  | produce request => exact concerns.appended
  | _ => rfl

end Readable
end WriteBuffer

/-- The bytes that were accepted on a connection. -/
def Sent.bytes (stream : Sent) : Bytes := Chunks.taken stream

/-- The frames that were accepted whole on a connection. -/
def Sent.wholes (stream : Sent) : List WriteBuffer :=
  Chunks.wholes WriteBuffer.second stream

@[simp] theorem Sent.wholes_nil : Sent.wholes [] = [] := rfl

theorem Sent.wholes_append_singleton
    (stream : Sent)
    (chunk : WriteBuffer × Bytes) :
    Sent.wholes (stream ++ [chunk]) =
      stream.wholes ++ if chunk.2 = chunk.1.second then [chunk.1] else [] :=
  Chunks.wholes_append_singleton stream chunk

/-- Every chunk begins a frame, and only the last one may be cut short. -/
def Sent.Tidy (stream : Sent) : Prop :=
  Chunks.Tidy WriteBuffer.second stream

theorem Sent.tidy_of_opening
    {stream : Sent}
    (opening : Line.Opening stream) :
    stream.Tidy := by
  rcases opening with rfl | ⟨req, accepted, rfl⟩
  · exact .nil
  · exact .singleton (List.take_prefix _ _)

/-- Accepted bytes go to the current connection. -/
theorem Exchange.extend_of_ne_nil
    (streams : List Sent)
    (buffer : WriteBuffer)
    {bytes : Bytes}
    (something : bytes ≠ []) :
    Exchange.extend streams buffer bytes =
      (streams.head?.getD [] ++ [(buffer, bytes)]) :: streams.tail := by
  unfold Exchange.extend
  split
  · exact absurd rfl something
  · rfl
  · rfl

/-- A write keeps the connection tidy, if nothing was accepted or if the last
frame was not cut short. -/
theorem Exchange.tidy_extend
    {streams : List Sent}
    (tidy : ∀ stream ∈ streams, stream.Tidy)
    (req : WriteBuffer)
    (accepted : Option Nat)
    (fits : streams.head?.any Sent.cutShort = true → req.taken accepted = []) :
    ∀ stream ∈ Exchange.extend streams req (req.taken accepted),
      stream.Tidy := by
  have begins : req.taken accepted <+: req.second := List.take_prefix _ _
  by_cases nothing : req.taken accepted = []
  · rw [nothing]
    exact tidy
  rw [Exchange.extend_of_ne_nil _ _ nothing]
  intro stream member
  rcases List.mem_cons.mp member with rfl | before
  · cases streams with
    | nil => exact .singleton begins
    | cons current earlier =>
        have uncut : current.cutShort = false := by
          by_contra cut
          exact nothing (fits (by simpa using cut))
        exact (tidy current List.mem_cons_self).append uncut begins
  · exact tidy stream (List.mem_of_mem_tail before)

namespace Line

open KafkaPartition

/-- The connections of the line are tidy. -/
def Tidy (line : Line) : Prop := ∀ stream ∈ line.exchange.streams, stream.Tidy

theorem Replaced.tidy
    {line after : Line}
    {wakes : Bool}
    (replaced : line.Replaced wakes after)
    (tidy : line.Tidy) :
    after.Tidy := by
  obtain ⟨opened, -, openings, rfl⟩ := replaced
  intro stream member
  rcases List.mem_append.mp member with new | old
  · exact Sent.tidy_of_opening (openings stream new)
  · exact tidy stream old

theorem Reaction.tidy
    {line after : Line}
    {consumer : Bool}
    {ec : Int}
    {writes : WriteOutcome}
    (reaction : line.Reaction consumer ec writes after)
    (tidy : line.Tidy)
    (fits : line.exchange.streams.head?.any Sent.cutShort = true →
      errorNeedsRequest ec = true → writes.acceptsNone = true) :
    after.Tidy := by
  cases reaction with
  | ignored _ => exact tidy
  | @asked req needs _ _ =>
      exact Exchange.tidy_extend tidy req _ fun cut =>
        WriteOutcome.taken_of_acceptsNone (fits cut needs) req
  | lost _ _ replaced => exact replaced.tidy tidy

end Line

namespace KafkaPartition

theorem Motion.tidy
    {p : KafkaPartition}
    {event : Event}
    {after : Line}
    (motion : Motion p event after)
    (keeps : KeepsFrames p (.event event))
    (tidy : p.line.Tidy) :
    after.Tidy := by
  have reacts {payload : Bytes} {surroundings : Surroundings}
      (isRead : event = .readReady (.payload payload) surroundings)
      (cut : p.line.exchange.streams.head?.any Sent.cutShort = true)
      (needs : errorNeedsRequest (responseError payload) = true) :
      surroundings.writes.acceptsNone = true := by
    subst isRead
    have silent := keeps cut
    simpa [writesBytes, needs] using silent
  cases motion with
  | @write outcome req rest front _ =>
      refine Exchange.tidy_extend tidy req _ fun cut => ?_
      apply WriteOutcome.taken_of_acceptsNone
      have silent := keeps cut
      simpa [writesBytes, front] using silent
  | reset _ _ replaced => exact replaced.tidy tidy
  | lost _ replaced => exact replaced.tidy tidy
  | moved _ _ replaced => exact replaced.tidy tidy
  | refused _ _ _ reaction _ => exact reaction.tidy tidy (reacts rfl)
  | fetched _ reaction => exact reaction.tidy tidy (reacts rfl)
  | answered _ _ reaction => exact reaction.tidy tidy (reacts rfl)
  | _ => exact tidy

theorem CallMotion.tidy
    {p : KafkaPartition}
    {call : Call}
    {after : Line}
    (motion : CallMotion p call after)
    (keeps : KeepsFrames p call)
    (tidy : p.line.Tidy) :
    after.Tidy := by
  cases motion with
  | event motion => exact motion.tidy keeps tidy
  | _ => exact tidy

theorem Unborn.tidy
    {p : KafkaPartition}
    (unborn : Unborn p) :
    p.line.Tidy := by
  intro stream member
  rw [unborn.line_eq] at member
  obtain rfl := List.mem_singleton.mp member
  exact .nil

end KafkaPartition

/-! ## Connections and the trace -/

/-- The frame that an effect has handed over whole, if any. -/
def Effect.wholeFrame? : Effect → Option WriteBuffer
  | .write buffer accepted =>
      if buffer.isWhole accepted then some buffer else none
  | _ => none

theorem Effect.wholeFrame?_eq (effect : Effect) :
    effect.wholeFrame? = none ∨ effect.wholeFrame? = effect.frame? := by
  cases effect with
  | write buffer accepted =>
      by_cases whole : buffer.isWhole accepted
      · exact .inr (if_pos whole)
      · exact .inl (if_neg whole)
  | _ => exact .inl rfl

theorem WriteBuffer.isWhole_iff
    {buffer : WriteBuffer}
    (nonempty : buffer.second ≠ [])
    (accepted : Option Nat) :
    buffer.isWhole accepted = true ↔ buffer.taken accepted = buffer.second := by
  cases accepted with
  | none => simpa [isWhole, taken] using nonempty.symm
  | some count => simp [isWhole, taken]

namespace Exchange

/-- The bytes of the connections, in the order in which they were opened. -/
def channels (exchange : Exchange) : List Bytes :=
  exchange.streams.reverse.map Sent.bytes

/-- The frames that were accepted whole, in the order of the connections. -/
def wholes (exchange : Exchange) : List WriteBuffer :=
  exchange.streams.reverse.flatMap Sent.wholes

/-- A channel only grows, and new ones are opened behind it. -/
theorem within_observe (exchange : Exchange) (effect : Effect) :
    Chunks.Within exchange.channels (exchange.observe effect).channels := by
  cases effect with
  | close fd =>
      simp only [observe, closed, channels, List.reverse_cons, List.map_append]
      exact .append _ _
  | write buffer accepted =>
      by_cases nothing : buffer.taken accepted = []
      · simp only [observe, sent, channels, nothing, extend]
        exact .refl _
      · simp only [observe, sent, channels, extend_of_ne_nil _ _ nothing]
        cases streams : exchange.streams with
        | nil => trivial
        | cons current earlier =>
            have longer : Sent.bytes (current ++ [(buffer, buffer.taken accepted)]) =
                current.bytes ++ buffer.taken accepted := by
              simp [Sent.bytes, Chunks.taken]
            simp only [List.head?_cons, Option.getD_some, List.tail_cons,
              List.reverse_cons, List.map_append, List.map_cons, List.map_nil,
              longer]
            exact .extend _ _ _
  | _ => exact .refl _

/-- An effect adds the frame that it hands over whole. -/
theorem wholes_observe
    (exchange : Exchange)
    {effect : Effect}
    (nonempty : ∀ buffer, effect.frame? = some buffer → buffer.second ≠ []) :
    (exchange.observe effect).wholes =
      exchange.wholes ++ effect.wholeFrame?.toList := by
  cases effect with
  | close fd =>
      simp [observe, closed, wholes, Sent.wholes, Chunks.wholes,
        Effect.wholeFrame?]
  | write buffer accepted =>
      have isWhole := WriteBuffer.isWhole_iff (nonempty buffer rfl) accepted
      by_cases nothing : buffer.taken accepted = []
      · have partial' : buffer.isWhole accepted = false := by
          rw [← Bool.not_eq_true, isWhole, nothing]
          exact (nonempty buffer rfl).symm
        simp [observe, sent, wholes, nothing, extend, Effect.wholeFrame?,
          partial']
      · have added : (Exchange.extend exchange.streams buffer
            (buffer.taken accepted)).reverse.flatMap Sent.wholes =
            exchange.streams.reverse.flatMap Sent.wholes ++
              if buffer.taken accepted = buffer.second then [buffer] else [] := by
          rw [extend_of_ne_nil _ _ nothing]
          cases exchange.streams with
          | nil =>
              simpa using Sent.wholes_append_singleton [] (buffer, _)
          | cons current earlier =>
              simp [Sent.wholes_append_singleton, List.flatMap_append,
                List.append_assoc]
        simp only [observe, sent, wholes, added, Effect.wholeFrame?, isWhole]
        split <;> rfl
  | _ => simp [observe, received, wholes, Effect.wholeFrame?]

/-- Whatever was accepted belongs to a frame that was handed over. -/
theorem mem_of_mem_observe
    {exchange : Exchange}
    {effect : Effect}
    {frames : List WriteBuffer}
    (known : ∀ stream ∈ exchange.streams, ∀ chunk ∈ stream, chunk.1 ∈ frames) :
    ∀ stream ∈ (exchange.observe effect).streams, ∀ chunk ∈ stream,
      chunk.1 ∈ frames ++ effect.frame?.toList := by
  have old (stream : Sent) (member : stream ∈ exchange.streams) :
      ∀ chunk ∈ stream, chunk.1 ∈ frames ++ effect.frame?.toList :=
    fun chunk inside => List.mem_append_left _ (known stream member chunk inside)
  cases effect with
  | close fd =>
      intro stream member
      rcases List.mem_cons.mp member with rfl | before
      · simp
      · exact old stream before
  | write buffer accepted =>
      by_cases nothing : buffer.taken accepted = []
      · simpa only [observe, sent, nothing, extend] using old
      · simp only [observe, sent, extend_of_ne_nil _ _ nothing]
        intro stream member
        rcases List.mem_cons.mp member with rfl | before
        · intro chunk inside
          rcases List.mem_append.mp inside with earlier | now
          · cases streams : exchange.streams with
            | nil => simp [streams] at earlier
            | cons current others =>
                refine old current (by simp [streams]) chunk ?_
                simpa [streams] using earlier
          · obtain rfl := List.mem_singleton.mp now
            simp [Effect.frame?]
        · exact old stream (List.mem_of_mem_tail before)
  | _ => exact old

end Exchange

namespace KafkaPartition

/-- The frames that the kernel has accepted whole. -/
def wholeFrames (p : KafkaPartition) : List WriteBuffer :=
  p.trace.filterMap Effect.wholeFrame?

/-- The connections carry what the trace says. -/
theorem foldl_observe_frames
    {effects : List Effect}
    (nonempty : ∀ buffer ∈ effects.filterMap Effect.frame?,
      buffer.second ≠ []) :
    (effects.foldl Exchange.observe {}).wholes =
        effects.filterMap Effect.wholeFrame? ∧
      ∀ stream ∈ (effects.foldl Exchange.observe {}).streams,
        ∀ chunk ∈ stream, chunk.1 ∈ effects.filterMap Effect.frame? := by
  induction effects using List.reverseRecOn with
  | nil => exact ⟨rfl, by simp⟩
  | append_singleton earlier effect inductionHypothesis =>
      rw [List.filterMap_append] at nonempty
      obtain ⟨wholes, known⟩ := inductionHypothesis
        fun buffer member => nonempty buffer (List.mem_append_left _ member)
      have last : ∀ buffer, effect.frame? = some buffer →
          buffer.second ≠ [] := fun buffer handed =>
        nonempty buffer (List.mem_append_right _ (by simp [handed]))
      have one (pick : Effect → Option WriteBuffer) :
          (earlier ++ [effect]).filterMap pick =
            earlier.filterMap pick ++ (pick effect).toList := by
        rw [List.filterMap_append]
        cases picked : pick effect <;> simp [picked]
      rw [List.foldl_append, List.foldl_cons, List.foldl_nil, one, one]
      exact ⟨by rw [Exchange.wholes_observe _ last, wholes],
        Exchange.mem_of_mem_observe known⟩

theorem wholeFrames_sublist (p : KafkaPartition) :
    p.wholeFrames.Sublist p.handedFrames := by
  unfold wholeFrames handedFrames
  induction p.trace with
  | nil => exact .slnil
  | cons effect effects inductionHypothesis =>
      rw [List.filterMap_cons, List.filterMap_cons]
      rcases effect.wholeFrame?_eq with none | same
      · rw [none]
        cases effect.frame? with
        | none => exact inductionHypothesis
        | some buffer => exact inductionHypothesis.cons buffer
      · rw [same]
        cases effect.frame? with
        | none => exact inductionHypothesis
        | some buffer => exact inductionHypothesis.cons_cons buffer

end KafkaPartition

namespace Broker

/-- The values for a partition that have arrived whole. -/
def arrivedValues
    (crc32 : Bytes → UInt32)
    (topic : Bytes)
    (partition : Int)
    (bytes : Bytes) : List Bytes :=
  (arrivedRequests crc32 bytes).flatMap fun arrival =>
    arrival.2.appended topic partition

/-- What has been appended stays when more bytes arrive. -/
theorem arrivedValues_prefix
    (crc32 : Bytes → UInt32)
    (topic : Bytes)
    (partition : Int)
    (bytes more : Bytes) :
    arrivedValues crc32 topic partition bytes <+:
      arrivedValues crc32 topic partition (bytes ++ more) := by
  have settles : (readRequest crc32).Settles := by
    rw [readRequest_eq_prefixed]
    exact prefixed_settles _ _ _ _
  have fewer : bytes.length + 1 ≤ (bytes ++ more).length + 1 := by simp
  obtain ⟨later, arrived⟩ := settles.arrived_prefix fewer bytes more
  unfold arrivedValues arrivedRequests
  rw [← arrived, List.flatMap_append]
  exact List.prefix_append _ _

theorem arrivedValues_nil
    (crc32 : Bytes → UInt32)
    (topic : Bytes)
    (partition : Int) :
    arrivedValues crc32 topic partition [] = [] := by
  rw [arrivedValues, arrivedRequests,
    (readRequest_starves_nil crc32).arrived List.prefix_rfl]
  rfl

end Broker

namespace KafkaPartition

variable {crc32 : Bytes → UInt32} {p : KafkaPartition}

theorem Reads.readable
    {buffer : WriteBuffer}
    (reads : Reads crc32 p buffer) :
    buffer.Readable crc32 p.config.clientId p.topic p.partition
      buffer.carried := by
  obtain ⟨request, readable⟩ := reads
  rwa [readable.carried]

/-- On a tidy connection the broker reads the frames that were accepted whole,
in their order and as far as they have arrived. -/
theorem arrivedRequests_stream
    {stream : Sent}
    {bytes : Bytes}
    (tidy : stream.Tidy)
    (reads : ∀ chunk ∈ stream, Reads crc32 p chunk.1)
    (beginning : bytes <+: stream.bytes) :
    ∃ front, front <+: stream.wholes ∧
      arrivedRequests crc32 bytes =
        front.map (fun buffer => (p.config.clientId, buffer.carried)) ∧
      (bytes = stream.bytes → front = stream.wholes) := by
  obtain ⟨part, taken, cut⟩ := tidy.taken_eq
  have readable (buffer : WriteBuffer) (member : buffer ∈ stream.map Prod.fst) :
      Reads crc32 p buffer := by
    obtain ⟨chunk, inside, rfl⟩ := List.mem_map.mp member
    exact reads chunk inside
  have takes : ∀ buffer ∈ stream.wholes, buffer.second ≠ [] ∧
      (readRequest crc32).Takes buffer.second
        (p.config.clientId, buffer.carried) ∧
      (readRequest crc32).Awaits buffer.second := by
    intro buffer member
    have inside : buffer ∈ stream.map Prod.fst :=
      (List.filter_sublist.map Prod.fst).subset member
    have found := (readable buffer inside).readable
    exact ⟨found.nonempty, found.read, readRequest_awaits found.read⟩
  have starves : (readRequest crc32).Starves part := by
    rcases cut with rfl | ⟨buffer, member, begins, short⟩
    · exact readRequest_starves_nil crc32
    · exact readRequest_awaits (readable buffer member).readable.read part begins
        short
  have inside : bytes <+: stream.wholes.flatMap WriteBuffer.second ++ part :=
    taken ▸ beginning
  obtain ⟨front, isFront, arrived, all⟩ := arrived_flatMap
    (fun buffer : WriteBuffer => (p.config.clientId, buffer.carried)) takes
    starves inside (Nat.lt_succ_self _)
  refine ⟨front, isFront, arrived, ?_⟩
  rintro rfl
  refine all ?_
  rw [Sent.bytes, taken]
  exact List.prefix_append _ _

/-- What a broker appends for readable frames is what they carry. -/
theorem flatMap_appended
    {frames : List WriteBuffer}
    (reads : ∀ buffer ∈ frames, Reads crc32 p buffer) :
    (frames.map fun buffer => (p.config.clientId, buffer.carried)).flatMap
        (fun arrival => arrival.2.appended p.topic p.partition) =
      frames.flatMap WriteBuffer.values := by
  rw [List.flatMap_map]
  exact List.flatMap_congr fun buffer member =>
    (reads buffer member).readable.appended

/-- What brokers append of tidy connections is in the order of the frames, and
is all that was accepted whole once everything has arrived. -/
theorem arrivedValues_streams
    {streams : List Sent}
    {received : List Bytes}
    (tidy : ∀ stream ∈ streams, stream.Tidy)
    (reads : ∀ stream ∈ streams, ∀ chunk ∈ stream, Reads crc32 p chunk.1)
    (within : Chunks.Within received (streams.map Sent.bytes)) :
    (received.flatMap (arrivedValues crc32 p.topic p.partition)).Sublist
        ((streams.flatMap Sent.wholes).flatMap WriteBuffer.values) ∧
      (received = streams.map Sent.bytes →
        received.flatMap (arrivedValues crc32 p.topic p.partition) =
          (streams.flatMap Sent.wholes).flatMap WriteBuffer.values) := by
  induction streams generalizing received with
  | nil =>
      cases received with
      | nil => exact ⟨.slnil, fun _ => rfl⟩
      | cons bytes received => exact within.elim
  | cons stream streams inductionHypothesis =>
      cases received with
      | nil => exact ⟨List.nil_sublist _, fun nothing => by cases nothing⟩
      | cons bytes received =>
          obtain ⟨begins, later⟩ := within
          obtain ⟨ordered, complete⟩ := inductionHypothesis
            (fun other member => tidy other (List.mem_cons_of_mem _ member))
            (fun other member => reads other (List.mem_cons_of_mem _ member))
            later
          obtain ⟨front, isFront, arrived, all⟩ := arrivedRequests_stream
            (tidy stream List.mem_cons_self) (reads stream List.mem_cons_self)
            begins
          have readable : ∀ buffer ∈ front, Reads crc32 p buffer := by
            intro buffer member
            have inside : buffer ∈ stream.map Prod.fst :=
              (List.filter_sublist.map Prod.fst).subset (isFront.subset member)
            obtain ⟨chunk, found, rfl⟩ := List.mem_map.mp inside
            exact reads stream List.mem_cons_self chunk found
          have appended : arrivedValues crc32 p.topic p.partition bytes =
              front.flatMap WriteBuffer.values := by
            rw [arrivedValues, arrived, flatMap_appended readable]
          rw [List.flatMap_cons, List.flatMap_cons, List.flatMap_append, appended]
          refine ⟨(isFront.sublist.flatMap _).append ordered, ?_⟩
          intro everything
          obtain ⟨sameBytes, sameLater⟩ := List.cons.inj everything
          rw [all sameBytes, complete sameLater]

/-! ## Whole lives -/

/-- The messages that a call puts on the queue. -/
def Call.messages : Call → List Bytes
  | .event occurred => occurred.messages
  | _ => []

/-- Every call but a refusal moves the messages as a queue does. -/
theorem perform_move
    {q : KafkaPartition}
    {call : Call}
    (returned : perform crc32 p call = .ok q)
    (unrefused : ∀ event, call = .event event → event.isProduceError = false) :
    ∃ output,
      q.handedValues = p.handedValues ++ output ∧
      Fifo.Move p.waitingValues call.messages output q.waitingValues := by
  have idle
      (handed : q.handedValues = p.handedValues)
      (waiting : q.waitingValues = p.waitingValues)
      (silent : call.messages = []) :
      ∃ output,
        q.handedValues = p.handedValues ++ output ∧
        Fifo.Move p.waitingValues call.messages output q.waitingValues := by
    refine ⟨[], by rw [handed, List.append_nil], ?_⟩
    rw [silent, waiting]
    exact .idle _
  cases call with
  | event event =>
      exact (step_transition returned).move (unrefused event rfl)
  | connect fd =>
      obtain rfl := Except.ok.inj returned
      refine idle ?_ rfl rfl
      simp [handedValues, handedFrames, connectLeader, record, registerSocket,
        List.filterMap_append, Effect.frame?]
  | offsetRequest =>
      obtain rfl := Except.ok.inj returned
      exact idle rfl rfl rfl
  | armTimer fd =>
      obtain ⟨_, -, rfl⟩ := perform_armTimer returned
      exact idle rfl rfl rfl
  | callbacks onReceivedData onProduceResponse onMsgQueued =>
      obtain rfl := Except.ok.inj returned
      exact idle rfl rfl rfl
  | startFetch eventFd timerFd =>
      have kept := startFetch_bookkeeping returned
      exact idle kept.handedValues kept.waitingValues rfl
  | startProduce eventFd queueFd timerFd =>
      have kept := startProduce_bookkeeping returned
      exact idle kept.handedValues kept.waitingValues rfl

/-- Nothing is written after a frame that was cut short, no produce request is
refused, and no queue outgrows a frame. -/
structure Careful (p : KafkaPartition) (call : Call) : Prop where
  keeps : KeepsFrames p call
  moderate : Moderate p call

/-- A partition whose connections can be read. -/
structure Legal (crc32 : Bytes → UInt32) (p : KafkaPartition) : Prop where
  legible : Legible crc32 p
  tidy : p.line.Tidy

theorem Unborn.legal
    (unborn : Unborn p)
    (fits : IdentityFits p)
    (inRange : OffsetInRange p)
    (crc32 : Bytes → UInt32) :
    Legal crc32 p :=
  ⟨unborn.legible fits inRange crc32, unborn.tidy⟩

theorem Unborn.noValues
    (unborn : Unborn p) :
    p.handedValues ++ p.waitingValues = [] := by
  obtain ⟨_, _, _, _, _, _, _, _, rfl⟩ := unborn
  rfl

theorem Legal.perform
    {q : KafkaPartition}
    {call : Call}
    (legal : Legal crc32 p)
    (careful : Careful p call)
    (performed : perform crc32 p call = .ok q) :
    Legal crc32 q :=
  ⟨legal.legible.perform careful.moderate performed,
    (perform_motion performed).tidy careful.keeps legal.tidy⟩

/-- What was handed over, what waits and what was accepted along a life. -/
theorem Legal.run
    {start : KafkaPartition}
    {history : List Call}
    (legal : Legal crc32 start)
    (run : Run (KafkaPartition.perform crc32) Careful start history p) :
    Legal crc32 p ∧ p.handedValues ++ p.waitingValues =
      start.handedValues ++ start.waitingValues ++
        history.flatMap Call.messages :=
  Fifo.conserved (Legal crc32) handedValues waitingValues Call.messages legal
    (fun _ _ _ held careful performed =>
      ⟨held.perform careful performed,
        perform_move performed careful.moderate.unrefused⟩) run

/-- The connections of a partition that can be read. -/
theorem Legal.streams
    (legal : Legal crc32 p) :
    (∀ stream ∈ p.exchange.streams.reverse, stream.Tidy) ∧
      (∀ stream ∈ p.exchange.streams.reverse, ∀ chunk ∈ stream,
        Reads crc32 p chunk.1) ∧
      p.exchange.wholes = p.wholeFrames := by
  have handedReads (buffer : WriteBuffer) (member : buffer ∈ p.handedFrames) :
      Reads crc32 p buffer :=
    legal.legible.frames buffer (List.mem_append_left _ member)
  obtain ⟨wholes, known⟩ := foldl_observe_frames
    fun buffer member => (handedReads buffer member).readable.nonempty
  refine ⟨?_, ?_, wholes⟩
  · intro stream member
    exact legal.tidy stream (List.mem_reverse.mp member)
  · intro stream member chunk inside
    exact handedReads chunk.1
      (known stream (List.mem_reverse.mp member) chunk inside)

/-- What brokers append is what was accepted whole, in its order and as far as
it has arrived. -/
theorem Legal.arrivedValues
    {received : List Bytes}
    (legal : Legal crc32 p)
    (within : Chunks.Within received p.exchange.channels) :
    (received.flatMap (Broker.arrivedValues crc32 p.topic p.partition)).Sublist
        (p.wholeFrames.flatMap WriteBuffer.values) ∧
      (received = p.exchange.channels →
        received.flatMap (Broker.arrivedValues crc32 p.topic p.partition) =
          p.wholeFrames.flatMap WriteBuffer.values) := by
  obtain ⟨tidy, reads, wholes⟩ := legal.streams
  rw [← wholes]
  exact arrivedValues_streams tidy reads within

/-- Whatever arrives of a connection is made of requests for the partition. -/
theorem Legal.arrivedRequests
    {received : List Bytes}
    (legal : Legal crc32 p)
    (within : Chunks.Within received p.exchange.channels) :
    ∀ bytes ∈ received, ∀ arrival ∈ Broker.arrivedRequests crc32 bytes,
      arrival.1 = p.config.clientId ∧
        arrival.2.Concerns p.topic p.partition := by
  obtain ⟨tidy, reads, -⟩ := legal.streams
  unfold Exchange.channels at within
  generalize p.exchange.streams.reverse = streams at tidy reads within
  induction streams generalizing received with
  | nil =>
      cases received with
      | nil => simp
      | cons bytes received => exact within.elim
  | cons stream streams inductionHypothesis =>
      cases received with
      | nil => simp
      | cons bytes received =>
          obtain ⟨begins, later⟩ := within
          intro other member
          rcases List.mem_cons.mp member with rfl | inside
          · obtain ⟨front, isFront, arrived, -⟩ := arrivedRequests_stream
              (tidy stream List.mem_cons_self) (reads stream List.mem_cons_self)
              begins
            intro arrival found
            rw [arrived] at found
            obtain ⟨buffer, inFront, rfl⟩ := List.mem_map.mp found
            have sent : buffer ∈ stream.map Prod.fst :=
              (List.filter_sublist.map Prod.fst).subset
                (isFront.subset inFront)
            obtain ⟨chunk, inStream, rfl⟩ := List.mem_map.mp sent
            exact ⟨rfl, (reads stream List.mem_cons_self chunk
              inStream).readable.concerns⟩
          · exact inductionHypothesis
              (fun other member => tidy other (List.mem_cons_of_mem _ member))
              (fun other member => reads other (List.mem_cons_of_mem _ member))
              later other inside

/-- Whenever and wherever the connections of a producer are cut, the broker that
reads them one after the other finds requests for the partition only, and it
appends accepted messages only, in the order in which they were accepted and
none of them twice. -/
theorem brokers_receive_in_order
    {start : KafkaPartition}
    {history : List Call}
    {received : List Bytes}
    (unborn : Unborn start)
    (fits : IdentityFits start)
    (inRange : OffsetInRange start)
    (run : Run (perform crc32) Careful start history p)
    (within : Chunks.Within received p.exchange.channels) :
    (∀ bytes ∈ received, ∀ arrival ∈ Broker.arrivedRequests crc32 bytes,
      arrival.1 = p.config.clientId ∧ arrival.2.Concerns p.topic p.partition) ∧
    (received.flatMap (Broker.arrivedValues crc32 p.topic p.partition)).Sublist
      (history.flatMap Call.messages) := by
  obtain ⟨legal, conserved⟩ := (unborn.legal fits inRange crc32).run run
  rw [unborn.noValues, List.nil_append] at conserved
  refine ⟨legal.arrivedRequests within, ?_⟩
  have ordered := (legal.arrivedValues within).1
  have handed : (p.wholeFrames.flatMap WriteBuffer.values).Sublist
      p.handedValues := p.wholeFrames_sublist.flatMap _
  rw [← conserved]
  exact (ordered.trans handed).trans (List.sublist_append_left _ _)

/-- Once everything that the kernel has accepted has arrived, the log lacks the
messages that wait and those of frames that the kernel did not accept whole, and
no others. -/
theorem brokers_lack_unwritten
    {start : KafkaPartition}
    {history : List Call}
    (unborn : Unborn start)
    (fits : IdentityFits start)
    (inRange : OffsetInRange start)
    (run : Run (perform crc32) Careful start history p) :
    p.exchange.channels.flatMap
        (Broker.arrivedValues crc32 p.topic p.partition) =
      p.wholeFrames.flatMap WriteBuffer.values ∧
    p.handedValues ++ p.waitingValues = history.flatMap Call.messages := by
  obtain ⟨legal, conserved⟩ := (unborn.legal fits inRange crc32).run run
  rw [unborn.noValues, List.nil_append] at conserved
  exact ⟨(legal.arrivedValues (.refl _)).2 rfl, conserved⟩

/-- The executable form of `Careful`. -/
def careful (p : KafkaPartition) (call : Call) : Bool :=
  decide (KeepsFrames p call) && moderate p call

theorem careful_sound
    {call : Call}
    (checked : careful p call = true) :
    Careful p call := by
  obtain ⟨keeps, isModerate⟩ := Bool.and_eq_true_iff.mp checked
  exact ⟨of_decide_eq_true keeps, moderate_sound isModerate⟩

/-- A producer whose first batch is cut short, and the connection with it, and
which then has another message to send. -/
def interruptedCalls : List Call :=
  cutCalls ++
    [.event (.readReady .closed { connect := some 10 }), .event (.produce [2]),
      .event .batchTimer, .event (.writeReady .written)]

theorem sampleUnborn_fits : IdentityFits (sampleUnborn .producer) := by
  refine ⟨?_, ?_, ?_, ?_, ?_, ?_, ?_, ?_⟩ <;> decide

/-- The first message is lost, and the second one arrives unless its own
connection is cut as well. -/
theorem brokers_receive_in_order_cut :
    ∃ p received, Run (perform Crc32.checksum) Careful (sampleUnborn .producer)
        interruptedCalls p ∧
      Chunks.Within received p.exchange.channels ∧
      received.map List.length = [91, 108] ∧
      (received.flatMap (Broker.arrivedValues Crc32.checksum p.topic
        p.partition)).Sublist [[1], [2]] := by
  obtain ⟨p, run, reached⟩ := exists_run_of_follow (perform Crc32.checksum)
    (fun p call => careful p call = true) (sampleUnborn .producer)
    interruptedCalls
    (fun p => Chunks.Within (p.exchange.channels.map fun bytes => bytes.take 108)
        p.exchange.channels ∧
      (p.exchange.channels.map fun bytes => bytes.take 108).map List.length =
        [91, 108])
    (by decide +kernel)
  obtain ⟨within, lengths⟩ := of_decide_eq_true reached
  have carefulRun := run.mono fun _ _ checked => careful_sound checked
  exact ⟨p, _, carefulRun, within, lengths,
    (brokers_receive_in_order (sampleUnborn_unborn .producer) sampleUnborn_fits
      ⟨by decide, by decide⟩ carefulRun within).2⟩

/-- The log lacks the message of the frame that was cut short. -/
theorem brokers_lack_unwritten_cut :
    ∃ p, Run (perform Crc32.checksum) Careful (sampleUnborn .producer)
        interruptedCalls p ∧
      p.wholeFrames.flatMap WriteBuffer.values = [[2]] ∧
      p.exchange.channels.flatMap (Broker.arrivedValues Crc32.checksum p.topic
        p.partition) = [[2]] ∧
      p.handedValues ++ p.waitingValues = [[1], [2]] := by
  obtain ⟨p, run, reached⟩ := exists_run_of_follow (perform Crc32.checksum)
    (fun p call => careful p call = true) (sampleUnborn .producer)
    interruptedCalls
    (fun p => p.wholeFrames.flatMap WriteBuffer.values == [[2]])
    (by decide +kernel)
  have carefulRun := run.mono fun _ _ checked => careful_sound checked
  have whole : p.wholeFrames.flatMap WriteBuffer.values = [[2]] := by
    simpa using reached
  obtain ⟨log, conserved⟩ := brokers_lack_unwritten
    (sampleUnborn_unborn .producer) sampleUnborn_fits ⟨by decide, by decide⟩
    carefulRun
  exact ⟨p, carefulRun, whole, log.trans whole, conserved⟩

end KafkaPartition
end AsyncKafka
