import AsyncKafka.Partition.Batches
import AsyncKafka.Partition.Line

/-!
# What one event does to the line

`Motion` lists what an event can do to the line of a partition, with the
conditions under which it does so, and `step_motion` says that the list is
complete.  It is finer than the list of moves where connections are concerned:
it tells which writes reach which connection, and when the fetch event is woken.
-/

namespace AsyncKafka

open Wire Execution

namespace KafkaPartition

/-- Whether a reset write is followed by a new connection. -/
def WriteOutcome.reconnects : WriteOutcome → Bool
  | .reset (some _) _ => true
  | _ => false

end KafkaPartition

namespace Line

open KafkaPartition

/-- The reaction to an error code: nothing, the write of a control frame, or
that write and the loss of the connection with it. -/
inductive Reaction
    (line : Line)
    (consumer : Bool)
    (ec : Int)
    (writes : WriteOutcome) : Line → Prop
  | ignored :
      errorNeedsRequest ec = false →
      Reaction line consumer ec writes line
  | asked
      {req : WriteBuffer} :
      errorNeedsRequest ec = true →
      writes.isReset = false →
      req.isControl = true →
      Reaction line consumer ec writes
        (sent { line with watched := true } req (writes.accepted req))
  | lost
      {after : Line} :
      errorNeedsRequest ec = true →
      writes.isReset = true →
      line.Replaced (consumer && writes.reconnects) after →
      Reaction line consumer ec writes after

/-- The connection is closed and none or an unused one takes its place. -/
theorem replaced_closed (line : Line) (wakes : Bool) :
    line.Replaced wakes
      { line with
        watched := true
        woken := line.woken || wakes
        exchange := line.exchange.closed } :=
  ⟨[[]], by simp, by simp [Opening], rfl⟩

/-- Replacing the connection again. -/
theorem Replaced.again
    {line middle after : Line}
    {first second : Bool}
    (before : line.Replaced first middle)
    (later : middle.Replaced second after) :
    line.Replaced (first || second) after := by
  obtain ⟨opened, -, openings, rfl⟩ := before
  obtain ⟨more, nonempty, moreOpenings, rfl⟩ := later
  refine ⟨more ++ opened, by simp [nonempty], ?_, by simp [Bool.or_assoc]⟩
  intro stream member
  rcases List.mem_append.mp member with inMore | inOpened
  · exact moreOpenings stream inMore
  · exact openings stream inOpened

/-- A wakeup after the connection was replaced. -/
theorem Replaced.wake
    {line after : Line}
    {wakes : Bool}
    (replaced : line.Replaced wakes after)
    (more : Bool) :
    line.Replaced (wakes || more) (after.wake more) := by
  obtain ⟨opened, nonempty, openings, rfl⟩ := replaced
  exact ⟨opened, nonempty, openings, by simp [Line.wake, Bool.or_assoc]⟩

/-- The interest in writing before the loss of a connection does not matter. -/
theorem Replaced.of_watched
    {line after : Line}
    {wakes : Bool}
    (replaced : Replaced { line with watched := true } wakes after) :
    line.Replaced wakes after := replaced

/-- The first write on a new connection. -/
theorem replaced_sent
    (line : Line)
    {req : WriteBuffer}
    (control : req.isControl = true)
    (accepted : Option Nat) :
    line.Replaced false
      { line with
        watched := true
        exchange := line.exchange.closed.sent req accepted } := by
  by_cases refused : req.taken accepted = []
  · refine ⟨[[]], by simp, by simp [Opening], ?_⟩
    rw [Exchange.sent_control _ control, refused]
    simp [Exchange.closed, Exchange.extend]
  · refine ⟨[[(req, req.taken accepted)]], by simp, ?_, ?_⟩
    · intro stream member
      exact .inr ⟨req, accepted, List.mem_singleton.mp member⟩
    · rw [Exchange.sent_control _ control]
      simp [Exchange.closed, Exchange.extend]

/-- A reaction leaves the pause, the deque and the requests in transit
alone. -/
theorem Reaction.keeps
    {line after : Line}
    {consumer : Bool}
    {ec : Int}
    {writes : WriteOutcome}
    (reaction : line.Reaction consumer ec writes after) :
    after.attached = line.attached ∧ after.born = line.born ∧
      after.paused = line.paused ∧ after.queue = line.queue ∧
      after.transit = line.transit := by
  cases reaction with
  | ignored _ => exact ⟨rfl, rfl, rfl, rfl, rfl⟩
  | asked _ _ _ => exact ⟨rfl, rfl, rfl, rfl, rfl⟩
  | lost _ _ replaced =>
      obtain ⟨_, -, -, rfl⟩ := replaced
      exact ⟨rfl, rfl, rfl, rfl, rfl⟩

/-- A control frame that is put in front and taken off again. -/
theorem popped_control
    (line : Line)
    {req : WriteBuffer}
    (control : req.isControl = true) :
    popped { line with queue := req :: line.queue, watched := true } req
        line.queue =
      { line with watched := true } := by
  simp [popped, WriteBuffer.isProduce_of_isControl control]

end Line

namespace KafkaPartition

theorem ConnectionOnly.isConsumer
    {p q : KafkaPartition}
    {effects : List Effect}
    (only : ConnectionOnly p effects q) :
    q.isConsumer = p.isConsumer := by
  obtain ⟨⟨_, _, _, _, rfl⟩, -⟩ := only
  rfl

theorem failover_line
    {p q : KafkaPartition}
    {connect : Option Int}
    {connected : Bool}
    (returned : p.failover connect = .ok (q, connected)) :
    connected = connect.isSome ∧
      q.line =
        { p.line with
          watched := true, exchange := p.line.exchange.closed } := by
  unfold failover at returned
  split at returned
  · cases returned
  · rename_i leader _
    have closed := line_closeSocket p leader
    split at returned
    · obtain ⟨rfl, rfl⟩ := Prod.mk.inj (Except.ok.inj returned)
      refine ⟨rfl, ?_⟩
      rw [line_record, closed]
      rfl
    · obtain ⟨rfl, rfl⟩ := Prod.mk.inj (Except.ok.inj returned)
      refine ⟨rfl, ?_⟩
      rw [line_connectLeader, closed]

/-- After the connection was closed and another one opened, the metadata frame
is written, which may lose the connection again, and the fetch event is
woken. -/
theorem reconnected_line
    {line : Line}
    {reconnected written q : KafkaPartition}
    {writes : WriteOutcome}
    (closed : reconnected.line =
      { line with watched := true, exchange := line.exchange.closed })
    (wrote : reconnected.createMetadataRequest.onWriteReady writes = .ok written)
    (first :
      writes.isReset = false ∧
          written.line = Line.sent { reconnected.line with watched := true }
            reconnected.metadataBuffer
            (writes.accepted reconnected.metadataBuffer) ∨
        writes.isReset = true ∧
          Line.Replaced { reconnected.line with watched := true }
            (reconnected.isConsumer && writes.reconnects) written.line)
    (woken : written.wakeupFetchOfConsumer = .ok q) :
    line.Replaced reconnected.isConsumer q.line := by
  have control := metadataBuffer_isControl reconnected
  have sameKind : written.isConsumer = reconnected.isConsumer := by
    obtain ⟨effects, only, -⟩ := onWriteReady_control control
      (createMetadataRequest_only reconnected) wrote
    exact only.isConsumer
  have dropped := Line.replaced_closed line false
  rw [Bool.or_false, ← closed] at dropped
  have replaced : ∃ wakes,
      line.Replaced (reconnected.isConsumer && wakes) written.line := by
    rcases first with ⟨-, sent⟩ | ⟨-, again⟩
    · refine ⟨false, ?_⟩
      rw [sent, closed, Bool.and_false]
      exact Line.replaced_sent line control _
    · exact ⟨writes.reconnects, by simpa using dropped.again again.of_watched⟩
  obtain ⟨wakes, replaced⟩ := replaced
  have whole := replaced.wake reconnected.isConsumer
  rw [line_wakeupFetchOfConsumer woken, sameKind]
  have flag : (reconnected.isConsumer && wakes || reconnected.isConsumer) =
      reconnected.isConsumer := by
    cases reconnected.isConsumer <;> simp
  rwa [flag] at whole

/-- Writing the front frame: it is handed over on the current connection, and
a reset replaces the connection after that. -/
theorem onWriteReady_line
    {p q : KafkaPartition}
    {req : WriteBuffer}
    {rest : List WriteBuffer}
    {outcome : WriteOutcome}
    (front : p.writeBuffers = req :: rest)
    (returned : p.onWriteReady outcome = .ok q) :
    outcome.isReset = false ∧
        q.line = (p.line.popped req rest).sent req (outcome.accepted req) ∨
      outcome.isReset = true ∧
        (p.line.popped req rest).Replaced (p.isConsumer && outcome.reconnects)
          q.line := by
  induction outcome generalizing p q req rest with
  | written | short | failed =>
      rw [onWriteReady_unreset front rfl] at returned
      obtain rfl := Except.ok.inj returned
      exact .inl ⟨rfl, line_popWriteBuffer p req rest _⟩
  | reset connect next inductionHypothesis =>
      right
      refine ⟨rfl, ?_⟩
      unfold onWriteReady at returned
      simp only [front] at returned
      obtain ⟨⟨reconnected, connected⟩, failed, continued⟩ :=
        bind_eq_ok.mp returned
      obtain ⟨rfl, closed⟩ := failover_line failed
      have sameKind : reconnected.isConsumer = p.isConsumer := by
        obtain ⟨effects, failedOver⟩ := failover_spec failed
        exact failedOver.isConsumer
      rw [line_popWriteBuffer, Line.sent, Exchange.sent_none] at closed
      cases connect with
      | none =>
          obtain rfl := Except.ok.inj continued
          have dropped := Line.replaced_closed (p.line.popped req rest) false
          rw [Bool.or_false, ← closed] at dropped
          simpa [WriteOutcome.reconnects] using dropped
      | some fd =>
          obtain ⟨written, wrote, woken⟩ := bind_eq_ok.mp continued
          -- The recursive call finds the metadata frame just put in front.
          have first := inductionHypothesis
            (show reconnected.createMetadataRequest.writeBuffers =
              reconnected.metadataBuffer :: reconnected.line.queue from rfl) wrote
          rw [line_createMetadataRequest,
            Line.popped_control _ (metadataBuffer_isControl reconnected)] at first
          have replaced := reconnected_line closed wrote first woken
          rw [sameKind] at replaced
          simpa [WriteOutcome.reconnects] using replaced

/-- Putting a control frame in front and writing it. -/
theorem onWriteReady_control_line
    {p pushed q : KafkaPartition}
    {req : WriteBuffer}
    {outcome : WriteOutcome}
    (control : req.isControl = true)
    (front : pushed.writeBuffers = req :: p.writeBuffers)
    (pushedLine : pushed.line =
      { p.line with queue := req :: p.line.queue, watched := true })
    (sameKind : pushed.isConsumer = p.isConsumer)
    (returned : pushed.onWriteReady outcome = .ok q) :
    outcome.isReset = false ∧
        q.line = Line.sent { p.line with watched := true } req
          (outcome.accepted req) ∨
      outcome.isReset = true ∧
        p.line.Replaced (p.isConsumer && outcome.reconnects) q.line := by
  have written := onWriteReady_line front returned
  rw [pushedLine, show p.writeBuffers = p.line.queue from rfl,
    Line.popped_control _ control, sameKind] at written
  exact written

/-- The reaction to an error code. -/
theorem handleKafkaError_line
    {p q : KafkaPartition}
    {ec : Int}
    {writes : WriteOutcome}
    (returned : p.handleKafkaError ec writes = .ok q) :
    p.line.Reaction p.isConsumer ec writes q.line := by
  unfold handleKafkaError at returned
  split at returned
  · rename_i code
    have needs : errorNeedsRequest ec = true := by
      simp [errorNeedsRequest, code]
    rcases onWriteReady_control_line (offsetBuffer_isControl p) rfl
      (line_createOffsetRequest p) rfl returned with ⟨kept, sent⟩ | ⟨reset, lost⟩
    · rw [sent]
      exact .asked needs kept (offsetBuffer_isControl p)
    · exact .lost needs reset lost
  · rename_i notOffset
    split at returned
    · rename_i code
      have needs : errorNeedsRequest ec = true := by
        rcases code with code | code <;> simp [errorNeedsRequest, code]
      rcases onWriteReady_control_line (metadataBuffer_isControl p) rfl
        (line_createMetadataRequest p) rfl returned with
        ⟨kept, sent⟩ | ⟨reset, lost⟩
      · rw [sent]
        exact .asked needs kept (metadataBuffer_isControl p)
      · exact .lost needs reset lost
    · rename_i notLeader
      obtain rfl := Except.ok.inj returned
      apply Line.Reaction.ignored
      simp only [not_or] at notLeader
      simp [errorNeedsRequest, notOffset, notLeader.1, notLeader.2]

theorem handleErrorCode_line
    {p q : KafkaPartition}
    {ec : Int}
    {writes : WriteOutcome}
    (returned : p.handleErrorCode ec writes = .ok q) :
    p.line.Reaction p.isConsumer ec writes q.line := by
  unfold handleErrorCode at returned
  split at returned
  · exact handleKafkaError_line returned
  · rename_i fine
    obtain rfl := Except.ok.inj returned
    obtain rfl : ec = 0 := by simpa using fine
    exact .ignored rfl

/-- A lost connection is replaced. -/
theorem readError_line
    {p q : KafkaPartition}
    {surroundings : Surroundings}
    (returned : p.readError surroundings = .ok q) :
    p.line.Replaced (p.isConsumer && surroundings.connect.isSome) q.line := by
  obtain ⟨⟨reconnected, connected⟩, failed, continued⟩ := bind_eq_ok.mp returned
  obtain ⟨rfl, closed⟩ := failover_line failed
  have sameKind : reconnected.isConsumer = p.isConsumer := by
    obtain ⟨effects, failedOver⟩ := failover_spec failed
    exact failedOver.isConsumer
  cases connect : surroundings.connect with
  | none =>
      rw [connect] at continued
      obtain rfl := Except.ok.inj continued
      have dropped := Line.replaced_closed p.line false
      rw [Bool.or_false, ← closed] at dropped
      simpa using dropped
  | some fd =>
      rw [connect] at continued
      obtain ⟨written, wrote, woken⟩ := bind_eq_ok.mp continued
      have first := onWriteReady_control_line
        (metadataBuffer_isControl reconnected) rfl
        (line_createMetadataRequest reconnected) rfl wrote
      have replaced := reconnected_line closed wrote first woken
      rw [sameKind] at replaced
      simpa using replaced

/-! ## The list of motions -/

/-- What an event does to the line. -/
inductive Motion (p : KafkaPartition) : Event → Line → Prop
  /-- Nothing that the line shows. -/
  | still
      {event : Event} :
      Motion p event p.line
  | pause : Motion p .pauseFetch { p.line with paused := true }
  | resume :
      p.fetchPaused = true →
      Motion p .resumeFetch { p.line with paused := false, woken := true }
  /-- The message queue is drained into produce frames. -/
  | drain
      {event : Event}
      {frames : List WriteBuffer} :
      event = .produceEvent ∨ event = .batchTimer →
      (∀ frame ∈ frames, frame.isFetch = false) →
      Motion p event
        { p.line with queue := p.line.queue ++ frames, watched := true }
  | metadata
      {req : WriteBuffer} :
      req.isControl = true →
      Motion p .metadataTimer
        { p.line with queue := req :: p.line.queue, watched := true }
  /-- A wakeup is taken while fetching is paused. -/
  | swallow :
      p.line.woken = true →
      p.fetchPaused = true →
      Motion p .fetchEvent { p.line with woken := false }
  /-- A wakeup turns into a fetch request. -/
  | fetch
      {req : WriteBuffer} :
      p.line.woken = true →
      p.fetchPaused = false →
      req.isFetch = true →
      Motion p .fetchEvent
        { p.line with
          woken := false, queue := p.line.queue ++ [req], watched := true }
  /-- There is nothing to write. -/
  | idle
      {outcome : WriteOutcome}
      {watched : Bool} :
      p.writeBuffers = [] →
      Motion p (.writeReady outcome) { p.line with watched }
  /-- The front frame is handed to the kernel. -/
  | write
      {outcome : WriteOutcome}
      {req : WriteBuffer}
      {rest : List WriteBuffer} :
      p.writeBuffers = req :: rest →
      outcome.isReset = false →
      Motion p (.writeReady outcome)
        ((p.line.popped req rest).sent req (outcome.accepted req))
  /-- The write of the front frame is reset. -/
  | reset
      {outcome : WriteOutcome}
      {req : WriteBuffer}
      {rest : List WriteBuffer}
      {after : Line} :
      p.writeBuffers = req :: rest →
      outcome.isReset = true →
      (p.line.popped req rest).Replaced (p.isConsumer && outcome.reconnects)
        after →
      Motion p (.writeReady outcome) after
  /-- The connection is lost in reading. -/
  | lost
      {received : ReadOutcome}
      {surroundings : Surroundings}
      {after : Line} :
      received = .closed ∨ received = .reset →
      p.line.Replaced (p.isConsumer && surroundings.connect.isSome) after →
      Motion p (.readReady received surroundings) after
  /-- The leader has moved. -/
  | moved
      {payload : Bytes}
      {surroundings : Surroundings}
      {after : Line} :
      correlationId payload = apiKeyMetadataRequest →
      p.leaderMoves payload surroundings = true →
      (p.line.received payload).Replaced p.isConsumer after →
      Motion p (.readReady (.payload payload) surroundings) after
  /-- A produce request has succeeded. -/
  | produced
      {payload : Bytes}
      {surroundings : Surroundings} :
      correlationId payload = apiKeyProduceRequest →
      0 < p.line.transit →
      Motion p (.readReady (.payload payload) surroundings)
        { p.line.received payload with transit := p.line.transit - 1 }
  /-- A produce request was refused, and something is put back. -/
  | refused
      {payload : Bytes}
      {surroundings : Surroundings}
      {middle : Line}
      {req : WriteBuffer} :
      correlationId payload = apiKeyProduceRequest →
      responseError payload ≠ 0 →
      0 < p.line.transit →
      (p.line.received payload).Reaction p.isConsumer (responseError payload)
        surroundings.writes middle →
      req.isFetch = false →
      Motion p (.readReady (.payload payload) surroundings)
        { middle with
          queue := middle.queue ++ [req], transit := middle.transit - 1 }
  /-- A fetch response wakes the fetch event in any case. -/
  | fetched
      {payload : Bytes}
      {surroundings : Surroundings}
      {middle : Line} :
      correlationId payload = apiKeyFetchRequest →
      (p.line.received payload).Reaction p.isConsumer (responseError payload)
        surroundings.writes middle →
      Motion p (.readReady (.payload payload) surroundings)
        (middle.wake p.isConsumer)
  /-- Any other response. -/
  | answered
      {payload : Bytes}
      {surroundings : Surroundings}
      {middle : Line} :
      correlationId payload ≠ apiKeyProduceRequest →
      correlationId payload ≠ apiKeyFetchRequest →
      (p.line.received payload).Reaction p.isConsumer (responseError payload)
        surroundings.writes middle →
      Motion p (.readReady (.payload payload) surroundings) middle

/-- No event attaches the reactor or initialises the fetch event. -/
theorem Motion.keeps
    {p : KafkaPartition}
    {event : Event}
    {after : Line}
    (motion : Motion p event after) :
    after.attached = p.line.attached ∧ after.born = p.line.born := by
  cases motion with
  | reset _ _ replaced | lost _ replaced | moved _ _ replaced =>
      obtain ⟨_, -, -, rfl⟩ := replaced
      exact ⟨rfl, rfl⟩
  | refused _ _ _ reaction _ | fetched _ reaction | answered _ _ reaction =>
      obtain ⟨attached, born, -, -, -⟩ := reaction.keeps
      exact ⟨attached, born⟩
  | _ => exact ⟨rfl, rfl⟩

/-! ## Completeness of the list -/

theorem line_record_read (p : KafkaPartition) (payload : Bytes) :
    (p.record (.read payload)).line = p.line.received payload :=
  line_record p _

theorem handleProduceResponse_motion
    {p q : KafkaPartition}
    {payload : Bytes}
    {surroundings : Surroundings}
    (produce : correlationId payload = apiKeyProduceRequest)
    (returned : (p.record (.read payload)).handleProduceResponse payload
      surroundings = .ok q) :
    Motion p (.readReady (.payload payload) surroundings) q.line := by
  obtain ⟨⟨response, ec⟩, readOk, -⟩ := bind_eq_ok.mp returned
  have code : responseError payload = ec := by
    simp [responseError, produce, readOk]
  by_cases fine : ec = 0
  · subst fine
    obtain ⟨req, rest, effects, front, result, kinds⟩ :=
      handleProduceResponse_success readOk returned
    have line : q.line =
        { p.line.received payload with transit := p.line.transit - 1 } := by
      have transit : p.line.transit - 1 = rest.length := by
        change p.inTransitProduceRequest.length - 1 = rest.length
        rw [show p.inTransitProduceRequest = req :: rest from front]
        rfl
      rw [result, transit, ← line_record_read]
      rcases kinds with rfl | ⟨offset, rfl⟩ <;>
        simp [KafkaPartition.line, exchange, List.foldl_append, Exchange.observe]
    rw [line]
    apply Motion.produced produce
    change 0 < p.inTransitProduceRequest.length
    rw [show p.inTransitProduceRequest = req :: rest from front]
    exact Nat.succ_pos _
  · unfold handleProduceResponse at returned
    rw [readOk, ok_bind] at returned
    simp only [fine, ne_eq, not_false_eq_true, if_true] at returned
    obtain ⟨middle, reacted, requeued⟩ := bind_eq_ok.mp returned
    have reaction := handleKafkaError_line reacted
    rw [line_record_read, ← code] at reaction
    unfold returnRequest at requeued
    split at requeued
    · cases requeued
    · rename_i req rest front
      obtain rfl := Except.ok.inj requeued
      have nonempty : 0 < p.line.transit := by
        rw [← show middle.line.transit = p.line.transit from
          reaction.keeps.2.2.2.2]
        change 0 < middle.inTransitProduceRequest.length
        rw [front]
        exact Nat.succ_pos _
      have refused : Motion p (.readReady (.payload payload) surroundings)
          { middle.line with
            queue := middle.line.queue ++
              [{ first := apiKeyProduceRequest, second := cStr req,
                 request := none }]
            transit := middle.line.transit - 1 } :=
        .refused produce (by rwa [code]) nonempty reaction rfl
      have transit : middle.line.transit - 1 = rest.length := by
        change middle.inTransitProduceRequest.length - 1 = rest.length
        rw [front]
        rfl
      rw [transit] at refused
      exact refused

theorem handleFetchResponse_motion
    {p q : KafkaPartition}
    {payload : Bytes}
    {surroundings : Surroundings}
    (fetch : correlationId payload = apiKeyFetchRequest)
    (returned : (p.record (.read payload)).handleFetchResponse payload
      surroundings = .ok q) :
    Motion p (.readReady (.payload payload) surroundings) q.line := by
  obtain ⟨⟨response, ec⟩, readOk, continued⟩ := bind_eq_ok.mp returned
  have code : responseError payload = ec := by
    simp [responseError, fetch, readOk, apiKeyFetchRequest, apiKeyProduceRequest]
  by_cases fine : ec = 0
  · simp only [fine, ne_eq, not_true_eq_false, if_false] at continued
    have sameKind :
        ((p.record (.read payload)).deliver response.messages).isConsumer =
          p.isConsumer := by
      have same := deliver_identity (p.record (.read payload)) response.messages
      exact congrArg (fun kind => kind == KafkaPartitionType.consumer)
        (congrArg Identity.partitionType same)
    rw [line_wakeupFetchOfConsumer continued, line_deliver, line_record_read,
      sameKind]
    exact .fetched fetch (.ignored (by rw [code, fine]; rfl))
  · simp only [fine, ne_eq, not_false_eq_true, if_true] at continued
    obtain ⟨middle, reacted, woken⟩ := bind_eq_ok.mp continued
    have reaction := handleKafkaError_line reacted
    rw [line_record_read, ← code] at reaction
    have sameKind : middle.isConsumer = p.isConsumer := by
      obtain ⟨effects, only, -⟩ := handleKafkaError_spec reacted
      exact only.isConsumer
    rw [line_wakeupFetchOfConsumer woken, sameKind]
    exact .fetched fetch reaction

theorem handleMetadataResponse_motion
    {p q : KafkaPartition}
    {payload : Bytes}
    {surroundings : Surroundings}
    (metadata : correlationId payload = apiKeyMetadataRequest)
    (returned : (p.record (.read payload)).handleMetadataResponse payload
      surroundings = .ok q) :
    Motion p (.readReady (.payload payload) surroundings) q.line := by
  have code : responseError payload = 0 := by
    simp [responseError, metadata, apiKeyMetadataRequest, apiKeyProduceRequest,
      apiKeyFetchRequest, apiKeyOffsetRequest]
  obtain ⟨-, rfl⟩ | ⟨moves, leader, woken⟩ :=
    handleMetadataResponse_cases returned
  · rw [line_record_read]
    exact .answered (by rw [metadata]; decide) (by rw [metadata]; decide)
      (.ignored (by rw [code]; rfl))
  · have closed := line_closeSocket (p.record (.read payload)) leader
    have replaced := Line.replaced_closed (p.line.received payload) p.isConsumer
    refine .moved metadata moves ?_
    unfold moveTo at woken
    split at woken <;> rw [line_wakeupFetchOfConsumer woken]
    · rw [line_record, closed, line_record_read]
      exact replaced
    · rw [line_connectLeader, closed, line_record_read]
      exact replaced

theorem handleOffsetResponse_motion
    {p q : KafkaPartition}
    {payload : Bytes}
    {surroundings : Surroundings}
    (offset : correlationId payload = apiKeyOffsetRequest)
    (returned : (p.record (.read payload)).handleOffsetResponse payload
      surroundings = .ok q) :
    Motion p (.readReady (.payload payload) surroundings) q.line := by
  obtain ⟨⟨response, ec⟩, readOk, continued⟩ := bind_eq_ok.mp returned
  obtain ⟨middle, reacted, finished⟩ := bind_eq_ok.mp continued
  have code : responseError payload = ec := by
    simp [responseError, offset, readOk, apiKeyOffsetRequest,
      apiKeyProduceRequest, apiKeyFetchRequest]
  have reaction := handleErrorCode_line reacted
  rw [line_record_read, ← code] at reaction
  have sameLine : q.line = middle.line := by
    obtain rfl := Except.ok.inj finished
    unfold followOffset
    split
    · rfl
    · split
      · rfl
      · exact line_resetOffset _ _
  rw [sameLine]
  exact .answered (by rw [offset]; decide) (by rw [offset]; decide) reaction

theorem onReadReady_motion
    {p q : KafkaPartition}
    {received : ReadOutcome}
    {surroundings : Surroundings}
    (returned : p.onReadReady received surroundings = .ok q) :
    Motion p (.readReady received surroundings) q.line := by
  cases received with
  | payload payload =>
      simp only [onReadReady] at returned
      split at returned
      · cases returned
      split at returned
      · cases returned
      unfold dispatchResponse at returned
      split at returned
      · rename_i produce
        exact handleProduceResponse_motion produce returned
      split at returned
      · rename_i fetch
        exact handleFetchResponse_motion fetch returned
      split at returned
      · rename_i metadata
        exact handleMetadataResponse_motion metadata returned
      split at returned
      · rename_i offset
        exact handleOffsetResponse_motion offset returned
      · rename_i notProduce notFetch notMetadata notOffset
        obtain rfl := Except.ok.inj returned
        rw [line_record_read]
        refine .answered notProduce notFetch (.ignored ?_)
        simp [responseError, notProduce, notFetch, notOffset, errorNeedsRequest,
          errorOffsetOutOfRange, errorLeaderNotAvailable,
          errorNotLeaderForPartition]
  | closed => exact .lost (.inl rfl) (readError_line returned)
  | reset => exact .lost (.inr rfl) (readError_line returned)
  | failed =>
      obtain rfl := Except.ok.inj returned
      exact .still

theorem onWriteReady_motion
    {p q : KafkaPartition}
    {outcome : WriteOutcome}
    (returned : p.onWriteReady outcome = .ok q) :
    Motion p (.writeReady outcome) q.line := by
  cases front : p.writeBuffers with
  | nil =>
      unfold onWriteReady at returned
      rw [front] at returned
      obtain rfl := Except.ok.inj returned
      obtain ⟨watched, line⟩ := line_registerSocket_read p
      rw [line]
      exact .idle front
  | cons req rest =>
      rcases onWriteReady_line front returned with ⟨kept, line⟩ | ⟨reset, lost⟩
      · rw [line]
        exact .write front kept
      · exact .reset front reset lost

/-- Accepting messages does not concern the line. -/
theorem closeBatch_line
    {p q : KafkaPartition}
    (returned : p.closeBatch = .ok q) :
    q.line = p.line := by
  unfold closeBatch at returned
  split at returned
  · obtain ⟨produceEvent, -, finished⟩ := bind_eq_ok.mp returned
    obtain rfl := Except.ok.inj finished
    rfl
  · rw [Except.ok.inj returned]

theorem enqueue_line
    {p q : KafkaPartition}
    {msg : Bytes}
    (returned : p.enqueue msg = .ok q) :
    q.line = p.line := by
  obtain ⟨closed, batched, finished⟩ := bind_eq_ok.mp returned
  obtain rfl := Except.ok.inj finished
  have sameLine := closeBatch_line batched
  exact sameLine

theorem foldlM_enqueue_line
    {p q : KafkaPartition}
    {msgs : List Bytes}
    (returned : msgs.foldlM enqueue p = .ok q) :
    q.line = p.line := by
  induction msgs generalizing p with
  | nil => rw [← Except.ok.inj returned]
  | cons msg msgs inductionHypothesis =>
      rw [List.foldlM_cons] at returned
      obtain ⟨queued, first, later⟩ := bind_eq_ok.mp returned
      exact (inductionHypothesis later).trans (enqueue_line first)

theorem wakeupProduceMsgQ_line
    {p q : KafkaPartition}
    (returned : p.wakeupProduceMsgQ = .ok q) :
    q.line = p.line := by
  obtain ⟨produceMsgQEvent, -, finished⟩ := bind_eq_ok.mp returned
  obtain rfl := Except.ok.inj finished
  rfl

theorem produceAll_line
    {p q : KafkaPartition}
    {msgs : List Bytes}
    {code : Int}
    (returned : p.produceAll msgs = .ok (code, q)) :
    q.line = p.line := by
  rcases produceAll_cases returned with
    ⟨-, rfl⟩ | ⟨-, queued, accepted, notified⟩
  · rfl
  · exact (wakeupProduceMsgQ_line notified).trans (foldlM_enqueue_line accepted)

/-- The frames that drain the message queue are no fetch requests. -/
theorem createProduceRequest_motion
    (crc32 : Bytes → UInt32)
    (p : KafkaPartition)
    (produceEvent : WakeupEventSource)
    {event : Event}
    (drains : event = .produceEvent ∨ event = .batchTimer) :
    Motion p event ({ p with produceEvent }.createProduceRequest crc32).line := by
  rw [createProduceRequest, line_registerSocket]
  refine .drain drains ?_
  intro frame member
  obtain ⟨request, -, rfl⟩ := List.mem_map.mp member
  rfl

/-- The dispatch of the fetch event. -/
theorem fetchEvent_motion
    {crc32 : Bytes → UInt32}
    {p q : KafkaPartition}
    (returned : step crc32 p .fetchEvent = .ok q) :
    Motion p .fetchEvent q.line := by
  simp only [step, WakeupEventSource.handleEvent_eq] at returned
  by_cases idle : p.fetchEvent.pending = 0
  · rw [if_pos idle] at returned
    obtain rfl := Except.ok.inj returned
    exact .still
  · rw [if_neg idle] at returned
    obtain rfl := Except.ok.inj returned
    have woken : p.line.woken = true := bne_iff_ne.mpr idle
    have drained := WakeupEventSource.pending_setCounter
      (WakeupEventSource.isOpen_of_pending (Nat.pos_of_ne_zero idle)) 0
    have line : KafkaPartition.line
        { p with fetchEvent := p.fetchEvent.setCounter 0 } =
          { p.line with woken := false } := by
      simp [KafkaPartition.line, drained, exchange,
        WakeupEventSource.isOpen_setCounter]
    unfold createFetchRequest
    split
    · rename_i paused
      rw [line]
      exact .swallow woken paused
    · rename_i unpaused
      rw [line_registerSocket]
      have sameLine : KafkaPartition.line
          { p with
            fetchEvent := p.fetchEvent.setCounter 0
            writeBuffers := p.writeBuffers ++
              [fetchBuffer
                { p with fetchEvent := p.fetchEvent.setCounter 0 }] } =
          { p.line with
            woken := false, queue := p.line.queue ++ [p.fetchBuffer] } :=
        congrArg (fun line : Line =>
          { line with queue := p.writeBuffers ++ [p.fetchBuffer] }) line
      rw [sameLine]
      exact .fetch woken (by simpa using unpaused) rfl

/-- Every step of a partition moves the line in one of these ways. -/
theorem step_motion
    {crc32 : Bytes → UInt32}
    {p q : KafkaPartition}
    {event : Event}
    (returned : step crc32 p event = .ok q) :
    Motion p event q.line := by
  cases event with
  | produce msg =>
      obtain ⟨queued, accepted, woken⟩ := bind_eq_ok.mp returned
      rw [wakeupProduceMsgQ_line woken, enqueue_line accepted]
      exact .still
  | produceAll msgs =>
      obtain ⟨code, accepted⟩ := step_produceAll returned
      rw [produceAll_line accepted]
      exact .still
  | pauseFetch =>
      obtain rfl := Except.ok.inj returned
      exact .pause
  | resumeFetch =>
      simp only [step, resumeFetch] at returned
      split at returned
      · rename_i paused
        rw [line_wakeupFetch returned]
        exact .resume paused
      · rw [← Except.ok.inj returned]
        exact .still
  | produceEvent =>
      simp only [step] at returned
      split at returned <;> obtain rfl := Except.ok.inj returned
      · exact .still
      · exact createProduceRequest_motion crc32 p _ (.inl rfl)
  | produceMsgQEvent =>
      simp only [step] at returned
      split at returned <;> obtain rfl := Except.ok.inj returned
      · exact .still
      · have sameLine (r : KafkaPartition) : r.notifyProduceMsgQ.line = r.line := by
          unfold notifyProduceMsgQ
          split
          · rw [line_record]
            rfl
          · rfl
        rw [sameLine]
        exact .still
  | fetchEvent => exact fetchEvent_motion returned
  | batchTimer =>
      obtain rfl := Except.ok.inj returned
      exact createProduceRequest_motion crc32 p p.produceEvent (.inr rfl)
  | metadataTimer =>
      obtain rfl := Except.ok.inj returned
      rw [line_createMetadataRequest]
      exact .metadata (metadataBuffer_isControl p)
  | commitTimer =>
      obtain rfl := Except.ok.inj returned
      exact .still
  | readReady received surroundings => exact onReadReady_motion returned
  | writeReady outcome => exact onWriteReady_motion returned

end KafkaPartition
end AsyncKafka
