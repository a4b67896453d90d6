import AsyncKafka.Partition.Start

/-!
# The intake of a producer

What the application hands over is kept apart from the traffic with the broker:
the queue with its counter, the two events that `produce` wakes, and the
calls of `onMsgQueued`.  Reading, writing and the synchronous part of the
constructor leave all of it alone, so that a property of the intake needs to be
checked for five kinds of events only.
-/

namespace AsyncKafka

open Wire Execution

/-- The part of a partition that `produce` works on. -/
structure Intake where
  msgs : List Bytes
  msgCnt : Int
  produceEvent : WakeupEventSource
  produceMsgQEvent : WakeupEventSource
  /-- How often `onMsgQueued` was called. -/
  notifications : Nat
  deriving DecidableEq, Repr

namespace KafkaPartition

def intake (p : KafkaPartition) : Intake :=
  { msgs := p.msgs
    msgCnt := p.msgCnt
    produceEvent := p.produceEvent
    produceMsgQEvent := p.produceMsgQEvent
    notifications := p.trace.count .msgQueued }

/-- Only a call of `onMsgQueued` is counted. -/
theorem intake_record
    (p : KafkaPartition)
    {effect : Effect}
    (other : effect ≠ .msgQueued) :
    (p.record effect).intake = p.intake := by
  simp [intake, record, other]

theorem ConnectionOnly.intake
    {p q : KafkaPartition}
    {effects : List Effect}
    (only : ConnectionOnly p effects q) :
    q.intake = p.intake := by
  obtain ⟨⟨_, _, _, _, rfl⟩, control⟩ := only
  have silent : effects.count .msgQueued = 0 := by
    apply List.count_eq_zero.mpr
    intro member
    exact absurd (control _ member) (by decide)
  simp [KafkaPartition.intake, List.count_append, silent]

theorem intake_deliver (p : KafkaPartition) (messages : MessageSet) :
    (p.deliver messages).intake = p.intake := by
  obtain ⟨effects, same, kinds⟩ := deliver_eq p messages
  rw [same]
  rcases kinds with rfl | ⟨recvMsgs, rfl⟩ <;> simp [intake]

theorem intake_resetOffset (p : KafkaPartition) (offset : Int) :
    (p.resetOffset offset).intake = p.intake := by
  rw [resetOffset_eq]
  rfl

theorem intake_handleProduceResponse
    {p q : KafkaPartition}
    {payload : Bytes}
    {surroundings : Surroundings}
    (returned : p.handleProduceResponse payload surroundings = .ok q) :
    q.intake = p.intake := by
  obtain ⟨⟨response, ec⟩, readOk, -⟩ := bind_eq_ok.mp returned
  by_cases fine : ec = 0
  · subst fine
    obtain ⟨req, rest, effects, -, rfl, kinds⟩ :=
      handleProduceResponse_success readOk returned
    rcases kinds with rfl | ⟨offset, rfl⟩ <;> simp [intake]
  · obtain ⟨_, _, effects, middle, -, handled, -, rfl⟩ :=
      handleProduceResponse_error readOk fine returned
    exact handled.intake

theorem intake_handleFetchResponse
    {p q : KafkaPartition}
    {payload : Bytes}
    {surroundings : Surroundings}
    (returned : p.handleFetchResponse payload surroundings = .ok q) :
    q.intake = p.intake := by
  obtain ⟨response, ec, -, erroneous | fine⟩ := handleFetchResponse_spec returned
  · obtain ⟨-, effects, handled, -⟩ := erroneous
    exact handled.intake
  · exact fine.2.intake.trans (intake_deliver p response.messages)

theorem intake_handleOffsetResponse
    {p q : KafkaPartition}
    {payload : Bytes}
    {surroundings : Surroundings}
    (returned : p.handleOffsetResponse payload surroundings = .ok q) :
    q.intake = p.intake := by
  obtain ⟨effects, middle, handled, -, reported⟩ :=
    handleOffsetResponse_spec returned
  rcases reported with ⟨-, rfl⟩ | ⟨offset, -, rfl⟩
  · exact handled.intake
  · exact (intake_resetOffset middle offset).trans handled.intake

/-- Reading leaves the intake alone. -/
theorem intake_onReadReady
    {p q : KafkaPartition}
    {received : ReadOutcome}
    {surroundings : Surroundings}
    (returned : p.onReadReady received surroundings = .ok q) :
    q.intake = p.intake := by
  cases received with
  | payload payload =>
      have unread : (p.record (.read payload)).intake = p.intake :=
        intake_record p (by simp)
      rw [← unread]
      simp only [onReadReady] at returned
      split at returned
      · cases returned
      split at returned
      · cases returned
      unfold dispatchResponse at returned
      split at returned
      · exact intake_handleProduceResponse returned
      split at returned
      · exact intake_handleFetchResponse returned
      split at returned
      · obtain ⟨effects, handled, -⟩ := handleMetadataResponse_spec returned
        exact handled.intake
      split at returned
      · exact intake_handleOffsetResponse returned
      · obtain rfl := Except.ok.inj returned
        rfl
  | closed | reset =>
      obtain ⟨effects, closed⟩ := readError_spec returned
      exact closed.intake
  | failed =>
      obtain rfl := Except.ok.inj returned
      rfl

/-- So does writing. -/
theorem intake_onWriteReady
    {p q : KafkaPartition}
    {outcome : WriteOutcome}
    (returned : p.onWriteReady outcome = .ok q) :
    q.intake = p.intake := by
  cases front : p.writeBuffers with
  | nil => exact (onWriteReady_nil front returned).intake
  | cons req rest =>
      obtain ⟨effects, written, -, -⟩ := onWriteReady_cons front returned
      rw [written.intake]
      exact intake_record _ (by simp)

/-- So does the synchronous part of the constructor. -/
theorem intake_init
    {p q : KafkaPartition}
    {surroundings : InitSurroundings}
    (returned : p.init surroundings = .ok q) :
    q.intake = p.intake := by
  obtain ⟨fd, asked, informed, askedAgain, positioned, _, metadataSent,
    metadataRead, offsetSent, offsetRead, -, -, rfl⟩ := init_steps returned
  calc positioned.intake = askedAgain.intake := intake_onReadReady offsetRead
    _ = informed.createOffsetRequest.intake := intake_onWriteReady offsetSent
    _ = informed.intake := rfl
    _ = asked.intake := intake_onReadReady metadataRead
    _ = (p.connectLeader fd).createMetadataRequest.intake :=
      intake_onWriteReady metadataSent
    _ = (p.connectLeader fd).intake := rfl
    _ = p.intake := (ConnectionOnly.connectLeader p fd).intake

/-- `startProduce` leaves one wakeup pending. -/
theorem startProduce_intake
    {p q : KafkaPartition}
    {eventFd queueFd timerFd : Int}
    (returned : p.startProduce eventFd queueFd timerFd = .ok q) :
    q.msgCnt = p.msgCnt ∧ q.trace = p.trace ∧
      q.produceMsgQEvent.pending = 1 := by
  obtain ⟨pReqTimerEvent, -, returned⟩ := bind_eq_ok.mp returned
  obtain ⟨source, woken, finished⟩ := bind_eq_ok.mp returned
  obtain rfl := Except.ok.inj finished
  obtain ⟨opened, rfl⟩ := WakeupEventSource.wakeup_eq_ok.mp woken
  refine ⟨rfl, rfl, ?_⟩
  rw [WakeupEventSource.pending_setCounter opened]
  simp [WakeupEventSource.pending, WakeupEventSource.init, registerSource]

/-- A producer begins with an empty intake. -/
theorem ConstructedProducer.intake
    {p : KafkaPartition}
    (constructed : ConstructedProducer p) :
    p.msgCnt = 0 ∧ p.intake.notifications = 0 := by
  induction constructed with
  | constructed constructedOk =>
      obtain ⟨located, locatedOk, returned⟩ := bind_eq_ok.mp constructedOk
      obtain ⟨initialised, initOk, returned⟩ := bind_eq_ok.mp returned
      obtain ⟨rfl, -⟩ := Prod.mk.inj (Except.ok.inj returned)
      obtain rfl := Except.ok.inj locatedOk
      have kept := intake_init initOk
      exact ⟨congrArg Intake.msgCnt kept, congrArg Intake.notifications kept⟩
  | started _ returned inductionHypothesis =>
      obtain ⟨counter, none⟩ := inductionHypothesis
      obtain ⟨sameCounter, trace, -⟩ := startProduce_intake returned
      refine ⟨sameCounter.trans counter, ?_⟩
      rw [KafkaPartition.intake, trace]
      exact none

/-- After `startProduce` one wakeup is pending. -/
theorem StartedProducer.pending
    {p : KafkaPartition}
    (started : StartedProducer p) :
    p.produceMsgQEvent.pending = 1 := by
  obtain ⟨_, _, _, _, _, _, _, returned⟩ := started
  exact (startProduce_intake returned).2.2

/-- The partition with another event for the reports of queued messages. -/
def withQueueEvent
    (source : WakeupEventSource)
    (p : KafkaPartition) : KafkaPartition :=
  { p with produceMsgQEvent := source }

theorem closeBatch_withQueueEvent
    (source : WakeupEventSource)
    (p : KafkaPartition) :
    (p.withQueueEvent source).closeBatch =
      p.closeBatch.map (withQueueEvent source) := by
  unfold closeBatch
  by_cases full : p.msgCnt = p.config.pBatchNumMsgs ∧
      p.partitionType = .producer
  · have fullToo : (p.withQueueEvent source).msgCnt =
        (p.withQueueEvent source).config.pBatchNumMsgs ∧
        (p.withQueueEvent source).partitionType = .producer := full
    have sameEvent : (p.withQueueEvent source).produceEvent = p.produceEvent :=
      rfl
    rw [if_pos full, if_pos fullToo, sameEvent]
    cases p.produceEvent.wakeup <;> rfl
  · have openToo : ¬ ((p.withQueueEvent source).msgCnt =
        (p.withQueueEvent source).config.pBatchNumMsgs ∧
        (p.withQueueEvent source).partitionType = .producer) := full
    rw [if_neg full, if_neg openToo]
    rfl

/-- Accepting a message has nothing to do with its report. -/
theorem enqueue_withQueueEvent
    (source : WakeupEventSource)
    (p : KafkaPartition)
    (msg : Bytes) :
    (p.withQueueEvent source).enqueue msg =
      (p.enqueue msg).map (withQueueEvent source) := by
  unfold enqueue
  rw [closeBatch_withQueueEvent]
  cases p.closeBatch <;> rfl

theorem foldlM_enqueue_withQueueEvent
    (source : WakeupEventSource)
    (p : KafkaPartition)
    (msgs : List Bytes) :
    msgs.foldlM enqueue (p.withQueueEvent source) =
      (msgs.foldlM enqueue p).map (withQueueEvent source) :=
  foldlM_commutes (enqueue_withQueueEvent source) msgs p

/-- Messages are accepted without a wakeup of the event that reports them. -/
theorem foldlM_enqueue_produceMsgQEvent
    {p q : KafkaPartition}
    {msgs : List Bytes}
    (accepted : msgs.foldlM enqueue p = .ok q) :
    q.produceMsgQEvent = p.produceMsgQEvent := by
  have same := foldlM_enqueue_withQueueEvent p.produceMsgQEvent p msgs
  have unchanged : p.withQueueEvent p.produceMsgQEvent = p := rfl
  rw [unchanged, accepted] at same
  have fixed : q = q.withQueueEvent p.produceMsgQEvent := Except.ok.inj same
  rw [fixed, withQueueEvent]

/-- The events that the intake is there for: the calls of `produce`, what it
wakes, and the batch timer. -/
def Event.isIntake : Event → Bool
  | .produce _ => true
  | .produceAll _ => true
  | .produceEvent => true
  | .produceMsgQEvent => true
  | .batchTimer => true
  | _ => false

/-- All other events leave the intake alone. -/
theorem step_intake
    {crc32 : Bytes → UInt32}
    {p q : KafkaPartition}
    {event : Event}
    (other : event.isIntake = false)
    (stepped : step crc32 p event = .ok q) :
    q.intake = p.intake := by
  cases event with
  | produce _ | produceAll _ | produceEvent | produceMsgQEvent | batchTimer =>
      cases other
  | pauseFetch | metadataTimer | commitTimer =>
      obtain rfl := Except.ok.inj stepped
      rfl
  | resumeFetch =>
      simp only [step, resumeFetch] at stepped
      split at stepped
      · exact (ConnectionOnly.wakeupFetch stepped).intake
      · obtain rfl := Except.ok.inj stepped
        rfl
  | fetchEvent =>
      simp only [step] at stepped
      split at stepped <;> obtain rfl := Except.ok.inj stepped
      · rfl
      · unfold createFetchRequest
        split <;> rfl
  | readReady received surroundings => exact intake_onReadReady stepped
  | writeReady outcome => exact intake_onWriteReady stepped

end KafkaPartition
end AsyncKafka
