import AsyncKafka.Producer.Batching
import AsyncKafka.Producer.Intake

/-!
# When a full batch is sent

`produce` counts the messages it accepts and wakes the produce event when the
counter has reached `pBatchNumMsgs`.  The test stands before the push: it is
the message after a full batch that sends it.  The counter runs ahead of the
queue after every tick of the batch timer, and as long as it does, the wakeup
comes before the queue is full.
-/

namespace AsyncKafka
namespace KafkaPartition

open Wire ByteOrder Execution

/-- The queue, its counter and the event that drains it. -/
def batch (p : KafkaPartition) : List Bytes × Int × WakeupEventSource :=
  (p.msgs, p.msgCnt, p.produceEvent)

theorem batch_eq_iff
    {p : KafkaPartition}
    {msgs : List Bytes}
    {msgCnt : Int}
    {produceEvent : WakeupEventSource} :
    p.batch = (msgs, msgCnt, produceEvent) ↔
      p.msgs = msgs ∧ p.msgCnt = msgCnt ∧ p.produceEvent = produceEvent := by
  rw [batch, Prod.mk.injEq, Prod.mk.injEq]

/-- The batch is a part of the intake. -/
theorem batch_of_intake
    {p q : KafkaPartition}
    (same : q.intake = p.intake) :
    q.batch = p.batch :=
  congrArg (fun intake : Intake =>
    (intake.msgs, intake.msgCnt, intake.produceEvent)) same

theorem batch_wakeupProduceMsgQ
    {p q : KafkaPartition}
    (returned : p.wakeupProduceMsgQ = .ok q) :
    q.batch = p.batch := by
  obtain ⟨produceMsgQEvent, -, finished⟩ := bind_eq_ok.mp returned
  obtain rfl := Except.ok.inj finished
  rfl

/-- A vector is put on the queue message by message. -/
theorem produceAll_batch
    {p q : KafkaPartition}
    {msgs : List Bytes}
    {code : Int}
    (returned : p.produceAll msgs = .ok (code, q)) :
    ∃ r, msgs.foldlM enqueue p = .ok r ∧ q.batch = r.batch := by
  rcases produceAll_cases returned with
    ⟨rfl, rfl⟩ | ⟨-, queued, accepted, notified⟩
  · exact ⟨q, rfl, rfl⟩
  · exact ⟨queued, accepted, batch_wakeupProduceMsgQ notified⟩

/-- An event that finds nothing pending leaves its source as it is. -/
theorem source_of_idle
    {source next : WakeupEventSource}
    (handled : source.handleEvent = (none, next)) :
    next = source := by
  rw [WakeupEventSource.handleEvent_eq] at handled
  split at handled
  · exact (Prod.mk.inj handled).2.symm
  · cases (Prod.mk.inj handled).1

/-- A step puts the messages of its event on the queue, or it drains the queue
and leaves the counter as it is. -/
theorem step_batch
    {crc32 : Bytes → UInt32}
    {p q : KafkaPartition}
    {event : Event}
    (stepped : step crc32 p event = .ok q) :
    (∃ r, event.messages.foldlM enqueue p = .ok r ∧ q.batch = r.batch) ∨
      event.messages = [] ∧ ∃ produceEvent, q.batch = ([], p.msgCnt, produceEvent) := by
  cases event with
  | produce msg =>
      obtain ⟨queued, accepted, woken⟩ := bind_eq_ok.mp stepped
      refine .inl ⟨queued, ?_, batch_wakeupProduceMsgQ woken⟩
      simpa [Event.messages] using accepted
  | produceAll msgs =>
      obtain ⟨code, accepted⟩ := step_produceAll stepped
      exact .inl (produceAll_batch accepted)
  | produceEvent =>
      simp only [step] at stepped
      split at stepped
      · rename_i source woken
        obtain rfl := Except.ok.inj stepped
        exact .inl ⟨p, rfl, by rw [source_of_idle woken]⟩
      · obtain rfl := Except.ok.inj stepped
        exact .inr ⟨rfl, _, rfl⟩
  | produceMsgQEvent =>
      refine .inl ⟨p, rfl, ?_⟩
      simp only [step] at stepped
      split at stepped <;> obtain rfl := Except.ok.inj stepped
      · rfl
      · unfold notifyProduceMsgQ
        split <;> rfl
  | batchTimer =>
      obtain rfl := Except.ok.inj stepped
      exact .inr ⟨rfl, p.produceEvent, rfl⟩
  | pauseFetch | resumeFetch | fetchEvent | metadataTimer | commitTimer
  | readReady _ _ | writeReady _ =>
      exact .inl ⟨p, rfl, batch_of_intake (step_intake rfl stepped)⟩

/-- The counter is in its range, and without a pending wakeup the queue is not
longer than it says. -/
structure Counted (p : KafkaPartition) : Prop where
  producer : p.partitionType = .producer
  nonnegative : 0 ≤ p.msgCnt
  bounded : p.msgCnt ≤ p.config.pBatchNumMsgs
  queued : p.produceEvent.pending = 0 → (p.msgs.length : Int) ≤ p.msgCnt

/-- A queue with `pBatchNumMsgs` messages or more has a pending wakeup. -/
def Scheduled (p : KafkaPartition) : Prop :=
  p.config.pBatchNumMsgs ≤ p.msgs.length → 0 < p.produceEvent.pending

/-- Accepting a message below the limit counts it; accepting one at the limit
wakes the produce event and starts to count again. -/
theorem enqueue_counted
    {p q : KafkaPartition}
    {msg : Bytes}
    (positive : 1 ≤ p.config.pBatchNumMsgs)
    (int32 : p.config.pBatchNumMsgs < 2 ^ 31)
    (counted : Counted p)
    (returned : p.enqueue msg = .ok q) :
    q.config = p.config ∧ Counted q ∧
      (p.msgCnt < p.config.pBatchNumMsgs ∧
          q.batch = (p.msgs ++ [msg], p.msgCnt + 1, p.produceEvent) ∨
        p.msgCnt = p.config.pBatchNumMsgs ∧ 0 < q.produceEvent.pending) := by
  obtain ⟨producer, nonnegative, bounded, queued⟩ := counted
  obtain ⟨closed, batched, finished⟩ := bind_eq_ok.mp returned
  obtain rfl := Except.ok.inj finished
  unfold closeBatch at batched
  split at batched
  · rename_i reached
    obtain ⟨produceEvent, woken, closedOk⟩ := bind_eq_ok.mp batched
    obtain rfl := Except.ok.inj closedOk
    obtain ⟨opened, rfl⟩ := WakeupEventSource.wakeup_eq_ok.mp woken
    have pending : 0 <
        (p.produceEvent.setCounter (p.produceEvent.pending + 1)).pending := by
      rw [WakeupEventSource.pending_setCounter opened]
      exact Nat.succ_pos _
    have one : wrap 32 ((0 : Int) + 1) = 1 := by decide
    refine ⟨rfl, ⟨producer, ?_, ?_, ?_⟩, .inr ⟨reached.1, pending⟩⟩
    · simp only [one]
      decide
    · simp only [one]
      exact positive
    · intro idle
      simp only [idle, lt_irrefl] at pending
  · rename_i below
    have less : p.msgCnt < p.config.pBatchNumMsgs :=
      lt_of_le_of_ne bounded fun reached => below ⟨reached, producer⟩
    obtain rfl := Except.ok.inj batched
    have next : wrap 32 (p.msgCnt + 1) = p.msgCnt + 1 :=
      wrap_of_range (by decide) (by omega) (by omega)
    refine ⟨rfl, ⟨producer, ?_, ?_, ?_⟩, .inl ⟨less, by rw [batch, next]⟩⟩
    · simp only [next]
      omega
    · simp only [next]
      omega
    · intro idle
      have before := queued idle
      simp only [next, List.length_append, List.length_singleton]
      omega

/-- Accepting messages counts them as long as they stay within the limit, and
wakes the produce event when they do not. -/
theorem foldlM_enqueue_counted
    {p q : KafkaPartition}
    {msgs : List Bytes}
    (positive : 1 ≤ p.config.pBatchNumMsgs)
    (int32 : p.config.pBatchNumMsgs < 2 ^ 31)
    (counted : Counted p)
    (returned : msgs.foldlM enqueue p = .ok q) :
    q.config = p.config ∧ Counted q ∧
      (p.msgCnt + msgs.length ≤ p.config.pBatchNumMsgs ∧
          q.batch = (p.msgs ++ msgs, p.msgCnt + msgs.length, p.produceEvent) ∨
        p.config.pBatchNumMsgs < p.msgCnt + msgs.length ∧
          0 < q.produceEvent.pending) := by
  induction msgs generalizing p with
  | nil =>
      obtain rfl := Except.ok.inj returned
      exact ⟨rfl, counted, .inl ⟨by simpa using counted.bounded, by simp [batch]⟩⟩
  | cons msg msgs inductionHypothesis =>
      rw [List.foldlM_cons] at returned
      obtain ⟨first, accepted, later⟩ := bind_eq_ok.mp returned
      obtain ⟨sameConfig, firstCounted, progress⟩ :=
        enqueue_counted positive int32 counted accepted
      obtain ⟨stillConfig, lastCounted, rest⟩ := inductionHypothesis
        (sameConfig ▸ positive) (sameConfig ▸ int32) firstCounted later
      refine ⟨stillConfig.trans sameConfig, lastCounted, ?_⟩
      rw [sameConfig] at rest
      rw [List.length_cons, Nat.cast_succ]
      rcases progress with ⟨below, counts⟩ | ⟨reached, pending⟩
      · obtain ⟨queue, counter, source⟩ := batch_eq_iff.mp counts
        rw [queue, counter, source] at rest
        rcases rest with ⟨within, counts⟩ | ⟨beyond, pending⟩
        · refine .inl ⟨by omega, counts.trans ?_⟩
          simp only [List.append_assoc, List.singleton_append, Prod.mk.injEq,
            true_and, and_true]
          omega
        · exact .inr ⟨by omega, pending⟩
      · refine .inr ⟨by omega, ?_⟩
        rcases rest with ⟨-, counts⟩ | ⟨-, stays⟩
        · obtain ⟨-, -, source⟩ := batch_eq_iff.mp counts
          rw [source]
          exact pending
        · exact stays

/-- The messages of a call fill the queue to exactly `pBatchNumMsgs` while
nothing is pending and the counter agrees with the queue. -/
def CompletesBatch (p : KafkaPartition) (event : Event) : Prop :=
  event.messages ≠ [] ∧ p.produceEvent.pending = 0 ∧
    (p.msgs.length : Int) = p.msgCnt ∧
    p.msgCnt + event.messages.length = p.config.pBatchNumMsgs

instance (p : KafkaPartition) (event : Event) :
    Decidable (p.CompletesBatch event) :=
  inferInstanceAs (Decidable (_ ∧ _ ∧ _ ∧ _))

/-- What is true of the queue of a running producer. -/
structure Scheduling (p : KafkaPartition) : Prop where
  positive : 1 ≤ p.config.pBatchNumMsgs
  int32 : p.config.pBatchNumMsgs < 2 ^ 31
  counted : Counted p
  scheduled : Scheduled p

/-- Only the queue, its counter and the produce event matter. -/
theorem Counted.of_batch
    {p q : KafkaPartition}
    (counted : Counted p)
    (same : q.identity = p.identity)
    (sameBatch : q.batch = p.batch) :
    Counted q := by
  have sameConfig : q.config = p.config := congrArg Identity.config same
  have sameType : q.partitionType = p.partitionType :=
    congrArg Identity.partitionType same
  obtain ⟨queue, counter, source⟩ := batch_eq_iff.mp sameBatch
  refine ⟨sameType.trans counted.producer, ?_, ?_, ?_⟩
  · exact counter ▸ counted.nonnegative
  · exact counter ▸ sameConfig ▸ counted.bounded
  · rw [queue, counter, source]
    exact counted.queued

/-- A step keeps the counter, and after it a full batch is scheduled exactly
when the step did not complete one. -/
theorem Scheduling.step
    {crc32 : Bytes → UInt32}
    {p q : KafkaPartition}
    {event : Event}
    (scheduling : Scheduling p)
    (stepped : step crc32 p event = .ok q) :
    Counted q ∧ (Scheduled q ↔ ¬ p.CompletesBatch event) := by
  obtain ⟨positive, int32, counted, scheduled⟩ := scheduling
  have identity := (step_transition stepped).identity
  have sameConfig : q.config = p.config := congrArg Identity.config identity
  rcases step_batch stepped with
    ⟨r, accepted, sameBatch⟩ | ⟨silent, produceEvent, drained⟩
  · obtain ⟨-, rCounted, progress⟩ :=
      foldlM_enqueue_counted positive int32 counted accepted
    have rIdentity : r.identity = p.identity :=
      (foldlM_enqueue_spec accepted).identity
    refine ⟨rCounted.of_batch (identity.trans rIdentity.symm) sameBatch, ?_⟩
    obtain ⟨queue, -, source⟩ := batch_eq_iff.mp sameBatch
    rw [Scheduled, sameConfig, queue, source]
    rcases progress with ⟨within, counts⟩ | ⟨beyond, pending⟩
    · obtain ⟨rQueue, -, rSource⟩ := batch_eq_iff.mp counts
      rw [rQueue, rSource, List.length_append, Nat.cast_add]
      constructor
      · rintro full ⟨-, idle, agrees, complete⟩
        have pending := full (by omega)
        omega
      · intro incomplete full
        by_contra idle
        have nothing : p.produceEvent.pending = 0 := by omega
        have queued := counted.queued nothing
        by_cases silent : event.messages = []
        · rw [silent, List.length_nil, Nat.cast_zero, add_zero] at full
          exact idle (scheduled full)
        · exact incomplete ⟨silent, nothing, by omega, by omega⟩
    · refine iff_of_true (fun _ => pending) ?_
      rintro ⟨-, -, -, complete⟩
      omega
  · obtain ⟨queue, counter, -⟩ := batch_eq_iff.mp drained
    have sameType : q.partitionType = p.partitionType :=
      congrArg Identity.partitionType identity
    refine ⟨⟨sameType.trans counted.producer, ?_, ?_, ?_⟩, ?_⟩
    · exact counter ▸ counted.nonnegative
    · exact counter ▸ sameConfig ▸ counted.bounded
    · intro _
      rw [queue, counter]
      exact counted.nonnegative
    · refine iff_of_true ?_ fun completes => completes.1 silent
      intro full
      rw [queue, sameConfig, List.length_nil, Nat.cast_zero] at full
      omega

/-- In every run of a producer in which no call completes a batch while nothing
is pending, a queue of `pBatchNumMsgs` messages or more has a pending wakeup.
The condition is exact: in every state of such a run, the next step leaves a
full batch unsent if and only if it completes one. -/
theorem full_batch_scheduled
    {crc32 : Bytes → UInt32}
    {start p : KafkaPartition}
    {history : List Event}
    (constructed : ConstructedProducer start)
    (positive : 1 ≤ start.config.pBatchNumMsgs)
    (int32 : start.config.pBatchNumMsgs < 2 ^ 31)
    (run : Run (step crc32) (fun state event => ¬ state.CompletesBatch event)
      start history p) :
    p.Scheduled ∧ ∀ event q, step crc32 p event = .ok q →
      (q.Scheduled ↔ ¬ p.CompletesBatch event) := by
  obtain ⟨fresh, producer⟩ := constructed.fresh
  have empty : start.msgs.length = 0 := by rw [fresh.noMessages, List.length_nil]
  have initially : Scheduling start := by
    refine ⟨positive, int32, ⟨producer, constructed.intake.1.ge, ?_, ?_⟩, ?_⟩
    · rw [constructed.intake.1]
      omega
    · intro _
      rw [empty, constructed.intake.1]
      rfl
    · intro full
      omega
  have scheduling : Scheduling p := by
    apply run.invariant (fun _ state => Scheduling state) initially
    intro _ state event next held incomplete stepped
    obtain ⟨counted, scheduled⟩ := held.step stepped
    have sameConfig : next.config = state.config := (step_transition stepped).config
    exact ⟨sameConfig ▸ held.positive, sameConfig ▸ held.int32, counted,
      scheduled.mpr incomplete⟩
  exact ⟨scheduling.scheduled, fun event q stepped => (scheduling.step stepped).2⟩

/-- Three messages with a tick of the timer after the first: the counter is
ahead of the queue and wakes the produce event in time. -/
theorem full_batch_scheduled_ahead :
    ∃ p, Run (step Crc32.checksum)
        (fun state event => ¬ state.CompletesBatch event)
        (sampleProducer { pBatchNumMsgs := 2 })
        [.produce [1], .batchTimer, .produce [2], .produce [3]] p ∧
      p.msgs.length = 2 ∧ 0 < p.produceEvent.pending := by
  obtain ⟨p, run, queued⟩ := exists_run_of_follow (step Crc32.checksum)
    (fun state event => ¬ state.CompletesBatch event)
    (sampleProducer { pBatchNumMsgs := 2 })
    [.produce [1], .batchTimer, .produce [2], .produce [3]]
    (fun p => p.msgs.length = 2 ∧ p.config.pBatchNumMsgs = 2) (by decide +kernel)
  obtain ⟨length, limit⟩ := of_decide_eq_true queued
  refine ⟨p, run, length, (full_batch_scheduled
    (sampleProducer_started _ (by decide +kernel)).constructed (by decide +kernel)
    (by decide +kernel) run).1 ?_⟩
  rw [limit, length]
  decide

/-- With `pBatchNumMsgs` at one, a single message is a full batch, and nothing is
scheduled. -/
theorem full_batch_unsent :
    ∃ p, Run (step Crc32.checksum) (fun _ _ => True)
        (sampleProducer { pBatchNumMsgs := 1 }) [.produce [1]] p ∧
      p.config.pBatchNumMsgs ≤ p.msgs.length ∧ p.produceEvent.pending = 0 := by
  obtain ⟨p, run, unsent⟩ := exists_run_of_follow (step Crc32.checksum)
    (fun _ _ => True) (sampleProducer { pBatchNumMsgs := 1 }) [.produce [1]]
    (fun p => p.config.pBatchNumMsgs ≤ p.msgs.length ∧
      p.produceEvent.pending = 0) (by decide +kernel)
  exact ⟨p, run, of_decide_eq_true unsent⟩

end KafkaPartition
end AsyncKafka
