import AsyncKafka.Producer.Scheduling

/-!
# The two forms of `produce`

The vector overload repeats the loop body of the single one and reports all its
messages together.  The reports apart, both do the same: whatever way a sequence
of messages is cut into vectors, the queue, its counter and the produce event
are in the end what they are after one call for each message.
-/

namespace AsyncKafka
namespace KafkaPartition

open Execution

/-- The state that the vector overload leaves. -/
def produceVector (p : KafkaPartition) (msgs : List Bytes) :
    Except Halt KafkaPartition :=
  (p.produceAll msgs).map Prod.snd

/-- A vector is put on the queue, then reported. -/
theorem produceVector_eq
    (p : KafkaPartition)
    {msgs : List Bytes}
    (nonempty : msgs ≠ []) :
    p.produceVector msgs = msgs.foldlM enqueue p >>= wakeupProduceMsgQ := by
  have proceeds : ¬ msgs.isEmpty = true := by simpa using nonempty
  unfold produceVector produceAll
  rw [if_neg proceeds]
  cases msgs.foldlM enqueue p with
  | error halt => rfl
  | ok queued =>
      change (queued.wakeupProduceMsgQ >>= fun woken => pure (0, woken)).map
        Prod.snd = queued.wakeupProduceMsgQ
      cases queued.wakeupProduceMsgQ <;> rfl

/-- A single message is a vector of one. -/
theorem produceVector_singleton (p : KafkaPartition) (msg : Bytes) :
    p.produceVector [msg] = p.produce msg := by
  rw [produceVector_eq p (List.cons_ne_nil msg []), List.foldlM_cons]
  simp only [List.foldlM_nil, bind_pure]
  rfl

/-- Messages one at a time are vectors of one. -/
theorem foldlM_produce (p : KafkaPartition) (msgs : List Bytes) :
    msgs.foldlM produce p = (msgs.map fun msg => [msg]).foldlM produceVector p := by
  rw [List.foldlM_map]
  congr 1
  funext state msg
  exact (produceVector_singleton state msg).symm

theorem wakeupProduceMsgQ_of_open
    {p : KafkaPartition}
    (opened : p.produceMsgQEvent.isOpen = true) :
    ∃ source : WakeupEventSource, source.isOpen = true ∧
      p.wakeupProduceMsgQ = .ok (p.withQueueEvent source) := by
  refine ⟨p.produceMsgQEvent.setCounter (p.produceMsgQEvent.pending + 1), ?_, ?_⟩
  · rw [WakeupEventSource.isOpen_setCounter]
    exact opened
  · rw [wakeupProduceMsgQ, WakeupEventSource.wakeup_eq_ok.mpr ⟨opened, rfl⟩]
    rfl

/-- What a vector leaves is what accepting its messages leaves, but for the
report. -/
theorem produceVector_of_open
    {p : KafkaPartition}
    {msgs : List Bytes}
    (opened : p.produceMsgQEvent.isOpen = true)
    (nonempty : msgs ≠ []) :
    ∃ source : WakeupEventSource, source.isOpen = true ∧
      p.produceVector msgs =
        (msgs.foldlM enqueue p).map (withQueueEvent source) := by
  rw [produceVector_eq p nonempty]
  cases queues : msgs.foldlM enqueue p with
  | error halt => exact ⟨p.produceMsgQEvent, opened, rfl⟩
  | ok queued =>
      have same := foldlM_enqueue_produceMsgQEvent queues
      obtain ⟨source, sourceOpen, woken⟩ :=
        wakeupProduceMsgQ_of_open (same ▸ opened)
      refine ⟨source, sourceOpen, ?_⟩
      rw [ok_bind, woken]
      rfl

/-- Vectors one after the other are put on the queue in their order. -/
theorem foldlM_produceVector_of_open
    {p : KafkaPartition}
    {chunks : List (List Bytes)}
    (opened : p.produceMsgQEvent.isOpen = true)
    (nonempty : ∀ chunk ∈ chunks, chunk ≠ []) :
    ∃ source : WakeupEventSource,
      chunks.foldlM produceVector p =
        (chunks.flatten.foldlM enqueue p).map (withQueueEvent source) := by
  induction chunks generalizing p with
  | nil => exact ⟨p.produceMsgQEvent, rfl⟩
  | cons chunk chunks inductionHypothesis =>
      obtain ⟨source, sourceOpen, first⟩ :=
        produceVector_of_open opened (nonempty chunk List.mem_cons_self)
      rw [List.foldlM_cons, first, List.flatten_cons, List.foldlM_append]
      cases chunk.foldlM enqueue p with
      | error halt => exact ⟨source, rfl⟩
      | ok queued =>
          have opened' : (queued.withQueueEvent source).produceMsgQEvent.isOpen =
              true := sourceOpen
          obtain ⟨last, later⟩ := inductionHypothesis opened'
            fun other member => nonempty other (List.mem_cons_of_mem _ member)
          refine ⟨last, ?_⟩
          rw [ok_bind]
          calc chunks.foldlM produceVector (queued.withQueueEvent source)
              = (chunks.flatten.foldlM enqueue
                  (queued.withQueueEvent source)).map (withQueueEvent last) :=
                later
            _ = ((chunks.flatten.foldlM enqueue queued).map
                  (withQueueEvent source)).map (withQueueEvent last) := by
                rw [foldlM_enqueue_withQueueEvent]
            _ = (chunks.flatten.foldlM enqueue queued).map
                  (withQueueEvent last) := by
                cases chunks.flatten.foldlM enqueue queued <;> rfl

theorem enqueue_error
    {p : KafkaPartition}
    {msg : Bytes}
    {halt : Halt}
    (failed : p.enqueue msg = .error halt) :
    halt = .assertionFailed := by
  rcases bind_eq_error.mp failed with unclosed | ⟨closed, -, unpushed⟩
  · unfold closeBatch at unclosed
    split at unclosed
    · rcases bind_eq_error.mp unclosed with unwoken | ⟨source, -, unset⟩
      · exact WakeupEventSource.wakeup_error unwoken
      · cases unset
    · cases unclosed
  · cases unpushed

theorem foldlM_enqueue_error
    {p : KafkaPartition}
    {msgs : List Bytes}
    {halt : Halt}
    (failed : msgs.foldlM enqueue p = .error halt) :
    halt = .assertionFailed := by
  induction msgs generalizing p with
  | nil => cases failed
  | cons msg msgs inductionHypothesis =>
      rw [List.foldlM_cons] at failed
      rcases bind_eq_error.mp failed with first | ⟨queued, -, later⟩
      · exact enqueue_error first
      · exact inductionHypothesis later

/-- Before `startProduce` every call fails. -/
theorem produceVector_of_closed
    {p : KafkaPartition}
    {msgs : List Bytes}
    (closed : p.produceMsgQEvent.isOpen = false)
    (nonempty : msgs ≠ []) :
    p.produceVector msgs = .error .assertionFailed := by
  rw [produceVector_eq p nonempty]
  cases queues : msgs.foldlM enqueue p with
  | error halt =>
      obtain rfl := foldlM_enqueue_error queues
      rfl
  | ok queued =>
      have same := foldlM_enqueue_produceMsgQEvent queues
      rw [ok_bind, wakeupProduceMsgQ, same]
      cases woken : p.produceMsgQEvent.wakeup with
      | error halt =>
          obtain rfl := WakeupEventSource.wakeup_error woken
          rfl
      | ok source =>
          rw [(WakeupEventSource.wakeup_eq_ok.mp woken).1] at closed
          cases closed

/-- What a sequence of vectors leaves of the batch depends on their messages
only. -/
theorem foldlM_produceVector_batch
    (p : KafkaPartition)
    {chunks : List (List Bytes)}
    (nonempty : ∀ chunk ∈ chunks, chunk ≠ []) :
    (chunks.foldlM produceVector p).map batch =
      if p.produceMsgQEvent.isOpen ∨ chunks.flatten = [] then
        (chunks.flatten.foldlM enqueue p).map batch
      else .error .assertionFailed := by
  by_cases opened : p.produceMsgQEvent.isOpen = true
  · obtain ⟨source, same⟩ := foldlM_produceVector_of_open opened nonempty
    rw [if_pos (.inl opened), same]
    cases chunks.flatten.foldlM enqueue p <;> rfl
  · cases chunks with
    | nil =>
        rw [if_pos (.inr rfl), List.flatten_nil, List.foldlM_nil,
          List.foldlM_nil]
    | cons chunk chunks =>
        have first := nonempty chunk List.mem_cons_self
        have fails := produceVector_of_closed (Bool.eq_false_iff.mpr opened) first
        have queued : ¬ (p.produceMsgQEvent.isOpen = true ∨
            (chunk :: chunks).flatten = []) := by simp [opened, first]
        rw [if_neg queued, List.foldlM_cons, fails]
        rfl

/-- The overloads of `produce` agree: a vector leaves the same queue, counter and
produce event as its messages one by one, from every state, and so does every
way to cut a sequence of messages into vectors. -/
theorem produce_overloads_agree (p : KafkaPartition) :
    (∀ msgs, msgs ≠ [] →
      (p.produceAll msgs).map (fun returned => returned.2.batch) =
        (msgs.foldlM produce p).map batch) ∧
    ∀ chunks : List (List Bytes), (∀ chunk ∈ chunks, chunk ≠ []) →
      (chunks.foldlM (fun (state : KafkaPartition) chunk =>
          (state.produceAll chunk).map Prod.snd) p).map batch =
        (chunks.flatten.foldlM produce p).map batch := by
  have cut (chunks : List (List Bytes)) (nonempty : ∀ chunk ∈ chunks, chunk ≠ []) :
      (chunks.foldlM produceVector p).map batch =
        (chunks.flatten.foldlM produce p).map batch := by
    have single (msgs : List Bytes) : (msgs.map fun msg => [msg]).flatten = msgs := by
      rw [← List.flatMap_def]
      exact List.flatMap_singleton' msgs
    have singles : ∀ chunk ∈ chunks.flatten.map fun msg : Bytes => [msg],
        chunk ≠ [] := by
      intro chunk member
      obtain ⟨msg, -, rfl⟩ := List.mem_map.mp member
      exact List.cons_ne_nil msg []
    rw [foldlM_produce, foldlM_produceVector_batch p nonempty,
      foldlM_produceVector_batch p singles, single]
  constructor
  · intro msgs nonempty
    have one := cut [msgs] (by simpa using nonempty)
    rw [List.flatten_singleton, List.foldlM_cons] at one
    rw [← one, produceVector]
    cases p.produceAll msgs <;> rfl
  · exact cut

/-- Five messages with a limit of two: the threshold is crossed twice inside one
vector. -/
theorem produce_overloads_agree_two_batches :
    ∃ q, (sampleProducer { pBatchNumMsgs := 2 }).produceAll
        [[1], [2], [3], [4], [5]] = .ok (0, q) ∧
      q.produceEvent.pending = 2 ∧ q.msgCnt = 1 ∧
      ([[1], [2], [3], [4], [5]].foldlM produce
        (sampleProducer { pBatchNumMsgs := 2 })).map batch = .ok q.batch := by
  obtain ⟨⟨code, q⟩, returned, checked⟩ := exists_ok_of_any
    ((sampleProducer { pBatchNumMsgs := 2 }).produceAll [[1], [2], [3], [4], [5]])
    (fun returned => returned.1 = 0 ∧ returned.2.produceEvent.pending = 2 ∧
      returned.2.msgCnt = 1) (by decide +kernel)
  obtain ⟨rfl, pending, counter⟩ := of_decide_eq_true checked
  have agree := (produce_overloads_agree (sampleProducer { pBatchNumMsgs := 2 })).1
    [[1], [2], [3], [4], [5]] (by decide)
  rw [returned] at agree
  exact ⟨q, returned, pending, counter, agree.symm⟩

end KafkaPartition
end AsyncKafka
