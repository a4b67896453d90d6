import AsyncKafka.Library.Fifo
import AsyncKafka.Partition.Frames

/-!
# The producer is a queue

Messages move through three queues: the accepted messages, the frames that
wait for the socket, and the frames handed to the kernel.  Control frames are
pushed at the front of the deque, but they carry no message, so the three
queues together are one first-in first-out queue from `produce` to `write`.
-/

namespace AsyncKafka

open Wire Execution

namespace WriteBuffer

/-- The messages that a frame carries. -/
def values (buffer : WriteBuffer) : List Bytes :=
  match buffer.request with
  | some (.produce request) => request.values
  | _ => []

@[simp] theorem values_produceBuffer
    (crc32 : Bytes → UInt32)
    (config : KafkaClientConfig)
    (request : ProduceRequest) :
    (KafkaPartition.produceBuffer crc32 config request).values =
      request.values := rfl

/-- A request of another kind carries no message. -/
theorem IsOther.values
    {buffer : WriteBuffer}
    (other : buffer.IsOther) :
    buffer.values = [] := by
  unfold WriteBuffer.values
  split
  · rename_i request produce
    exact absurd produce (other.2 request)
  · rfl

end WriteBuffer

namespace KafkaPartition

/-- The messages handed to the kernel so far. -/
def handedValues (p : KafkaPartition) : List Bytes :=
  p.handedFrames.flatMap WriteBuffer.values

/-- The messages that wait in the deque and in the message queue. -/
def waitingValues (p : KafkaPartition) : List Bytes :=
  p.writeBuffers.flatMap WriteBuffer.values ++ p.msgs

theorem Bookkeeping.msgs
    {p q : KafkaPartition}
    {effects : List Effect}
    (kept : Bookkeeping p effects q) :
    q.msgs = p.msgs := by
  obtain ⟨⟨_, _, _, _, _, _, _, _, _, _, _, rfl⟩, -⟩ := kept
  rfl

/-- Bookkeeping hands no message to the kernel. -/
theorem Bookkeeping.handedValues
    {p q : KafkaPartition}
    {effects : List Effect}
    (kept : Bookkeeping p effects q) :
    q.handedValues = p.handedValues := by
  obtain ⟨control, handed, controls⟩ := kept.handedFrames
  have empty : control.flatMap WriteBuffer.values = [] :=
    List.flatMap_eq_nil_iff.mpr fun buffer member =>
      (WriteBuffer.isOther_of_isControl (controls buffer member)).values
  rw [KafkaPartition.handedValues, handed, List.flatMap_append, empty,
    List.append_nil]
  rfl

theorem Bookkeeping.waitingValues
    {p q : KafkaPartition}
    {effects : List Effect}
    (kept : Bookkeeping p effects q) :
    q.waitingValues = p.waitingValues := by
  rw [KafkaPartition.waitingValues, kept.writeBuffers, kept.msgs]
  rfl

theorem handedValues_record_write
    (p : KafkaPartition)
    (req : WriteBuffer)
    (accepted : Option Nat) :
    (p.record (.write req accepted)).handedValues =
      p.handedValues ++ req.values := by
  rw [handedValues, handedFrames_record_write, List.flatMap_append,
    List.flatMap_singleton]
  rfl

theorem handedValues_record_read (p : KafkaPartition) (payload : Bytes) :
    (p.record (.read payload)).handedValues = p.handedValues := by
  rw [handedValues, handedFrames_record_read]
  rfl

/-- Draining the queue moves its messages into the deque. -/
theorem waitingValues_drained (crc32 : Bytes → UInt32) (p : KafkaPartition) :
    waitingValues
        { p with
          msgs := [], writeBuffers := p.writeBuffers ++ produceBuffers crc32 p } =
      p.waitingValues := by
  obtain ⟨chunks, buffers, contents⟩ := produceBuffers_eq crc32 p
  have carried :
      (produceBuffers crc32 p).flatMap WriteBuffer.values = p.msgs := by
    rw [buffers, List.flatMap_map, ← contents, ← List.flatMap_id]
    simp [chunkRequest]
  simp only [waitingValues, List.flatMap_append, carried, List.append_nil]

/-- Every move but a refusal moves the messages as a queue does: what is
accepted goes in at the back and what is handed to the kernel comes out at the
front. -/
theorem Transition.move
    {crc32 : Bytes → UInt32}
    {p q : KafkaPartition}
    {event : Event}
    (moved : Transition crc32 p event q)
    (unrefused : event.isProduceError = false) :
    ∃ output,
      q.handedValues = p.handedValues ++ output ∧
      Fifo.Move p.waitingValues event.messages output q.waitingValues := by
  -- Most moves hand over nothing and leave what waits as it is.
  have idle
      (handed : q.handedValues = p.handedValues)
      (waiting : q.waitingValues = p.waitingValues)
      (silent : event.messages = []) :
      ∃ output,
        q.handedValues = p.handedValues ++ output ∧
        Fifo.Move p.waitingValues event.messages output q.waitingValues := by
    refine ⟨[], by rw [handed, List.append_nil], ?_⟩
    rw [silent, waiting]
    exact .idle _
  cases moved with
  | accept bookkeeping _ =>
      refine ⟨[], ?_, ?_⟩
      · rw [List.append_nil, bookkeeping.handedValues]
        rfl
      · rw [bookkeeping.waitingValues]
        simp only [waitingValues, ← List.append_assoc]
        exact .enter _ _
  | drain drains bookkeeping =>
      refine idle bookkeeping.handedValues
        (bookkeeping.waitingValues.trans (waitingValues_drained crc32 p)) ?_
      rcases drains with rfl | rfl <;> rfl
  | fetch bookkeeping =>
      refine idle bookkeeping.handedValues
        (bookkeeping.waitingValues.trans ?_) rfl
      simp [waitingValues, WriteBuffer.values, fetchBuffer]
  | metadata bookkeeping =>
      refine idle bookkeeping.handedValues
        (bookkeeping.waitingValues.trans ?_) rfl
      simp [waitingValues, WriteBuffer.values, metadataBuffer]
  | idle _ bookkeeping =>
      exact idle bookkeeping.handedValues bookkeeping.waitingValues rfl
  | @write _ req rest _ _ front bookkeeping _ _ =>
      refine ⟨req.values, ?_, ?_⟩
      · rw [bookkeeping.handedValues, handedValues_record_write]
        rfl
      · rw [bookkeeping.waitingValues, waitingValues, front, List.flatMap_cons,
          List.append_assoc]
        exact .leave _ _
  | lost _ bookkeeping =>
      exact idle bookkeeping.handedValues bookkeeping.waitingValues rfl
  | produced _ _ _ result kinds =>
      subst result
      refine idle ?_ rfl rfl
      rcases kinds with rfl | ⟨offset, rfl⟩ <;>
        simp [handedValues, handedFrames, List.filterMap_append, Effect.frame?]
  | refused produce readOk erroneous _ _ _ _ =>
      rw [(Event.isProduceError_iff produce readOk).mpr erroneous] at unrefused
      cases unrefused
  | fetched _ _ bookkeeping =>
      obtain ⟨handed, buffers, queue⟩ := deliver_frames (p.record (.read _)) _
      refine idle (bookkeeping.handedValues.trans ?_)
        (bookkeeping.waitingValues.trans ?_) rfl
      · rw [handedValues, handed]
        exact handedValues_record_read p _
      · rw [waitingValues, buffers, queue]
        rfl
  | @repositioned _ _ offset _ middle _ _ bookkeeping _ =>
      obtain ⟨handed, buffers, queue⟩ := resetOffset_frames middle offset
      refine idle ?_ ?_ rfl
      · rw [handedValues, handed]
        exact bookkeeping.handedValues.trans (handedValues_record_read p _)
      · rw [waitingValues, buffers, queue]
        exact bookkeeping.waitingValues
  | answered _ bookkeeping _ =>
      exact idle (bookkeeping.handedValues.trans (handedValues_record_read p _))
        bookkeeping.waitingValues rfl

theorem Fresh.values
    {p : KafkaPartition}
    (fresh : Fresh p) :
    p.frames.flatMap WriteBuffer.values = [] :=
  List.flatMap_eq_nil_iff.mpr fun _ member =>
    (WriteBuffer.isOther_of_isControl
      (fresh.isControl_of_mem_frames member)).values

/-- In every run without produce errors, whatever the interleaving and the
results of the writes, the messages of the frames handed to the kernel, then
those of the frames that wait, then the message queue are exactly the accepted
messages in order, and every produce frame is the encoding of the request whose
messages are counted here. -/
theorem producer_is_fifo
    {crc32 : Bytes → UInt32}
    {start p : KafkaPartition}
    {history : List Event}
    (constructed : ConstructedProducer start)
    (run : Run (step crc32) (fun _ event => event.isProduceError = false)
      start history p) :
    p.handedValues ++ p.writeBuffers.flatMap WriteBuffer.values ++ p.msgs =
      history.flatMap Event.messages ∧
    GenuineFrames crc32 p := by
  obtain ⟨fresh, -⟩ := constructed.fresh
  obtain ⟨genuine, conserved⟩ := Fifo.conserved (GenuineFrames crc32)
    handedValues waitingValues Event.messages fresh.genuineFrames
    (fun state event next genuine unrefused stepped =>
      have moved := step_transition stepped
      ⟨genuine.transition unrefused moved, moved.move unrefused⟩) run
  have initially : start.handedValues ++ start.waitingValues = [] := by
    rw [handedValues, waitingValues, fresh.noMessages, List.append_nil,
      ← List.flatMap_append]
    exact fresh.values
  rw [initially, List.nil_append] at conserved
  refine ⟨?_, genuine⟩
  rw [← conserved, waitingValues, List.append_assoc]

/-- Two messages drained and written, and one that was accepted since. -/
theorem producer_is_fifo_of_three :
    ∃ p, Run (step Crc32.checksum) (fun _ event => event.isProduceError = false)
        (sampleProducer {})
        [.produceAll [[104, 105], []], .batchTimer, .metadataTimer,
          .writeReady .written, .writeReady .written, .produce [33]] p ∧
      p.msgs = [[33]] ∧
      p.handedValues ++ p.writeBuffers.flatMap WriteBuffer.values ++ p.msgs =
        [[104, 105], [], [33]] := by
  obtain ⟨p, run, queue⟩ := exists_run_of_follow (step Crc32.checksum)
    (fun _ event => event.isProduceError = false) (sampleProducer {})
    [.produceAll [[104, 105], []], .batchTimer, .metadataTimer,
      .writeReady .written, .writeReady .written, .produce [33]]
    (fun p => p.msgs = [[33]]) (by decide +kernel)
  exact ⟨p, run, of_decide_eq_true queue,
    (producer_is_fifo
      (sampleProducer_started _ (by decide +kernel)).constructed run).1⟩

end KafkaPartition
end AsyncKafka
