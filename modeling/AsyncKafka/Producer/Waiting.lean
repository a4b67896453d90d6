import AsyncKafka.Library.Waiting
import AsyncKafka.Producer.Queue

/-!
# Nothing waits for ever

`onWriteReady` hands one frame to the kernel each time it is called, whatever
comes of the write and however many connections it loses.  A frame that waits
is overtaken by the metadata requests of the timer and by no others.
-/

namespace AsyncKafka

open Wire Execution

namespace KafkaPartition

/-- How many frames an event puts in front of those that wait, when it
returns. -/
def Event.jumps : Event → Nat
  | .metadataTimer => 1
  | _ => 0

/-- How many frames an event hands over, if as many wait. -/
def Event.serves : Event → Nat
  | .writeReady _ => 1
  | _ => 0

/-- All events but the metadata timer and the writing of the socket leave the
frames that wait where they are. -/
theorem Transition.lineUp
    {crc32 : Bytes → UInt32}
    {p q : KafkaPartition}
    {event : Event}
    (moved : Transition crc32 p event q)
    (plain : event.jumps = 0 ∧ event.serves = 0) :
    ∃ output back, q.handedFrames = p.handedFrames ++ output ∧
      q.writeBuffers = p.writeBuffers ++ back := by
  have kept {middle : KafkaPartition} {effects : List Effect}
      {back : List WriteBuffer}
      (bookkeeping : Bookkeeping middle effects q)
      (handed : middle.handedFrames = p.handedFrames)
      (waiting : middle.writeBuffers = p.writeBuffers ++ back) :
      ∃ output back, q.handedFrames = p.handedFrames ++ output ∧
        q.writeBuffers = p.writeBuffers ++ back := by
    obtain ⟨control, emitted, -⟩ := bookkeeping.handedFrames
    exact ⟨control, back, by rw [emitted, handed],
      by rw [bookkeeping.writeBuffers, waiting]⟩
  cases moved with
  | accept bookkeeping _ => exact kept bookkeeping rfl (List.append_nil _).symm
  | drain _ bookkeeping => exact kept bookkeeping rfl rfl
  | fetch bookkeeping => exact kept bookkeeping rfl rfl
  | metadata _ => exact absurd plain.1 Nat.one_ne_zero
  | idle _ _ => exact absurd plain.2 Nat.one_ne_zero
  | write _ _ _ _ => exact absurd plain.2 Nat.one_ne_zero
  | lost _ bookkeeping => exact kept bookkeeping rfl (List.append_nil _).symm
  | produced _ _ _ result kinds =>
      subst result
      refine ⟨[], [], ?_, (List.append_nil _).symm⟩
      rcases kinds with rfl | ⟨offset, rfl⟩ <;>
        simp [handedFrames, List.filterMap_append, Effect.frame?]
  | @refused _ _ _ _ req _ _ middle _ _ _ _ _ bookkeeping _ result =>
      obtain ⟨control, emitted, -⟩ := bookkeeping.handedFrames
      rw [handedFrames_record_read] at emitted
      subst result
      exact ⟨control, _, emitted, rfl⟩
  | fetched _ _ bookkeeping =>
      obtain ⟨handed, buffers, -⟩ := deliver_frames (p.record (.read _)) _
      apply kept bookkeeping
      · rw [handed, handedFrames_record_read]
      · rw [buffers, List.append_nil]
        rfl
  | @repositioned _ _ offset _ middle _ _ bookkeeping _ =>
      obtain ⟨handed, buffers, -⟩ := resetOffset_frames middle offset
      obtain ⟨control, emitted, -⟩ := bookkeeping.handedFrames
      refine ⟨control, [], ?_, ?_⟩
      · rw [handed, emitted, handedFrames_record_read]
      · rw [buffers, bookkeeping.writeBuffers, List.append_nil]
        rfl
  | answered _ bookkeeping _ =>
      exact kept bookkeeping (handedFrames_record_read p _)
        (List.append_nil _).symm

/-- Every step is a turn of the deque. -/
theorem step_turn
    {crc32 : Bytes → UInt32}
    {p q : KafkaPartition}
    {event : Event}
    (stepped : step crc32 p event = .ok q) :
    ∃ output, q.handedFrames = p.handedFrames ++ output ∧
      Waiting.Turn p.writeBuffers event.jumps event.serves output
        q.writeBuffers := by
  have lineUp (plain : event.jumps = 0 ∧ event.serves = 0) :
      ∃ output, q.handedFrames = p.handedFrames ++ output ∧
        Waiting.Turn p.writeBuffers event.jumps event.serves output
          q.writeBuffers := by
    obtain ⟨output, back, handed, waiting⟩ :=
      (step_transition stepped).lineUp plain
    refine ⟨output, handed, ?_⟩
    rw [waiting, plain.1, plain.2]
    exact .lineUp _ _ _
  cases event with
  | metadataTimer =>
      obtain rfl := Except.ok.inj stepped
      exact ⟨[], (List.append_nil _).symm, [p.metadataBuffer], [], rfl,
        List.nil_sublist _, (List.append_nil _).symm⟩
  | writeReady outcome =>
      cases front : p.writeBuffers with
      | nil =>
          have kept := Bookkeeping.of_connectionOnly
            (onWriteReady_nil front stepped)
          obtain ⟨control, handed, -⟩ := kept.handedFrames
          refine ⟨control, handed, [], [], rfl, List.nil_sublist _, ?_⟩
          rw [kept.writeBuffers, front]
          rfl
      | cons req rest =>
          obtain ⟨effects, written, -, -⟩ := onWriteReady_cons front stepped
          have kept := Bookkeeping.of_connectionOnly written
          obtain ⟨control, handed, -⟩ := kept.handedFrames
          rw [handedFrames_record_write] at handed
          refine ⟨req :: control, ?_, [], [], rfl, ?_, ?_⟩
          · rw [handed, List.append_assoc]
            rfl
          · exact (List.nil_sublist control).cons_cons req
          · rw [kept.writeBuffers, List.append_nil]
            rfl
  | produce _ | produceAll _ | pauseFetch | resumeFetch | produceEvent
    | produceMsgQEvent | fetchEvent | batchTimer | commitTimer
    | readReady _ _ => exact lineUp ⟨rfl, rfl⟩

/-- How often the socket could be written in a history. -/
def writesIn (history : List Event) : Nat := (history.map Event.serves).sum

/-- How often the metadata timer has fired in a history. -/
def ticksIn (history : List Event) : Nat := (history.map Event.jumps).sum

/-- After a run, those in front of the deque that were not handed over yet are
metadata requests of the timer, then what is left of the frames that waited. -/
theorem frames_remain
    {crc32 : Bytes → UInt32}
    {allowed : KafkaPartition → Event → Prop}
    {p q : KafkaPartition}
    {history : List Event}
    (run : Run (step crc32) allowed p history q) :
    ∃ output, q.handedFrames = p.handedFrames ++ output ∧
      Waiting.Remains p.writeBuffers (ticksIn history) (writesIn history) output
        q.writeBuffers :=
  Waiting.remains_of_run writeBuffers handedFrames Event.jumps Event.serves
    (fun _ _ _ stepped => step_turn stepped) run

/-- From any state on, whatever happens and in whatever order, the frames that
wait are handed to the kernel in their order, and each of them as soon as the
socket could be written once more than frames were in front of it and metadata
timers have fired. -/
theorem frames_wait_boundedly
    {crc32 : Bytes → UInt32}
    {p q : KafkaPartition}
    {history : List Event}
    (run : Run (step crc32) (fun _ _ => True) p history q) :
    ∃ output, q.handedFrames = p.handedFrames ++ output ∧
      (p.writeBuffers.take (writesIn history - ticksIn history)).Sublist
        output := by
  obtain ⟨output, handed, remains⟩ := frames_remain run
  refine ⟨output, handed, ?_⟩
  by_cases few : writesIn history ≤ ticksIn history
  · rw [Nat.sub_eq_zero_of_le few, List.take_zero]
    exact List.nil_sublist output
  · apply remains.take_sublist
    omega

/-- A frame is overtaken by one metadata request and is handed over after it,
although the first write is reset. -/
theorem frames_wait_boundedly_overtaken :
    ∃ p q,
      Run (step Crc32.checksum) (fun _ _ => True) p
        [.metadataTimer, .writeReady (.reset none .written),
          .writeReady .written] q ∧
      p.writeBuffers ≠ [] ∧
      ∃ output, q.handedFrames = p.handedFrames ++ output ∧
        p.writeBuffers.Sublist output := by
  obtain ⟨p, -, one⟩ := exists_run_of_follow (step Crc32.checksum)
    (fun _ _ => True) (sampleProducer {}) [.produce [1], .batchTimer]
    (fun p => p.writeBuffers.length = 1 ∧
      (follow (step Crc32.checksum) (fun _ _ => True) p
        [.metadataTimer, .writeReady (.reset none .written),
          .writeReady .written]).isSome) (by decide +kernel)
  obtain ⟨length, followed⟩ := of_decide_eq_true one
  obtain ⟨q, found⟩ := Option.isSome_iff_exists.mp followed
  have run := Run.nil.follow found
  obtain ⟨output, handed, served⟩ := frames_wait_boundedly run
  have enough : writesIn [.metadataTimer, .writeReady (.reset none .written),
      .writeReady .written] - ticksIn [.metadataTimer,
        .writeReady (.reset none .written), .writeReady .written] = 1 := rfl
  refine ⟨p, q, run, List.ne_nil_of_length_pos (by omega), output, handed, ?_⟩
  rwa [List.nil_append, enough, List.take_of_length_le (by omega)] at served

/-- A run without produce errors hands over messages in the order in which they
were accepted. -/
theorem handedValues_of_run
    {crc32 : Bytes → UInt32}
    {p q : KafkaPartition}
    {history : List Event}
    (run : Run (step crc32) (fun _ event => event.isProduceError = false) p
      history q) :
    q.handedValues ++ q.waitingValues =
      p.handedValues ++ p.waitingValues ++ history.flatMap Event.messages :=
  (Fifo.conserved (fun _ => True) handedValues waitingValues Event.messages
    trivial (fun _ _ _ _ unrefused stepped =>
      ⟨trivial, (step_transition stepped).move unrefused⟩) run).2

/-- What a run hands over is added to what was handed over before. -/
theorem handedValues_of_handedFrames
    {p q : KafkaPartition}
    {output : List WriteBuffer}
    (handed : q.handedFrames = p.handedFrames ++ output) :
    q.handedValues = p.handedValues ++ output.flatMap WriteBuffer.values := by
  rw [handedValues, handed, List.flatMap_append]
  rfl

/-- A tick of the batch timer leaves no message in the queue. -/
theorem waitingValues_batchTimer
    {crc32 : Bytes → UInt32}
    {p q : KafkaPartition}
    (ticked : step crc32 p .batchTimer = .ok q) :
    q.handedFrames = p.handedFrames ∧ q.waitingValues = p.waitingValues ∧
      q.msgs = [] := by
  obtain rfl := Except.ok.inj ticked
  exact ⟨rfl, waitingValues_drained crc32 p, rfl⟩

/-- No message waits for ever: whatever else happens before and after, once the
batch timer has fired, and then the socket could be written once for every frame
in the deque and every tick of the metadata timer, all messages that were
waiting at the start have been handed to the kernel, first and in order. -/
theorem messages_wait_boundedly
    {crc32 : Bytes → UInt32}
    {p a b q : KafkaPartition}
    {before after : List Event}
    (first : Run (step crc32) (fun _ event => event.isProduceError = false) p
      before a)
    (ticked : step crc32 a .batchTimer = .ok b)
    (later : Run (step crc32) (fun _ event => event.isProduceError = false) b
      after q)
    (enough : b.writeBuffers.length + ticksIn after ≤ writesIn after) :
    ∃ output, q.handedValues = p.handedValues ++ output ∧
      p.waitingValues <+: output := by
  obtain ⟨handedA, waitingA, drained⟩ := waitingValues_batchTimer ticked
  obtain ⟨early, emittedA, -⟩ := frames_remain first
  obtain ⟨late, emittedQ, remains⟩ := frames_remain later
  have valuesA := handedValues_of_handedFrames emittedA
  have valuesB : b.handedValues = a.handedValues := by
    rw [handedValues, handedA]
    rfl
  have valuesQ := handedValues_of_handedFrames emittedQ
  rw [valuesB, valuesA, List.append_assoc] at valuesQ
  refine ⟨_, valuesQ, ?_⟩
  -- What waited at the start is no more than what came out since.
  have balanceA := handedValues_of_run first
  rw [valuesA, List.append_assoc, List.append_assoc, List.append_cancel_left_eq]
    at balanceA
  have balanceQ := handedValues_of_run later
  rw [valuesQ, valuesB, valuesA, waitingA] at balanceQ
  simp only [List.append_assoc, List.append_cancel_left_eq] at balanceQ
  have frames : b.writeBuffers.Sublist late := by
    have served : (b.writeBuffers.take b.writeBuffers.length).Sublist late := by
      apply remains.take_sublist
      exact (Nat.add_comm _ _).trans_le enough
    rwa [List.take_length] at served
  have carried : a.waitingValues.length ≤
      (late.flatMap WriteBuffer.values).length := by
    rw [← waitingA, waitingValues, drained, List.append_nil]
    exact (frames.flatMap _).length_le
  have whole :
      early.flatMap WriteBuffer.values ++ late.flatMap WriteBuffer.values ++
          q.waitingValues =
        p.waitingValues ++ (before.flatMap Event.messages ++
          after.flatMap Event.messages) := by
    rw [List.append_assoc, balanceQ, ← List.append_assoc, balanceA,
      List.append_assoc]
  apply List.prefix_of_prefix_length_le
    (whole ▸ List.prefix_append p.waitingValues _) (List.prefix_append _ _)
  have lengths := congrArg List.length balanceA
  simp only [List.length_append] at lengths ⊢
  omega

/-- A producer with two messages in its queue. -/
def sampleWaiting : KafkaPartition :=
  { sampleProducer {} with msgs := [[1], [2]] }

/-- The metadata timer fires before the writes, the first of which is reset while
no broker can be reached. -/
theorem messages_wait_boundedly_ticked :
    ∃ q,
      Run (step Crc32.checksum) (fun _ event => event.isProduceError = false)
        (sampleWaiting.createProduceRequest Crc32.checksum)
        [.metadataTimer, .produce [3], .writeReady (.reset none .written),
          .writeReady .written] q ∧
      ∃ output, q.handedValues = sampleWaiting.handedValues ++ output ∧
        [[1], [2]] <+: output := by
  obtain ⟨q, run, -⟩ := exists_run_of_follow (step Crc32.checksum)
    (fun _ event => event.isProduceError = false)
    (sampleWaiting.createProduceRequest Crc32.checksum)
    [.metadataTimer, .produce [3], .writeReady (.reset none .written),
      .writeReady .written]
    (fun _ => true) (by decide +kernel)
  have waiting : sampleWaiting.waitingValues = [[1], [2]] := by
    decide +kernel
  obtain ⟨output, handed, sent⟩ := messages_wait_boundedly .nil rfl run
    (by decide +kernel)
  rw [waiting] at sent
  exact ⟨q, run, output, handed, sent⟩

end KafkaPartition
end AsyncKafka
