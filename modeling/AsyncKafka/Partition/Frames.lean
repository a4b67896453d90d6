import AsyncKafka.Partition.Batches
import AsyncKafka.Partition.Start

/-!
# The frames of a partition

All frames that a partition has put on its deque: those handed to the kernel,
which the trace tells, and those that wait.  A frame is a control frame, a
fetch request for the offset at which it was built, a produce request built
from a chunk of the message queue, or what a refused request leaves behind.
-/

namespace AsyncKafka

open Wire Execution

namespace WriteBuffer

/-- The frame is a produce request as the partition builds them. -/
def Genuine
    (crc32 : Bytes → UInt32)
    (config : KafkaClientConfig)
    (buffer : WriteBuffer) : Prop :=
  ∃ request : ProduceRequest,
    request.requiredAcks = config.pRequiredAcks ∧
    buffer = KafkaPartition.produceBuffer crc32 config request

/-- The frame is a request of another kind. -/
def IsOther (buffer : WriteBuffer) : Prop :=
  buffer.isProduce = false ∧
    ∀ request : ProduceRequest, buffer.request ≠ some (.produce request)

theorem isOther_of_isControl
    {buffer : WriteBuffer}
    (control : buffer.isControl = true) :
    buffer.IsOther := by
  refine ⟨isProduce_of_isControl control, ?_⟩
  intro request produce
  simp [isControl, produce] at control

end WriteBuffer

namespace Effect

/-- The frame that was handed to the kernel, if any. -/
def frame? : Effect → Option WriteBuffer
  | .write buffer _ => some buffer
  | _ => none

/-- A frame that is part of a quiet effect is a control frame. -/
theorem isControl_of_frame?
    {effect : Effect}
    {buffer : WriteBuffer}
    (quiet : effect.isQuiet = true)
    (found : effect.frame? = some buffer) :
    buffer.isControl = true := by
  cases effect with
  | write written accepted =>
      obtain rfl := Option.some.inj found
      simpa [isQuiet, isControl] using quiet
  | _ => cases found

end Effect

namespace KafkaPartition

/-- The frames handed to the kernel so far, in order. -/
def handedFrames (p : KafkaPartition) : List WriteBuffer :=
  p.trace.filterMap Effect.frame?

/-- All frames so far: those handed to the kernel and those that wait. -/
def frames (p : KafkaPartition) : List WriteBuffer :=
  p.handedFrames ++ p.writeBuffers

/-- Whether an event is a produce response with an error code. -/
def Event.isProduceError : Event → Bool
  | .readReady (.payload payload) _ =>
      correlationId payload == apiKeyProduceRequest && responseError payload != 0
  | _ => false

/-- A produce response is an error exactly when it reports a code. -/
theorem Event.isProduceError_iff
    {payload : Bytes}
    {surroundings : Surroundings}
    {response : ProduceResponse}
    {ec : Int}
    (produce : correlationId payload = apiKeyProduceRequest)
    (readOk : readProduceResponse payload = .ok (response, ec)) :
    Event.isProduceError (.readReady (.payload payload) surroundings) = true ↔
      ec ≠ 0 := by
  simp [Event.isProduceError, responseError, produce, readOk]

/-- Bookkeeping hands only control frames to the kernel. -/
theorem Bookkeeping.handedFrames
    {p q : KafkaPartition}
    {effects : List Effect}
    (kept : Bookkeeping p effects q) :
    ∃ control, q.handedFrames = p.handedFrames ++ control ∧
      ∀ buffer ∈ control, buffer.isControl = true := by
  obtain ⟨⟨_, _, _, _, _, _, _, _, _, _, _, rfl⟩, quiet⟩ := kept
  refine ⟨effects.filterMap Effect.frame?, List.filterMap_append, ?_⟩
  intro buffer member
  obtain ⟨effect, inside, found⟩ := List.mem_filterMap.mp member
  exact Effect.isControl_of_frame? (quiet effect inside) found

theorem Bookkeeping.writeBuffers
    {p q : KafkaPartition}
    {effects : List Effect}
    (kept : Bookkeeping p effects q) :
    q.writeBuffers = p.writeBuffers := by
  obtain ⟨⟨_, _, _, _, _, _, _, _, _, _, _, rfl⟩, -⟩ := kept
  rfl

/-- Bookkeeping adds only control frames. -/
theorem Bookkeeping.mem_frames
    {p q : KafkaPartition}
    {effects : List Effect}
    (kept : Bookkeeping p effects q)
    {buffer : WriteBuffer}
    (member : buffer ∈ q.frames) :
    buffer ∈ p.frames ∨ buffer.isControl = true := by
  obtain ⟨control, handed, controls⟩ := kept.handedFrames
  rw [frames, handed, kept.writeBuffers] at member
  simp only [List.mem_append] at member
  rcases member with (earlier | added) | waiting
  · exact .inl (List.mem_append.mpr (.inl earlier))
  · exact .inr (controls buffer added)
  · exact .inl (List.mem_append.mpr (.inr waiting))

theorem handedFrames_record_write
    (p : KafkaPartition)
    (req : WriteBuffer)
    (accepted : Option Nat) :
    (p.record (.write req accepted)).handedFrames = p.handedFrames ++ [req] := by
  simp [handedFrames, record, List.filterMap_append, Effect.frame?]

theorem handedFrames_record_read (p : KafkaPartition) (payload : Bytes) :
    (p.record (.read payload)).handedFrames = p.handedFrames := by
  simp [handedFrames, record, List.filterMap_append, Effect.frame?]

/-- Delivering messages touches neither frames nor the message queue. -/
theorem deliver_frames (p : KafkaPartition) (messages : MessageSet) :
    (p.deliver messages).handedFrames = p.handedFrames ∧
      (p.deliver messages).writeBuffers = p.writeBuffers ∧
      (p.deliver messages).msgs = p.msgs := by
  obtain ⟨effects, same, kinds⟩ := deliver_eq p messages
  rw [same]
  refine ⟨?_, rfl, rfl⟩
  rcases kinds with rfl | ⟨recvMsgs, rfl⟩ <;>
    simp [handedFrames, List.filterMap_append, Effect.frame?]

theorem resetOffset_frames (p : KafkaPartition) (offset : Int) :
    (p.resetOffset offset).handedFrames = p.handedFrames ∧
      (p.resetOffset offset).writeBuffers = p.writeBuffers ∧
      (p.resetOffset offset).msgs = p.msgs := by
  rw [resetOffset_eq]
  exact ⟨rfl, rfl, rfl⟩

/-- The frames that drain the queue are genuine. -/
theorem genuine_of_mem_produceBuffers
    {crc32 : Bytes → UInt32}
    {p : KafkaPartition}
    {buffer : WriteBuffer}
    (member : buffer ∈ produceBuffers crc32 p) :
    buffer.Genuine crc32 p.config := by
  rw [produceBuffers_chunks] at member
  obtain ⟨chunk, -, rfl⟩ := List.mem_map.mp member
  exact ⟨p.chunkRequest chunk, rfl, rfl⟩

/-- A new frame is a control frame, or the fetch request for the present offset,
or a produce request that drains the queue, or what is left of a request that
was refused. -/
theorem Transition.mem_frames
    {crc32 : Bytes → UInt32}
    {p q : KafkaPartition}
    {event : Event}
    (moved : Transition crc32 p event q)
    {buffer : WriteBuffer}
    (member : buffer ∈ q.frames) :
    buffer ∈ p.frames ∨ buffer.isControl = true ∨ buffer = p.fetchBuffer ∨
      (event = .produceEvent ∨ event = .batchTimer) ∧
        buffer ∈ produceBuffers crc32 p ∨
      event.isProduceError = true ∧ buffer.request = none := by
  have kept {r s : KafkaPartition} {effects : List Effect}
      (bookkeeping : Bookkeeping r effects s) (inside : buffer ∈ s.frames)
      (before : buffer ∈ r.frames → buffer ∈ p.frames) :
      buffer ∈ p.frames ∨ buffer.isControl = true :=
    (bookkeeping.mem_frames inside).imp_left before
  have unread (payload : Bytes)
      (inside : buffer ∈ (p.record (.read payload)).frames) :
      buffer ∈ p.frames := by
    rwa [frames, handedFrames_record_read] at inside
  cases moved with
  | accept bookkeeping _ =>
      exact (kept bookkeeping member id).imp_right .inl
  | drain drains bookkeeping =>
      rcases bookkeeping.mem_frames member with old | isControl
      · simp only [frames, List.mem_append] at old
        rcases old with handed | waiting | new
        · exact .inl (List.mem_append.mpr (.inl handed))
        · exact .inl (List.mem_append.mpr (.inr waiting))
        · exact .inr (.inr (.inr (.inl ⟨drains, new⟩)))
      · exact .inr (.inl isControl)
  | fetch bookkeeping =>
      rcases bookkeeping.mem_frames member with old | isControl
      · simp only [frames, List.mem_append, List.mem_singleton] at old
        rcases old with handed | waiting | rfl
        · exact .inl (List.mem_append.mpr (.inl handed))
        · exact .inl (List.mem_append.mpr (.inr waiting))
        · exact .inr (.inr (.inl rfl))
      · exact .inr (.inl isControl)
  | metadata bookkeeping =>
      rcases bookkeeping.mem_frames member with old | isControl
      · simp only [frames, List.mem_append, List.mem_cons] at old
        rcases old with handed | rfl | waiting
        · exact .inl (List.mem_append.mpr (.inl handed))
        · exact .inr (.inl rfl)
        · exact .inl (List.mem_append.mpr (.inr waiting))
      · exact .inr (.inl isControl)
  | idle _ bookkeeping => exact (kept bookkeeping member id).imp_right .inl
  | write front bookkeeping _ _ =>
      refine (kept bookkeeping member ?_).imp_right .inl
      intro old
      rw [frames, handedFrames_record_write, List.append_assoc] at old
      rwa [frames, front]
  | lost _ bookkeeping => exact (kept bookkeeping member id).imp_right .inl
  | produced _ _ _ result kinds =>
      subst result
      left
      rcases kinds with rfl | ⟨offset, rfl⟩ <;>
        simpa [frames, handedFrames, List.filterMap_append, Effect.frame?]
          using member
  | refused produce readOk erroneous _ bookkeeping _ result =>
      subst result
      rw [frames, List.mem_append, List.mem_append, List.mem_singleton] at member
      rcases member with handed | waiting | rfl
      · exact (kept bookkeeping (List.mem_append.mpr (.inl handed))
          (unread _)).imp_right .inl
      · exact .inl (List.mem_append.mpr (.inr waiting))
      · exact .inr (.inr (.inr (.inr
          ⟨(Event.isProduceError_iff produce readOk).mpr erroneous, rfl⟩)))
  | fetched _ _ bookkeeping =>
      refine (kept bookkeeping member ?_).imp_right .inl
      intro old
      rw [frames, (deliver_frames _ _).1, (deliver_frames _ _).2.1] at old
      exact unread _ old
  | repositioned _ _ bookkeeping _ =>
      rw [frames, (resetOffset_frames _ _).1, (resetOffset_frames _ _).2.1]
        at member
      exact (kept bookkeeping member (unread _)).imp_right .inl
  | answered _ bookkeeping _ =>
      exact (kept bookkeeping member (unread _)).imp_right .inl

/-- The fetch request is a request of another kind. -/
theorem fetchBuffer_isOther (p : KafkaPartition) : p.fetchBuffer.IsOther :=
  ⟨rfl, by simp [fetchBuffer]⟩

/-- With respect to produce requests a new frame is of another kind, or
genuine, or what is left of a request that was refused. -/
theorem Transition.mem_frames_produce
    {crc32 : Bytes → UInt32}
    {p q : KafkaPartition}
    {event : Event}
    (moved : Transition crc32 p event q)
    {buffer : WriteBuffer}
    (member : buffer ∈ q.frames) :
    buffer ∈ p.frames ∨ buffer.IsOther ∨ buffer.Genuine crc32 p.config ∨
      event.isProduceError = true ∧ buffer.request = none := by
  rcases moved.mem_frames member with old | control | rfl | ⟨-, new⟩ | refused
  · exact .inl old
  · exact .inr (.inl (WriteBuffer.isOther_of_isControl control))
  · exact .inr (.inl (fetchBuffer_isOther p))
  · exact .inr (.inr (.inl (genuine_of_mem_produceBuffers new)))
  · exact .inr (.inr (.inr refused))

/-- All produce frames so far are as the partition builds them. -/
def GenuineFrames (crc32 : Bytes → UInt32) (p : KafkaPartition) : Prop :=
  ∀ buffer ∈ p.frames, buffer.IsOther ∨ buffer.Genuine crc32 p.config

/-- Frames stay genuine as long as no produce request is refused. -/
theorem GenuineFrames.transition
    {crc32 : Bytes → UInt32}
    {p q : KafkaPartition}
    {event : Event}
    (genuine : GenuineFrames crc32 p)
    (unrefused : event.isProduceError = false)
    (moved : Transition crc32 p event q) :
    GenuineFrames crc32 q := by
  intro buffer member
  have sameConfig : q.config = p.config := moved.config
  rw [sameConfig]
  rcases moved.mem_frames_produce member with old | other | new | ⟨refused, -⟩
  · exact genuine buffer old
  · exact .inl other
  · exact .inr new
  · rw [refused] at unrefused
    cases unrefused

/-- The frames of a fresh partition are control frames. -/
theorem Fresh.isControl_of_mem_frames
    {p : KafkaPartition}
    (fresh : Fresh p)
    {buffer : WriteBuffer}
    (member : buffer ∈ p.frames) :
    buffer.isControl = true := by
  rcases List.mem_append.mp member with handed | waiting
  · obtain ⟨effect, inside, found⟩ := List.mem_filterMap.mp handed
    have prepared := fresh.preparation effect inside
    cases effect with
    | write written accepted =>
        refine Effect.isControl_of_frame? ?_ found
        simpa [Effect.isPreparation] using prepared
    | _ => cases found
  · exact fresh.controlFrames buffer waiting

theorem Fresh.genuineFrames
    {crc32 : Bytes → UInt32}
    {p : KafkaPartition}
    (fresh : Fresh p) :
    GenuineFrames crc32 p := by
  intro buffer member
  exact .inl (WriteBuffer.isOther_of_isControl
    (fresh.isControl_of_mem_frames member))

end KafkaPartition
end AsyncKafka
