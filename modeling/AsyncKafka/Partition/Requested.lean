import AsyncKafka.Partition.Frames
import AsyncKafka.Partition.Handling
import AsyncKafka.Wire.Receipt

/-!
# Every frame is a request

Whatever a partition hands to the kernel or keeps for it, from its constructor
on, is a frame that a broker reads as one of the four requests for the
partition's own topic and number.  The exception is what the handler of a
produce response puts back after an error.  Control frames are queued and
written inside of the callbacks, so their origin is followed through each
function; all other frames are queued by the callbacks that the transitions
name.
-/

namespace AsyncKafka

open Wire Execution

namespace KafkaPartition

/-- Every new control frame is the metadata or the offset request of the
partition. -/
structure Issues (p q : KafkaPartition) : Prop where
  identity : q.identity = p.identity
  control : ∀ buffer ∈ q.frames, buffer.isControl = true →
    buffer ∈ p.frames ∨ buffer = p.metadataBuffer ∨ buffer = p.offsetBuffer

/-- The control frames depend on what was set once. -/
theorem controlBuffers_congr
    {p q : KafkaPartition}
    (same : q.identity = p.identity) :
    q.metadataBuffer = p.metadataBuffer ∧ q.offsetBuffer = p.offsetBuffer := by
  have sameConfig : q.config = p.config := congrArg Identity.config same
  have sameTopic : q.topic = p.topic := congrArg Identity.topic same
  have samePartition : q.partition = p.partition :=
    congrArg Identity.partition same
  constructor
  · rw [metadataBuffer, metadataBuffer, sameConfig, sameTopic]
  · rw [offsetBuffer, offsetBuffer, sameConfig, sameTopic, samePartition]

namespace Issues

/-- No frame is new. -/
theorem of_subset
    {p q : KafkaPartition}
    (same : q.identity = p.identity)
    (subset : ∀ buffer ∈ q.frames, buffer ∈ p.frames) :
    Issues p q :=
  ⟨same, fun buffer member _ => .inl (subset buffer member)⟩

theorem refl (p : KafkaPartition) : Issues p p :=
  .of_subset rfl fun _ member => member

theorem trans
    {p q r : KafkaPartition}
    (before : Issues p q)
    (after : Issues q r) :
    Issues p r := by
  refine ⟨after.identity.trans before.identity, ?_⟩
  intro buffer member control
  obtain ⟨sameMetadata, sameOffset⟩ := controlBuffers_congr before.identity
  rcases after.control buffer member control with old | rfl | rfl
  · exact before.control buffer old control
  · exact .inr (.inl sameMetadata)
  · exact .inr (.inr sameOffset)

/-- Effects that hand over no frame. -/
theorem of_connectionOnly
    {p q : KafkaPartition}
    {effects : List Effect}
    (only : ConnectionOnly p effects q)
    (silent : effects.filterMap Effect.frame? = []) :
    Issues p q := by
  obtain ⟨⟨_, _, _, _, rfl⟩, -⟩ := only
  refine .of_subset rfl fun buffer member => ?_
  simpa [frames, handedFrames, List.filterMap_append, silent] using member

theorem wakeupFetchOfConsumer
    {p q : KafkaPartition}
    (woken : p.wakeupFetchOfConsumer = .ok q) :
    Issues p q :=
  .of_connectionOnly (.wakeupFetchOfConsumer woken) rfl

theorem createMetadataRequest (p : KafkaPartition) :
    Issues p p.createMetadataRequest := by
  refine ⟨rfl, fun buffer member _ => ?_⟩
  have inside : buffer ∈ p.handedFrames ++ p.metadataBuffer :: p.writeBuffers :=
    member
  simp only [List.mem_append, List.mem_cons] at inside
  rcases inside with handed | rfl | waiting
  · exact .inl (List.mem_append.mpr (.inl handed))
  · exact .inr (.inl rfl)
  · exact .inl (List.mem_append.mpr (.inr waiting))

theorem createOffsetRequest (p : KafkaPartition) :
    Issues p p.createOffsetRequest := by
  refine ⟨rfl, fun buffer member _ => ?_⟩
  have inside : buffer ∈ p.handedFrames ++ p.offsetBuffer :: p.writeBuffers :=
    member
  simp only [List.mem_append, List.mem_cons] at inside
  rcases inside with handed | rfl | waiting
  · exact .inl (List.mem_append.mpr (.inl handed))
  · exact .inr (.inr rfl)
  · exact .inl (List.mem_append.mpr (.inr waiting))

/-- Handing over the front frame. -/
theorem handOver
    {p : KafkaPartition}
    {req : WriteBuffer}
    {rest : List WriteBuffer}
    (front : p.writeBuffers = req :: rest)
    (accepted : Option Nat) :
    Issues p ((p.popWriteBuffer req rest).record (.write req accepted)) := by
  refine .of_subset rfl fun buffer member => ?_
  rw [frames, handedFrames_record_write, List.append_assoc] at member
  rwa [frames, front]

theorem failover
    {p q : KafkaPartition}
    {connect : Option Int}
    {connected : Bool}
    (returned : p.failover connect = .ok (q, connected)) :
    Issues p q := by
  unfold KafkaPartition.failover at returned
  split at returned
  · cases returned
  · rename_i leader _
    have closed : Issues p { p.closeSocket with leader } :=
      .of_connectionOnly (.closeSocket p leader) rfl
    split at returned
    · obtain ⟨rfl, -⟩ := Prod.mk.inj (Except.ok.inj returned)
      exact closed.trans (.of_connectionOnly (.record _ rfl) rfl)
    · rename_i fd
      obtain ⟨rfl, -⟩ := Prod.mk.inj (Except.ok.inj returned)
      exact closed.trans (.of_connectionOnly (.connectLeader _ fd) rfl)

/-- Writing hands over the front frame and, after a reset, metadata requests. -/
theorem onWriteReady
    {p q : KafkaPartition}
    {outcome : WriteOutcome}
    (returned : p.onWriteReady outcome = .ok q) :
    Issues p q := by
  induction outcome generalizing p q with
  | written | short | failed =>
      cases front : p.writeBuffers with
      | nil => exact .of_connectionOnly (onWriteReady_nil front returned) rfl
      | cons req rest =>
          rw [onWriteReady_unreset front rfl] at returned
          obtain rfl := Except.ok.inj returned
          exact .handOver front _
  | reset connect next inductionHypothesis =>
      cases front : p.writeBuffers with
      | nil => exact .of_connectionOnly (onWriteReady_nil front returned) rfl
      | cons req rest =>
          unfold KafkaPartition.onWriteReady at returned
          simp only [front] at returned
          obtain ⟨⟨reconnected, connected⟩, failed, continued⟩ :=
            bind_eq_ok.mp returned
          have lost := (handOver front none).trans (failover failed)
          cases connected with
          | false =>
              obtain rfl := Except.ok.inj continued
              exact lost
          | true =>
              simp only [if_true] at continued
              obtain ⟨written, wrote, woken⟩ := bind_eq_ok.mp continued
              exact ((lost.trans (createMetadataRequest _)).trans
                (inductionHypothesis wrote)).trans (wakeupFetchOfConsumer woken)

theorem handleKafkaError
    {p q : KafkaPartition}
    {ec : Int}
    {writes : WriteOutcome}
    (returned : p.handleKafkaError ec writes = .ok q) :
    Issues p q := by
  unfold KafkaPartition.handleKafkaError at returned
  split at returned
  · exact (createOffsetRequest p).trans (onWriteReady returned)
  · split at returned
    · exact (createMetadataRequest p).trans (onWriteReady returned)
    · obtain rfl := Except.ok.inj returned
      exact .refl p

theorem handleErrorCode
    {p q : KafkaPartition}
    {ec : Int}
    {writes : WriteOutcome}
    (returned : p.handleErrorCode ec writes = .ok q) :
    Issues p q := by
  unfold KafkaPartition.handleErrorCode at returned
  split at returned
  · exact handleKafkaError returned
  · obtain rfl := Except.ok.inj returned
    exact .refl p

/-- Acknowledging a request or putting it back queues no control frame. -/
theorem acknowledge
    {p q : KafkaPartition}
    {response : ProduceResponse}
    (returned : p.acknowledge response = .ok q) :
    Issues p q := by
  unfold KafkaPartition.acknowledge at returned
  split at returned
  · cases returned
  · dsimp only at returned
    split at returned
    · obtain rfl := Except.ok.inj returned
      exact .of_subset rfl fun _ member => member
    · split at returned
      · obtain rfl := Except.ok.inj returned
        refine .of_subset rfl fun buffer member => ?_
        simpa [frames, handedFrames, KafkaPartition.record, Effect.frame?,
          List.filterMap_append] using member
      · obtain rfl := Except.ok.inj returned
        exact .of_subset rfl fun _ member => member

theorem returnRequest
    {p q : KafkaPartition}
    (returned : p.returnRequest = .ok q) :
    Issues p q := by
  unfold KafkaPartition.returnRequest at returned
  split at returned
  · cases returned
  · rename_i req rest _
    obtain rfl := Except.ok.inj returned
    refine ⟨rfl, fun buffer member control => ?_⟩
    have inside : buffer ∈ p.handedFrames ++ (p.writeBuffers ++
        [{ first := apiKeyProduceRequest, second := cStr req
           request := none }]) := member
    simp only [List.mem_append, List.mem_singleton] at inside
    rcases inside with handed | waiting | rfl
    · exact .inl (List.mem_append.mpr (.inl handed))
    · exact .inl (List.mem_append.mpr (.inr waiting))
    · cases control

theorem handleProduceResponse
    {p q : KafkaPartition}
    {payload : Bytes}
    {surroundings : Surroundings}
    (returned : p.handleProduceResponse payload surroundings = .ok q) :
    Issues p q := by
  obtain ⟨⟨response, ec⟩, -, continued⟩ := bind_eq_ok.mp returned
  by_cases fine : ec = 0
  · subst fine
    exact acknowledge continued
  · simp only [ne_eq, fine, not_false_eq_true, if_true] at continued
    obtain ⟨middle, reacted, put⟩ := bind_eq_ok.mp continued
    exact (handleKafkaError reacted).trans (returnRequest put)

theorem deliver (p : KafkaPartition) (messages : MessageSet) :
    Issues p (p.deliver messages) := by
  obtain ⟨handed, buffers, -⟩ := deliver_frames p messages
  refine .of_subset (deliver_identity p messages) fun buffer member => ?_
  rwa [frames, handed, buffers] at member

theorem resetOffset (p : KafkaPartition) (offset : Int) :
    Issues p (p.resetOffset offset) := by
  obtain ⟨handed, buffers, -⟩ := resetOffset_frames p offset
  refine .of_subset (resetOffset_identity p offset) fun buffer member => ?_
  rwa [frames, handed, buffers] at member

theorem handleFetchResponse
    {p q : KafkaPartition}
    {payload : Bytes}
    {surroundings : Surroundings}
    (returned : p.handleFetchResponse payload surroundings = .ok q) :
    Issues p q := by
  obtain ⟨⟨response, ec⟩, -, continued⟩ := bind_eq_ok.mp returned
  by_cases fine : ec = 0
  · simp only [ne_eq, fine, not_true_eq_false, if_false] at continued
    exact (deliver p _).trans (wakeupFetchOfConsumer continued)
  · simp only [ne_eq, fine, not_false_eq_true, if_true] at continued
    obtain ⟨middle, reacted, woken⟩ := bind_eq_ok.mp continued
    exact (handleKafkaError reacted).trans (wakeupFetchOfConsumer woken)

theorem followLeader
    {p q : KafkaPartition}
    {response : MetadataResponse}
    {surroundings : Surroundings}
    (returned : p.followLeader response surroundings = .ok q) :
    Issues p q := by
  unfold KafkaPartition.followLeader at returned
  split at returned
  · obtain rfl := Except.ok.inj returned
    exact .refl p
  · dsimp only at returned
    split at returned
    · have closed (leader : KafkaBroker) :
          Issues p { p.closeSocket with leader } :=
        .of_connectionOnly (.closeSocket p leader) rfl
      split at returned
      · exact ((closed _).trans (.of_connectionOnly (.record _ rfl) rfl)).trans
          (wakeupFetchOfConsumer returned)
      · exact ((closed _).trans
          (.of_connectionOnly (.connectLeader _ _) rfl)).trans
          (wakeupFetchOfConsumer returned)
    · obtain rfl := Except.ok.inj returned
      exact .refl p

theorem handleMetadataResponse
    {p q : KafkaPartition}
    {payload : Bytes}
    {surroundings : Surroundings}
    (returned : p.handleMetadataResponse payload surroundings = .ok q) :
    Issues p q := by
  obtain ⟨⟨response, ec⟩, -, continued⟩ := bind_eq_ok.mp returned
  obtain ⟨middle, reacted, followed⟩ := bind_eq_ok.mp continued
  exact (handleErrorCode reacted).trans (followLeader followed)

theorem followOffset (p : KafkaPartition) (response : OffsetResponse) :
    Issues p (p.followOffset response) := by
  unfold KafkaPartition.followOffset
  split
  · exact .refl p
  · split
    · exact .refl p
    · exact resetOffset p _

theorem handleOffsetResponse
    {p q : KafkaPartition}
    {payload : Bytes}
    {surroundings : Surroundings}
    (returned : p.handleOffsetResponse payload surroundings = .ok q) :
    Issues p q := by
  obtain ⟨⟨response, ec⟩, -, continued⟩ := bind_eq_ok.mp returned
  obtain ⟨middle, reacted, followed⟩ := bind_eq_ok.mp continued
  obtain rfl := Except.ok.inj followed
  exact (handleErrorCode reacted).trans (followOffset middle response)

theorem readError
    {p q : KafkaPartition}
    {surroundings : Surroundings}
    (returned : p.readError surroundings = .ok q) :
    Issues p q := by
  obtain ⟨⟨reconnected, connected⟩, failed, continued⟩ := bind_eq_ok.mp returned
  cases connected with
  | false =>
      obtain rfl := Except.ok.inj continued
      exact failover failed
  | true =>
      simp only [if_true] at continued
      obtain ⟨written, wrote, woken⟩ := bind_eq_ok.mp continued
      exact (((failover failed).trans (createMetadataRequest _)).trans
        (onWriteReady wrote)).trans (wakeupFetchOfConsumer woken)

theorem onReadReady
    {p q : KafkaPartition}
    {received : ReadOutcome}
    {surroundings : Surroundings}
    (returned : p.onReadReady received surroundings = .ok q) :
    Issues p q := by
  cases received with
  | payload payload =>
      unfold KafkaPartition.onReadReady at returned
      dsimp only at returned
      have recorded : Issues p (p.record (.read payload)) := by
        refine .of_subset rfl fun buffer member => ?_
        rwa [frames, handedFrames_record_read] at member
      split_ifs at returned
      refine recorded.trans ?_
      unfold dispatchResponse at returned
      split_ifs at returned
      · exact handleProduceResponse returned
      · exact handleFetchResponse returned
      · exact handleMetadataResponse returned
      · exact handleOffsetResponse returned
      · obtain rfl := Except.ok.inj returned
        exact .refl _
  | closed => exact readError returned
  | reset => exact readError returned
  | failed =>
      obtain rfl := Except.ok.inj returned
      exact .refl p

/-- The other events queue no control frame but the metadata request of the
timer. -/
theorem of_transition
    {crc32 : Bytes → UInt32}
    {p q : KafkaPartition}
    {event : Event}
    (reads : ∀ received surroundings, event ≠ .readReady received surroundings)
    (writes : ∀ outcome, event ≠ .writeReady outcome)
    (moved : Transition crc32 p event q) :
    Issues p q := by
  have kept {r s : KafkaPartition} (bookkeeping : Bookkeeping r [] s)
      (buffer : WriteBuffer) (inside : buffer ∈ s.frames) :
      buffer ∈ r.frames := by
    obtain ⟨⟨_, _, _, _, _, _, _, _, _, _, _, rfl⟩, -⟩ := bookkeeping
    simpa [frames, handedFrames] using inside
  cases moved with
  | accept bookkeeping silent =>
      refine .of_subset bookkeeping.identity fun buffer member => ?_
      rename_i effects
      have none : effects.filterMap Effect.frame? = [] := by
        apply List.filterMap_eq_nil_iff.mpr
        intro effect inside
        rw [silent effect inside]
        rfl
      obtain ⟨⟨_, _, _, _, _, _, _, _, _, _, _, rfl⟩, -⟩ := bookkeeping
      simpa [frames, handedFrames, List.filterMap_append, none] using member
  | drain _ bookkeeping =>
      refine ⟨bookkeeping.identity, fun buffer member control => ?_⟩
      have inside := kept bookkeeping buffer member
      simp only [frames, List.mem_append] at inside
      rcases inside with handed | waiting | new
      · exact .inl (List.mem_append.mpr (.inl handed))
      · exact .inl (List.mem_append.mpr (.inr waiting))
      · obtain ⟨request, -, rfl⟩ := genuine_of_mem_produceBuffers new
        cases control
  | fetch bookkeeping =>
      refine ⟨bookkeeping.identity, fun buffer member control => ?_⟩
      have inside := kept bookkeeping buffer member
      simp only [frames, List.mem_append, List.mem_singleton] at inside
      rcases inside with handed | waiting | rfl
      · exact .inl (List.mem_append.mpr (.inl handed))
      · exact .inl (List.mem_append.mpr (.inr waiting))
      · cases control
  | metadata bookkeeping =>
      refine ⟨bookkeeping.identity, fun buffer member _ => ?_⟩
      exact (createMetadataRequest p).control buffer
        (kept bookkeeping buffer member) (by assumption)
  | idle => exact absurd rfl (writes _)
  | write => exact absurd rfl (writes _)
  | lost => exact absurd rfl (reads _ _)
  | produced => exact absurd rfl (reads _ _)
  | refused => exact absurd rfl (reads _ _)
  | fetched => exact absurd rfl (reads _ _)
  | repositioned => exact absurd rfl (reads _ _)
  | answered => exact absurd rfl (reads _ _)

theorem step
    {crc32 : Bytes → UInt32}
    {p q : KafkaPartition}
    {event : Event}
    (stepped : KafkaPartition.step crc32 p event = .ok q) :
    Issues p q := by
  cases event with
  | readReady received surroundings => exact onReadReady stepped
  | writeReady outcome => exact onWriteReady stepped
  | _ => exact of_transition (by simp) (by simp) (step_transition stepped)

end Issues

/-- Where a frame of a partition comes from. -/
inductive Issued
    (crc32 : Bytes → UInt32)
    (p : KafkaPartition)
    (event : Event)
    (buffer : WriteBuffer) : Prop
  | old : buffer ∈ p.frames → Issued crc32 p event buffer
  | metadata : buffer = p.metadataBuffer → Issued crc32 p event buffer
  | offset : buffer = p.offsetBuffer → Issued crc32 p event buffer
  | fetch : buffer = p.fetchBuffer → Issued crc32 p event buffer
  | produce
      {chunk : List Bytes} :
      chunk ∈ p.chunks →
      buffer = produceBuffer crc32 p.config (p.chunkRequest chunk) →
      Issued crc32 p event buffer
  /-- A request that was put back after an error. -/
  | refused :
      event.isProduceError = true →
      Issued crc32 p event buffer

theorem step_issued
    {crc32 : Bytes → UInt32}
    {p q : KafkaPartition}
    {event : Event}
    (stepped : step crc32 p event = .ok q)
    {buffer : WriteBuffer}
    (member : buffer ∈ q.frames) :
    Issued crc32 p event buffer := by
  rcases (step_transition stepped).mem_frames member with
    old | control | fetch | ⟨-, new⟩ | ⟨refused, -⟩
  · exact .old old
  · rcases (Issues.step stepped).control buffer member control with
      old | metadata | offset
    · exact .old old
    · exact .metadata metadata
    · exact .offset offset
  · exact .fetch fetch
  · rw [produceBuffers_chunks] at new
    obtain ⟨chunk, inside, rfl⟩ := List.mem_map.mp new
    exact .produce inside rfl
  · exact .refused refused

end KafkaPartition
end AsyncKafka
