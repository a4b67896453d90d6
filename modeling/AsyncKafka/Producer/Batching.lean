import AsyncKafka.Producer.Queue
import Mathlib.Tactic

/-!
# The size of batches

The queue is drained into requests by `createProduceRequest`, which closes a
request when its estimated size has reached a limit.  It counts no messages, so
that `pBatchNumMsgs` bounds a batch only as far as the queue happens to be short
when it is drained.  The estimate leaves out 16 of the 26 bytes that a message
takes besides its value, and it is compared before the message that may exceed
the limit is added.
-/

namespace AsyncKafka

open Wire ByteOrder Execution

/-- The produce request that a frame encodes. -/
def WriteBuffer.produceRequest (buffer : WriteBuffer) : Option ProduceRequest :=
  match buffer.request with
  | some (.produce request) => some request
  | _ => none

theorem WriteBuffer.IsOther.produceRequest
    {buffer : WriteBuffer}
    (other : buffer.IsOther) :
    buffer.produceRequest = none := by
  unfold WriteBuffer.produceRequest
  split
  · rename_i request produce
    exact absurd produce (other.2 request)
  · rfl

/-- The message sets of a produce request as they are written. -/
def Wire.ProduceRequest.messageSets
    (crc32 : Bytes → UInt32)
    (request : ProduceRequest) : Bytes :=
  request.topics.flatMap fun topic => topic.partitions.flatMap fun entry =>
    writeMessageSet crc32 entry.messages

namespace KafkaPartition

/-- The estimated size of a request with some messages, a `size_t`: each of them
counts with its length and 10 bytes more. -/
def estimatedSize (msgs : List Bytes) : Nat :=
  (msgs.map fun msg => msg.length + 10).sum % 2 ^ 64

/-- The loop estimates the size of a request message by message. -/
theorem foldl_addedSize (msgs : List Bytes) :
    msgs.foldl addedSize 0 = estimatedSize msgs := by
  suffices ∀ reqSize < 2 ^ 64, msgs.foldl addedSize reqSize =
      (reqSize + (msgs.map fun msg => msg.length + 10).sum) % 2 ^ 64 by
    rw [this 0 (by decide), estimatedSize, Nat.zero_add]
  intro reqSize small
  induction msgs generalizing reqSize with
  | nil => exact (Nat.mod_eq_of_lt small).symm
  | cons msg msgs inductionHypothesis =>
      rw [List.foldl_cons, addedSize,
        inductionHypothesis _ (Nat.mod_lt _ (by decide)), List.map_cons,
        List.sum_cons, Nat.mod_add_mod, Nat.add_assoc, Nat.add_assoc,
        Nat.add_assoc]

/-- A batch is open as long as its estimated size is below the limit. -/
theorem open_iff
    {limit : Nat}
    {msgs : List Bytes} :
    Greedy.Open (isFullBatch limit) addedSize 0 msgs ↔
      ∀ front back, front ++ back = msgs → front ≠ [] → back ≠ [] →
        estimatedSize front < limit := by
  simp only [Greedy.Open, foldl_addedSize, isFullBatch, decide_eq_false_iff_not,
    Nat.not_le]

/-- A chunk consists of consecutive messages of the queue, and before its last
message came its estimated size was below the limit. -/
theorem chunks_spec
    {p : KafkaPartition}
    {chunk : List Bytes}
    (member : chunk ∈ p.chunks) :
    chunk <:+: p.msgs ∧
      ∀ front back, front ++ back = chunk → front ≠ [] → back ≠ [] →
        estimatedSize front < batchLimit p.config := by
  have opened : Greedy.Open (isFullBatch (batchLimit p.config)) addedSize 0
      ([] : List Bytes) := by
    intro front back whole some _
    exact absurd (List.append_eq_nil_iff.mp whole).1 some
  obtain ⟨part, still⟩ := Greedy.open_of_mem_cut opened member
  exact ⟨part, open_iff.mp still⟩

/-- Whether an event drains the message queue. -/
def drains (p : KafkaPartition) : Event → Bool
  | .batchTimer => true
  | .produceEvent => p.produceEvent.handleEvent.1.isSome
  | _ => false

/-- There is a message to drain, an empty request is not already full, and any
`pBatchNumMsgs` messages in a row that are followed by another one reach the
limit by themselves. -/
def FillsBatches (p : KafkaPartition) : Prop :=
  p.msgs ≠ [] ∧ batchLimit p.config ≠ 0 ∧
    ∀ window ∈ Greedy.windows p.msgs,
      (window.length : Int) = p.config.pBatchNumMsgs + 1 →
        batchLimit p.config ≤ estimatedSize window.dropLast

instance (p : KafkaPartition) : Decidable p.FillsBatches :=
  inferInstanceAs (Decidable (_ ∧ _ ∧ _))

/-- No chunk of the queue is empty exactly when there is a message and an empty
request is not already full. -/
theorem chunks_nonempty_iff (p : KafkaPartition) :
    (∀ chunk ∈ p.chunks, 1 ≤ chunk.length) ↔
      p.msgs ≠ [] ∧ batchLimit p.config ≠ 0 := by
  have empty : (∀ chunk ∈ p.chunks, 1 ≤ chunk.length) ↔ [] ∉ p.chunks := by
    constructor
    · intro filled member
      exact absurd (filled [] member) (by simp)
    · intro absent chunk member
      refine List.length_pos_iff.mpr fun isEmpty => absent ?_
      rwa [isEmpty] at member
  rw [empty, chunks, Greedy.nil_notMem_cut_iff]
  simp [isFullBatch]

/-- A queue that fills batches is cut into batches of at least one and at most
`pBatchNumMsgs` messages. -/
theorem chunks_within
    {p : KafkaPartition}
    (positive : 1 ≤ p.config.pBatchNumMsgs)
    (fills : p.FillsBatches)
    {chunk : List Bytes}
    (member : chunk ∈ p.chunks) :
    1 ≤ chunk.length ∧ (chunk.length : Int) ≤ p.config.pBatchNumMsgs := by
  obtain ⟨some, room, reached⟩ := fills
  refine ⟨p.chunks_nonempty_iff.mpr ⟨some, room⟩ chunk member, ?_⟩
  by_contra larger
  obtain ⟨most, count⟩ := Int.eq_ofNat_of_zero_le (by omega :
    0 ≤ p.config.pBatchNumMsgs)
  obtain ⟨part, below⟩ := chunks_spec member
  -- The first messages of the chunk and the one that found the request full.
  have window : chunk.take (most + 1) ∈ Greedy.windows p.msgs :=
    Greedy.mem_windows.mpr ((List.take_prefix _ _).isInfix.trans part)
  have full := reached _ window (by rw [List.length_take]; omega)
  have front : (chunk.take (most + 1)).dropLast = chunk.take most := by
    rw [List.dropLast_eq_take, List.length_take, List.take_take]
    congr 1
    omega
  rw [front] at full
  have early := below (chunk.take most) (chunk.drop most)
    (List.take_append_drop _ _)
    (List.ne_nil_of_length_pos (by rw [List.length_take]; omega))
    (List.ne_nil_of_length_pos (by rw [List.length_drop]; omega))
  omega

/-- Every produce frame so far encodes a request with at least one and at most
`pBatchNumMsgs` messages. -/
def WithinBatches (crc32 : Bytes → UInt32) (p : KafkaPartition) : Prop :=
  ∀ buffer ∈ p.frames, ∀ request ∈ buffer.produceRequest,
    buffer = produceBuffer crc32 p.config request ∧
      1 ≤ request.values.length ∧
      (request.values.length : Int) ≤ p.config.pBatchNumMsgs

instance (crc32 : Bytes → UInt32) (p : KafkaPartition) :
    Decidable (p.WithinBatches crc32) :=
  inferInstanceAs (Decidable (∀ buffer ∈ _, ∀ request ∈ _, _ ∧ _ ∧ _))

/-- A step that drains nothing adds no produce request. -/
theorem produceRequest_of_step
    {crc32 : Bytes → UInt32}
    {p q : KafkaPartition}
    {event : Event}
    (stepped : step crc32 p event = .ok q)
    {buffer : WriteBuffer}
    (member : buffer ∈ q.frames) :
    buffer ∈ p.frames ∨ buffer.produceRequest = none ∨
      p.drains event = true ∧ buffer ∈ produceBuffers crc32 p := by
  rcases (step_transition stepped).mem_frames member with
    old | control | rfl | ⟨drains, new⟩ | ⟨-, unreadable⟩
  · exact .inl old
  · exact .inr (.inl (WriteBuffer.isOther_of_isControl control).produceRequest)
  · exact .inr (.inl (fetchBuffer_isOther p).produceRequest)
  · rcases drains with rfl | rfl
    · -- The handler of the produce event drains only what a wakeup announces.
      cases woken : p.produceEvent.handleEvent with
      | mk wakeups source =>
          cases wakeups with
          | none =>
              rw [step, woken] at stepped
              obtain rfl := Except.ok.inj stepped
              exact .inl member
          | some count => exact .inr (.inr ⟨by rw [drains, woken]; rfl, new⟩)
    · exact .inr (.inr ⟨rfl, new⟩)
  · exact .inr (.inl (by rw [WriteBuffer.produceRequest, unreadable]))

theorem WithinBatches.step
    {crc32 : Bytes → UInt32}
    {p q : KafkaPartition}
    {event : Event}
    (positive : 1 ≤ p.config.pBatchNumMsgs)
    (within : p.WithinBatches crc32)
    (fills : p.drains event = true → p.FillsBatches)
    (stepped : step crc32 p event = .ok q) :
    q.WithinBatches crc32 := by
  intro buffer member request encoded
  have sameConfig : q.config = p.config := (step_transition stepped).config
  rw [sameConfig]
  rcases produceRequest_of_step stepped member with old | other | ⟨drains, new⟩
  · exact within buffer old request encoded
  · rw [other] at encoded
    cases encoded
  · rw [produceBuffers_chunks] at new
    obtain ⟨chunk, cut, rfl⟩ := List.mem_map.mp new
    obtain rfl : p.chunkRequest chunk = request := Option.some.inj encoded
    rw [show (p.chunkRequest chunk).values = chunk by simp [chunkRequest]]
    exact ⟨rfl, chunks_within positive (fills drains) cut⟩

/-- In every run of a producer in which the queue is drained only when it fills
batches, every produce frame carries at least one and at most `pBatchNumMsgs`
messages. -/
theorem batches_within
    {crc32 : Bytes → UInt32}
    {start p : KafkaPartition}
    {history : List Event}
    (constructed : ConstructedProducer start)
    (positive : 1 ≤ start.config.pBatchNumMsgs)
    (run : Run (step crc32)
      (fun state event => state.drains event = true → state.FillsBatches)
      start history p) :
    p.WithinBatches crc32 := by
  obtain ⟨fresh, -⟩ := constructed.fresh
  have held : 1 ≤ p.config.pBatchNumMsgs ∧ p.WithinBatches crc32 := by
    apply run.invariant fun _ state =>
      1 ≤ state.config.pBatchNumMsgs ∧ state.WithinBatches crc32
    · refine ⟨positive, fun buffer member request encoded => ?_⟩
      have other := WriteBuffer.isOther_of_isControl
        (fresh.isControl_of_mem_frames member)
      rw [other.produceRequest] at encoded
      cases encoded
    · intro _ state event next invariant fills stepped
      have sameConfig : next.config = state.config := (step_transition stepped).config
      exact ⟨sameConfig ▸ invariant.1, invariant.2.step invariant.1 fills stepped⟩
  exact held.2

/-- The timer drains two messages, the counter one and the timer one more. -/
theorem batches_within_pairs :
    ∃ p, Run (step Crc32.checksum)
        (fun state event => state.drains event = true → state.FillsBatches)
        (sampleProducer { pBatchNumMsgs := 2 })
        [.produceAll [[1], [2]], .batchTimer, .produce [3], .produceEvent,
          .produce [4], .batchTimer] p ∧
      p.writeBuffers.map (fun buffer => buffer.values.length) = [2, 1, 1] ∧
      p.WithinBatches Crc32.checksum := by
  obtain ⟨p, run, counts⟩ := exists_run_of_follow (step Crc32.checksum)
    (fun state event => state.drains event = true → state.FillsBatches)
    (sampleProducer { pBatchNumMsgs := 2 })
    [.produceAll [[1], [2]], .batchTimer, .produce [3], .produceEvent,
      .produce [4], .batchTimer]
    (fun p => p.writeBuffers.map (fun buffer => buffer.values.length) = [2, 1, 1])
    (by decide +kernel)
  exact ⟨p, run, of_decide_eq_true counts,
    batches_within (sampleProducer_started _ (by decide +kernel)).constructed
      (by decide +kernel) run⟩

/-- The batch timer sends a request without messages when nothing is queued.
With `pBatchNumMsgs` at one, a vector of three messages is sent in a single
request. -/
theorem batches_exceeded :
    (∃ p, Run (step Crc32.checksum) (fun _ _ => True) (sampleProducer {})
        [.batchTimer] p ∧
      p.writeBuffers.map WriteBuffer.values = [[]] ∧
      ¬ p.WithinBatches Crc32.checksum) ∧
    ∃ p, Run (step Crc32.checksum) (fun _ _ => True)
        (sampleProducer { pBatchNumMsgs := 1 })
        [.produceAll [[1], [2], [3]], .produceEvent] p ∧
      p.writeBuffers.map WriteBuffer.values = [[[1], [2], [3]]] ∧
      ¬ p.WithinBatches Crc32.checksum := by
  constructor
  · obtain ⟨p, run, checked⟩ := exists_run_of_follow (step Crc32.checksum)
      (fun _ _ => True) (sampleProducer {}) [.batchTimer]
      (fun p => p.writeBuffers.map WriteBuffer.values = [[]] ∧
        ¬ p.WithinBatches Crc32.checksum) (by decide +kernel)
    exact ⟨p, run, of_decide_eq_true checked⟩
  · obtain ⟨p, run, checked⟩ := exists_run_of_follow (step Crc32.checksum)
      (fun _ _ => True) (sampleProducer { pBatchNumMsgs := 1 })
      [.produceAll [[1], [2], [3]], .produceEvent]
      (fun p => p.writeBuffers.map WriteBuffer.values = [[[1], [2], [3]]] ∧
        ¬ p.WithinBatches Crc32.checksum) (by decide +kernel)
    exact ⟨p, run, of_decide_eq_true checked⟩

/-! ## The number of bytes -/

/-- The size of a message set with some values: each takes 26 bytes besides
itself. -/
def encodedSize (values : List Bytes) : Nat :=
  (values.map fun value => 26 + value.length).sum

theorem encodedSize_append (first second : List Bytes) :
    encodedSize (first ++ second) = encodedSize first + encodedSize second := by
  simp [encodedSize]

/-- The message set of the request for a chunk. -/
theorem length_messageSets
    (crc32 : Bytes → UInt32)
    (p : KafkaPartition)
    (chunk : List Bytes) :
    ((p.chunkRequest chunk).messageSets crc32).length = encodedSize chunk := by
  have written : (writeMessageSet crc32
      (chunk.map ProduceRequest.plainMessage)).length = encodedSize chunk := by
    rw [length_writeMessageSet, messageSetWireSize, List.map_map, encodedSize]
    refine congrArg List.sum (List.map_congr_left fun value _ => ?_)
    simp only [Function.comp_apply, ProduceRequest.plainMessage, messageWireSize,
      bytesWireSize]
    omega
  by_cases empty : chunk = []
  · subst empty
    rfl
  · simpa [ProduceRequest.messageSets, chunkRequest, ProduceRequest.withChunk,
      ProduceRequest.chunkTopics, empty] using written

/-- A produce frame carries a single message, or message sets of at most
`cMaxFetchBytes` bytes. -/
def SizeBounded
    (crc32 : Bytes → UInt32)
    (config : KafkaClientConfig)
    (buffer : WriteBuffer) : Prop :=
  ∃ request, buffer = produceBuffer crc32 config request ∧
    (request.values.length = 1 ∨
      ((request.messageSets crc32).length : Int) ≤ config.cMaxFetchBytes)

/-- The frames that `createProduceRequest` adds to the deque carry a single
message each, or message sets of at most `cMaxFetchBytes` bytes. -/
def FramesBounded (crc32 : Bytes → UInt32) (p : KafkaPartition) : Prop :=
  ∃ added, (p.createProduceRequest crc32).writeBuffers = p.writeBuffers ++ added ∧
    ∀ buffer ∈ added, SizeBounded crc32 p.config buffer

/-- Two or more messages in a row take at most `cMaxFetchBytes` bytes if the
estimated size of all but the last is below the limit. -/
def FitsRequests (p : KafkaPartition) : Prop :=
  ∀ window ∈ Greedy.windows p.msgs, 2 ≤ window.length →
    estimatedSize window.dropLast < batchLimit p.config →
      (encodedSize window : Int) ≤ p.config.cMaxFetchBytes

instance (p : KafkaPartition) : Decidable p.FitsRequests :=
  inferInstanceAs (Decidable (∀ window ∈ _, _ → _ → _))

/-- The frame of a chunk is bounded exactly when the chunk is. -/
theorem sizeBounded_chunk_iff
    (crc32 : Bytes → UInt32)
    {p : KafkaPartition}
    (positive : 0 < p.config.cMaxFetchBytes)
    (chunk : List Bytes) :
    SizeBounded crc32 p.config
        (produceBuffer crc32 p.config (p.chunkRequest chunk)) ↔
      chunk.length ≤ 1 ∨ (encodedSize chunk : Int) ≤ p.config.cMaxFetchBytes := by
  have carried : (p.chunkRequest chunk).values = chunk := by simp [chunkRequest]
  constructor
  · rintro ⟨request, same, bounded⟩
    obtain rfl : p.chunkRequest chunk = request := by
      have requests := congrArg WriteBuffer.produceRequest same
      exact Option.some.inj requests
    rw [carried, length_messageSets] at bounded
    exact bounded.imp_left le_of_eq
  · intro bounded
    refine ⟨p.chunkRequest chunk, rfl, ?_⟩
    rw [carried, length_messageSets]
    by_cases empty : chunk = []
    · rw [empty]
      exact .inr positive.le
    · have some := List.length_pos_iff.mpr empty
      exact bounded.imp_left fun atMost => Nat.le_antisymm atMost some

theorem framesBounded_iff
    (crc32 : Bytes → UInt32)
    {p : KafkaPartition}
    (positive : 0 < p.config.cMaxFetchBytes) :
    p.FramesBounded crc32 ↔ ∀ chunk ∈ p.chunks,
      chunk.length ≤ 1 ∨ (encodedSize chunk : Int) ≤ p.config.cMaxFetchBytes := by
  have frames : p.FramesBounded crc32 ↔
      ∀ buffer ∈ produceBuffers crc32 p, SizeBounded crc32 p.config buffer := by
    constructor
    · rintro ⟨added, pushed, bounded⟩
      obtain rfl := List.append_cancel_left pushed
      exact bounded
    · intro bounded
      exact ⟨produceBuffers crc32 p, rfl, bounded⟩
  rw [frames, produceBuffers_chunks, List.forall_mem_map]
  exact forall₂_congr fun chunk _ => sizeBounded_chunk_iff crc32 positive chunk

/-- Parts of a message set are no larger than the whole. -/
theorem encodedSize_mono
    {window chunk : List Bytes}
    (part : window <:+: chunk) :
    encodedSize window ≤ encodedSize chunk := by
  obtain ⟨before, after, rfl⟩ := part
  rw [encodedSize_append, encodedSize_append]
  omega

/-- Without an overflow, fewer messages have a smaller estimate. -/
theorem estimatedSize_mono
    {front back msgs : List Bytes}
    (part : front ++ back <:+: msgs)
    (small : (msgs.map fun msg => msg.length + 10).sum < 2 ^ 64) :
    estimatedSize front ≤ estimatedSize (front ++ back) := by
  obtain ⟨before, after, rfl⟩ := part
  simp only [List.map_append, List.sum_append] at small
  unfold estimatedSize
  rw [List.map_append, List.sum_append, Nat.mod_eq_of_lt (by omega),
    Nat.mod_eq_of_lt (by omega)]
  omega

/-- Messages in a row share a frame if the queue begins with them and the
estimated size of all but the last is below the limit. -/
theorem exists_chunk_of_window
    {p : KafkaPartition}
    {window after : List Bytes}
    (queue : p.msgs = window ++ after)
    (small : (p.msgs.map fun msg => msg.length + 10).sum < 2 ^ 64)
    (some : window ≠ [])
    (below : estimatedSize window.dropLast < batchLimit p.config) :
    ∃ chunk ∈ p.chunks, window <+: chunk := by
  have opened : Greedy.Open (isFullBatch (batchLimit p.config)) addedSize 0
      window := by
    rw [open_iff]
    intro front back whole _ more
    obtain ⟨others, last, rfl⟩ :=
      (List.eq_nil_or_concat' back).resolve_left more
    have dropped : window.dropLast = front ++ others := by
      rw [← whole, ← List.append_assoc, List.dropLast_concat]
    rw [dropped] at below
    refine lt_of_le_of_lt (estimatedSize_mono ?_ small) below
    rw [queue, ← dropped]
    exact (List.dropLast_prefix window).isInfix.trans
      (List.prefix_append _ _).isInfix
  have shared := Greedy.exists_mem_cut_of_window opened some after
  rw [← queue] at shared
  exact shared

theorem FitsRequests.framesBounded
    (crc32 : Bytes → UInt32)
    {p : KafkaPartition}
    (positive : 0 < p.config.cMaxFetchBytes)
    (fits : p.FitsRequests) :
    p.FramesBounded crc32 := by
  rw [framesBounded_iff crc32 positive]
  intro chunk member
  obtain ⟨part, below⟩ := chunks_spec member
  by_cases single : chunk.length ≤ 1
  · exact .inl single
  · obtain ⟨front, last, rfl⟩ := (List.eq_nil_or_concat' chunk).resolve_left
      (by rintro rfl; exact single (Nat.zero_le 1))
    rw [List.length_append, List.length_singleton] at single
    refine .inr (fits _ (Greedy.mem_windows.mpr part) ?_ ?_)
    · rw [List.length_append, List.length_singleton]
      omega
    · rw [List.dropLast_concat]
      exact below front [last] rfl (List.ne_nil_of_length_pos (by omega))
        (List.cons_ne_nil _ _)

/-- Messages in a row that share a frame fit into `cMaxFetchBytes`. -/
theorem FramesBounded.fits
    {crc32 : Bytes → UInt32}
    {p : KafkaPartition}
    (bounded : p.FramesBounded crc32)
    (positive : 0 < p.config.cMaxFetchBytes)
    {window chunk : List Bytes}
    (member : chunk ∈ p.chunks)
    (part : window <:+: chunk)
    (several : 2 ≤ window.length) :
    (encodedSize window : Int) ≤ p.config.cMaxFetchBytes := by
  rw [framesBounded_iff crc32 positive] at bounded
  have longer := part.length_le
  have larger := encodedSize_mono part
  have fits := (bounded chunk member).resolve_left (by omega)
  omega

/-- With `cMaxFetchBytes` below 1024 the limit is out of reach. -/
theorem estimatedSize_lt_batchLimit
    {p : KafkaPartition}
    {front : List Bytes}
    (positive : 0 < p.config.cMaxFetchBytes)
    (below : p.config.cMaxFetchBytes < 1024)
    (part : front <+: p.msgs)
    (small : (p.msgs.map fun msg => msg.length + 10).sum < 2 ^ 64 - 1024) :
    estimatedSize front < batchLimit p.config := by
  obtain ⟨back, whole⟩ := part
  rw [← whole, List.map_append, List.sum_append] at small
  unfold estimatedSize batchLimit wrap
  rw [Nat.mod_eq_of_lt (by omega)]
  omega

/-- Each frame that `createProduceRequest` puts on the deque carries a single
message or message sets of at most `cMaxFetchBytes` bytes, if any messages in a
row fit into `cMaxFetchBytes` unless those before the last reach the limit.  The
condition is exact where `cMaxFetchBytes` is below 1024, so that the whole queue
shares a frame.  Elsewhere it is exact for a queue together with all that may be
left of it: where its frames begin depends on the messages in front. -/
theorem sizes_bounded_iff
    (crc32 : Bytes → UInt32)
    {p : KafkaPartition}
    (positive : 0 < p.config.cMaxFetchBytes) :
    (p.FitsRequests → p.FramesBounded crc32) ∧
      (p.config.cMaxFetchBytes < 1024 →
        (p.msgs.map fun msg => msg.length + 10).sum < 2 ^ 64 - 1024 →
          (p.FramesBounded crc32 ↔ p.FitsRequests)) ∧
      ((p.msgs.map fun msg => msg.length + 10).sum < 2 ^ 64 →
        ((∀ rest, rest <:+ p.msgs →
          FramesBounded crc32 { p with msgs := rest }) ↔ p.FitsRequests)) := by
  refine ⟨FitsRequests.framesBounded crc32 positive, ?_, ?_⟩
  · intro below small
    refine ⟨fun bounded window member several _ => ?_,
      FitsRequests.framesBounded crc32 positive⟩
    have part := Greedy.mem_windows.mp member
    have some : p.msgs ≠ [] := by
      intro empty
      have lengths := part.length_le
      rw [empty] at lengths
      exact absurd (several.trans lengths) (by decide)
    obtain ⟨chunk, inChunks, whole⟩ := exists_chunk_of_window
      (List.append_nil _).symm (by omega) some
      (estimatedSize_lt_batchLimit positive below (List.dropLast_prefix _) small)
    exact bounded.fits positive inChunks (part.trans whole.isInfix) several
  · intro small
    constructor
    · intro bounded window member several below
      obtain ⟨before, after, queue⟩ := Greedy.mem_windows.mp member
      have suffix : window ++ after <:+ p.msgs :=
        ⟨before, by rw [← queue, List.append_assoc]⟩
      have less : ((window ++ after).map fun msg => msg.length + 10).sum < 2 ^ 64 := by
        rw [← queue] at small
        simp only [List.map_append, List.sum_append] at small ⊢
        omega
      obtain ⟨chunk, inChunks, front⟩ := exists_chunk_of_window
        (p := { p with msgs := window ++ after }) rfl less
        (List.ne_nil_of_length_pos (by omega)) below
      exact (bounded _ suffix).fits positive inChunks front.isInfix several
    · intro fits rest suffix
      refine FitsRequests.framesBounded crc32 positive fun window member =>
        fits window ?_
      exact Greedy.mem_windows.mpr
        ((Greedy.mem_windows.mp member).trans suffix.isInfix)

/-- A producer with a queue of messages. -/
def sampleQueue (cMaxFetchBytes : Int) (msgs : List Bytes) : KafkaPartition :=
  { sampleProducer { cMaxFetchBytes } with msgs }

/-- Three messages of 27 bytes, the last of which starts a second frame because
the estimate for the first two has reached the limit. -/
theorem sizes_bounded_iff_cut :
    ((sampleQueue 1046 [[1], [2], [3]]).createProduceRequest Crc32.checksum
        ).writeBuffers.map WriteBuffer.values = [[[1], [2]], [[3]]] ∧
      (sampleQueue 1046 [[1], [2], [3]]).FramesBounded Crc32.checksum := by
  have positive : 0 < (sampleQueue 1046 [[1], [2], [3]]).config.cMaxFetchBytes := by
    decide +kernel
  exact ⟨by decide +kernel,
    (sizes_bounded_iff Crc32.checksum positive).1 (by decide +kernel)⟩

/-- With 60 bytes, the difference to 1024 is negative and becomes a huge limit,
so that three messages share a frame of 81 bytes.  With 2048 bytes, 79 empty
messages are estimated at 790 bytes and take 2054. -/
theorem sizes_exceeded :
    (∃ buffer ∈ ((sampleQueue 60 [[1], [2], [3]]).createProduceRequest
          Crc32.checksum).writeBuffers,
      buffer.values = [[1], [2], [3]] ∧
        ¬ SizeBounded Crc32.checksum (sampleQueue 60 [[1], [2], [3]]).config
          buffer) ∧
    ∃ buffer ∈ ((sampleQueue 2048 (List.replicate 79 [])).createProduceRequest
          Crc32.checksum).writeBuffers,
      buffer.values = List.replicate 79 [] ∧
        ¬ SizeBounded Crc32.checksum
          (sampleQueue 2048 (List.replicate 79 [])).config buffer := by
  have unbounded {p : KafkaPartition} {chunk : List Bytes}
      (positive : 0 < p.config.cMaxFetchBytes)
      (large : ¬ (chunk.length ≤ 1 ∨
        (encodedSize chunk : Int) ≤ p.config.cMaxFetchBytes)) :
      ¬ SizeBounded Crc32.checksum p.config
        (produceBuffer Crc32.checksum p.config (p.chunkRequest chunk)) :=
    fun bounded => large ((sizeBounded_chunk_iff _ positive chunk).mp bounded)
  constructor
  · exact ⟨produceBuffer Crc32.checksum (sampleQueue 60 [[1], [2], [3]]).config
        ((sampleQueue 60 [[1], [2], [3]]).chunkRequest [[1], [2], [3]]),
      by decide +kernel, by decide +kernel,
      unbounded (by decide +kernel) (by decide +kernel)⟩
  · exact ⟨produceBuffer Crc32.checksum
        (sampleQueue 2048 (List.replicate 79 [])).config
        ((sampleQueue 2048 (List.replicate 79 [])).chunkRequest
          (List.replicate 79 [])),
      by decide +kernel, by decide +kernel,
      unbounded (by decide +kernel) (by decide +kernel)⟩

end KafkaPartition
end AsyncKafka
