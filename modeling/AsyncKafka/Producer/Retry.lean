import AsyncKafka.Producer.Link
import Mathlib.Data.List.TakeWhile

/-!
# What is retried after a produce error

A refused request is copied through `c_str()`, which ends at the first zero
byte.  Every produce frame has one among its first six bytes, since the api key
of produce requests is zero and stands right after the size.  So what is put
back is never the request that was refused.
-/

namespace AsyncKafka

open Wire Execution

namespace KafkaPartition

/-- A C string ends before the first zero byte. -/
theorem length_cStr_le (before after : Bytes) :
    (cStr (before ++ 0 :: after)).length ≤ before.length := by
  induction before with
  | nil => simp [cStr]
  | cons byte bytes inductionHypothesis =>
      unfold cStr at inductionHypothesis ⊢
      rw [List.cons_append, List.takeWhile_cons]
      split
      · simpa using inductionHypothesis
      · simp

/-- A copy of a copy is the first copy. -/
theorem iterate_cStr (rounds : Nat) (string : Bytes) :
    cStr^[rounds + 1] string = cStr string := by
  induction rounds with
  | zero => rfl
  | succ rounds inductionHypothesis =>
      rw [Function.iterate_succ_apply', inductionHypothesis]
      exact List.takeWhile_idem

/-- The size is all that can precede the first zero byte of a produce frame. -/
theorem length_cStr_write_le
    (crc32 : Bytes → UInt32)
    (request : ProduceRequest)
    (clientId : Bytes) :
    (cStr (request.write crc32 clientId)).length ≤ 4 := by
  have apiKey : writeInt16 apiKeyProduceRequest = [0, 0] := by decide
  have shape : request.write crc32 clientId =
      writeInt32 (requestWireSize clientId request.requestMessageWireSize) ++
        0 :: (0 :: (writeInt16 0 ++ writeInt32 request.correlationId ++
          writeString clientId ++ request.writeRequestMessage crc32)) := by
    simp [ProduceRequest.write, writeRequest, apiKey]
  rw [shape]
  exact (length_cStr_le _ _).trans (by simp)

/-- A frame is longer than its size field. -/
theorem four_lt_length_write
    (crc32 : Bytes → UInt32)
    (request : ProduceRequest)
    (clientId : Bytes) :
    4 < (request.write crc32 clientId).length := by
  simp only [ProduceRequest.write, writeRequest, List.length_append,
    length_writeInt32, length_writeInt16]
  omega

/-- No number of copies restores a produce frame. -/
theorem iterate_cStr_write_ne
    (crc32 : Bytes → UInt32)
    (request : ProduceRequest)
    (clientId : Bytes)
    (rounds : Nat) :
    cStr^[rounds + 1] (request.write crc32 clientId) ≠
      request.write crc32 clientId := by
  intro same
  have short := length_cStr_write_le crc32 request clientId
  have long := four_lt_length_write crc32 request clientId
  rw [iterate_cStr] at same
  rw [same] at short
  omega

/-- The bytes that stand for a frame in the deque after so many rounds of being
written, refused and put back. -/
inductive RetriedAs (frame : Bytes) : Nat → Bytes → Prop
  | first : RetriedAs frame 0 frame
  | refused
      {rounds : Nat}
      {bytes payload : Bytes}
      {rest : List Bytes}
      {surroundings : Surroundings}
      {response : ProduceResponse}
      {ec : Int}
      {p q : KafkaPartition}
      {entry : WriteBuffer} :
      RetriedAs frame rounds bytes →
      p.inTransitProduceRequest = bytes :: rest →
      readProduceResponse payload = .ok (response, ec) →
      ec ≠ 0 →
      p.handleProduceResponse payload surroundings = .ok q →
      q.writeBuffers = p.writeBuffers ++ [entry] →
      RetriedAs frame (rounds + 1) entry.second

/-- A refused request is put back at the end of the deque as a C string. -/
theorem handleProduceResponse_putsBack
    {p q : KafkaPartition}
    {bytes payload : Bytes}
    {rest : List Bytes}
    {surroundings : Surroundings}
    {response : ProduceResponse}
    {ec : Int}
    (front : p.inTransitProduceRequest = bytes :: rest)
    (readOk : readProduceResponse payload = .ok (response, ec))
    (erroneous : ec ≠ 0)
    (returned : p.handleProduceResponse payload surroundings = .ok q) :
    q.writeBuffers = p.writeBuffers ++
      [{ first := apiKeyProduceRequest, second := cStr bytes, request := none }] := by
  obtain ⟨req, later, effects, middle, transit, -, -, rfl⟩ :=
    handleProduceResponse_error readOk erroneous returned
  obtain ⟨rfl, -⟩ := List.cons.inj (front.symm.trans transit)
  rfl

/-- Each round copies the bytes once more. -/
theorem RetriedAs.eq_iterate
    {frame bytes : Bytes}
    {rounds : Nat}
    (retried : RetriedAs frame rounds bytes) :
    bytes = cStr^[rounds] frame := by
  induction retried with
  | first => rfl
  | refused _ front readOk erroneous returned added inductionHypothesis =>
      rw [handleProduceResponse_putsBack front readOk erroneous returned]
        at added
      obtain ⟨rfl⟩ := List.cons.inj (List.append_cancel_left added)
      rw [Function.iterate_succ_apply', ← inductionHypothesis]

/-- Whatever messages a frame was built from, when it is at the front of the
requests in transit and is answered with an error, the entry that is put back
differs from it, and no round of error and retry restores it. -/
theorem retry_never_unchanged
    {crc32 : Bytes → UInt32}
    {builder p q : KafkaPartition}
    {frame : WriteBuffer}
    {rest : List Bytes}
    {payload : Bytes}
    {surroundings : Surroundings}
    {response : ProduceResponse}
    {ec : Int}
    (built : frame ∈ (builder.createProduceRequest crc32).writeBuffers.drop
      builder.writeBuffers.length)
    (front : p.inTransitProduceRequest = frame.second :: rest)
    (readOk : readProduceResponse payload = .ok (response, ec))
    (erroneous : ec ≠ 0)
    (returned : p.handleProduceResponse payload surroundings = .ok q) :
    (∃ entry, q.writeBuffers = p.writeBuffers ++ [entry] ∧
      entry.second ≠ frame.second) ∧
    ∀ rounds bytes, RetriedAs frame.second (rounds + 1) bytes →
      bytes ≠ frame.second := by
  obtain ⟨chunks, buffers, -⟩ := produceBuffers_eq crc32 builder
  have among : frame ∈ produceBuffers crc32 builder := by
    simpa [createProduceRequest, registerSocket] using built
  rw [buffers, List.mem_map] at among
  obtain ⟨chunk, -, rfl⟩ := among
  have unrestored := iterate_cStr_write_ne crc32 (builder.chunkRequest chunk)
    builder.config.clientId
  constructor
  · exact ⟨_, handleProduceResponse_putsBack front readOk erroneous returned,
      unrestored 0⟩
  · intro rounds bytes retried
    rw [retried.eq_iterate]
    exact unrestored rounds

/-- The response that refuses a request for the topic `t` with a timeout. -/
def sampleRefusal : Bytes :=
  [0, 0, 0, 0, 0, 0, 0, 1, 0, 1, 116, 0, 0, 0, 1, 0, 0, 0, 0, 0, 7,
    0, 0, 0, 0, 0, 0, 0, 0]

/-- The frame of the message `h`. -/
def sampleFrame : WriteBuffer :=
  produceBuffer Crc32.checksum {}
    ((blankProduceRequest {}).withChunk [116] 0 [[104]])

/-- The producer with that frame in transit. -/
def sampleWritten : KafkaPartition :=
  { sampleProducer {} with inTransitProduceRequest := [sampleFrame.second] }

/-- The frame of one message is refused once. -/
theorem retry_never_unchanged_timeout :
    ∃ q, sampleWritten.handleProduceResponse sampleRefusal {} = .ok q ∧
      ∃ entry, q.writeBuffers = sampleWritten.writeBuffers ++ [entry] ∧
        entry.second ≠ sampleFrame.second := by
  have built : sampleFrame ∈
      ({ sampleProducer {} with msgs := [[104]] }.createProduceRequest
        Crc32.checksum).writeBuffers.drop
          { sampleProducer {} with msgs := [[104]] }.writeBuffers.length := by
    decide +kernel
  have readOk : readProduceResponse sampleRefusal =
      .ok (⟨[⟨[116], [{ partition := 0, errorCode := 7, offset := 0 }]⟩]⟩, 7) :=
    rfl
  have front : sampleWritten.inTransitProduceRequest =
      sampleFrame.second :: [] := rfl
  cases returned : sampleWritten.handleProduceResponse sampleRefusal {} with
  | error halt => cases returned
  | ok q =>
      exact ⟨q, rfl,
        (retry_never_unchanged built front readOk (by decide) returned).1⟩

/-- The message `h` is accepted, drained, written and refused.  The deque then
holds a single entry, which is not the frame that was written. -/
theorem refused_frame_cut :
    ∃ p, StartedProducer (sampleProducer {}) ∧
      Run (step Crc32.checksum) (fun _ _ => True) (sampleProducer {})
        [.produce [104], .batchTimer, .writeReady .written,
          .readReady (.payload sampleRefusal) {}] p ∧
      (p.handedFrames.filter WriteBuffer.isProduce).map WriteBuffer.second =
        [sampleFrame.second] ∧
      p.writeBuffers.length = 1 ∧
      p.writeBuffers.map WriteBuffer.second ≠ [sampleFrame.second] := by
  obtain ⟨p, run, cut⟩ := exists_run_of_follow (step Crc32.checksum)
    (fun _ _ => True) (sampleProducer {})
    [.produce [104], .batchTimer, .writeReady .written,
      .readReady (.payload sampleRefusal) {}]
    (fun p =>
      (p.handedFrames.filter WriteBuffer.isProduce).map WriteBuffer.second =
        [sampleFrame.second] ∧
      p.writeBuffers.length = 1 ∧
      p.writeBuffers.map WriteBuffer.second ≠ [sampleFrame.second])
    (by decide +kernel)
  exact ⟨p, sampleProducer_started _ (by decide +kernel), run, of_decide_eq_true cut⟩

end KafkaPartition
end AsyncKafka
