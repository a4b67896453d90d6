import AsyncKafka.Wire.Response

/-!
# What a malformed response can do

The decoders read into zeroed buffers and do not look at the state of the
stream, so they go on after its end.  The only way in which they stop is an
exception of the allocator.  A message set does not even do that: whatever its
bytes are, messages are made of them.
-/

namespace AsyncKafka
namespace Wire

open StreamReader ByteOrder

/-- The exception that resizing a vector throws. -/
abbrev isAllocationFailure (halt : Halt) : Prop := halt = .uncaughtException

theorem readInt_failsOnly (width : Nat) :
    (readInt width).FailsOnly isAllocationFailure :=
  .bind (.block width _) fun _ => .pure _ _

theorem readString_failsOnly : readString.FailsOnly isAllocationFailure :=
  .bind (readInt_failsOnly 2) fun _ => .ite (.block _ _) (.pure _ _)

theorem readBytes_failsOnly : readBytes.FailsOnly isAllocationFailure :=
  .bind (readInt_failsOnly 4) fun _ =>
    .ite (.bind (.block _ _) fun _ => .pure _ _) (.pure _ _)

theorem readArrayLength_failsOnly :
    readArrayLength.FailsOnly isAllocationFailure :=
  .bind (readInt_failsOnly 4) fun _ => .ite (.fail rfl) (.pure _ _)

theorem readPartitions_failsOnly
    {readPartition : Reader (π × Int)}
    (reads : readPartition.FailsOnly isAllocationFailure)
    (blank : π)
    (count : Nat) :
    (readPartitions readPartition blank count).FailsOnly
      isAllocationFailure := by
  induction count with
  | zero => exact .pure _ _
  | succ count inductionHypothesis =>
      refine .bind reads fun result => .ite (.pure _ _) ?_
      exact .bind inductionHypothesis fun _ => .pure _ _

theorem readTopics_failsOnly
    {readPartition : Reader (π × Int)}
    (reads : readPartition.FailsOnly isAllocationFailure)
    (blank : π)
    (count : Nat) :
    (readTopics readPartition blank count).FailsOnly isAllocationFailure := by
  induction count with
  | zero => exact .pure _ _
  | succ count inductionHypothesis =>
      refine .bind readString_failsOnly fun topicName => ?_
      refine .bind readArrayLength_failsOnly fun partitionCount => ?_
      refine .bind (readPartitions_failsOnly reads blank _) fun result => ?_
      refine .ite (.pure _ _) ?_
      exact .bind inductionHypothesis fun _ => .pure _ _

theorem readTopicArray_failsOnly
    {readPartition : Reader (π × Int)}
    (reads : readPartition.FailsOnly isAllocationFailure)
    (blank : π) :
    (readTopicArray readPartition blank).FailsOnly isAllocationFailure :=
  .bind readArrayLength_failsOnly (readTopics_failsOnly reads blank)

theorem readMany_failsOnly
    {readOne : Reader α}
    (reads : readOne.FailsOnly isAllocationFailure)
    (count : Nat) :
    (readMany readOne count).FailsOnly isAllocationFailure := by
  induction count with
  | zero => exact .pure _ _
  | succ count inductionHypothesis =>
      exact .bind reads fun _ => .bind inductionHypothesis fun _ => .pure _ _

theorem readMessage_failsOnly : readMessage.FailsOnly isAllocationFailure := by
  refine .bind (readInt_failsOnly 4) fun _ => ?_
  refine .bind (readInt_failsOnly 1) fun _ => ?_
  refine .bind (readInt_failsOnly 1) fun _ => ?_
  exact .bind readBytes_failsOnly fun _ =>
    .bind readBytes_failsOnly fun _ => .pure _ _

theorem readMessageSetLoop_failsOnly
    (buffer : Bytes)
    (size fuel readCount : Nat) :
    (readMessageSetLoop buffer size fuel readCount).FailsOnly
      isAllocationFailure := by
  induction fuel generalizing readCount with
  | zero => exact .fail rfl
  | succ fuel inductionHypothesis =>
      refine .ite ?_ (.pure _ _)
      refine .bind (readInt_failsOnly 8) fun offset => ?_
      refine .bind (readInt_failsOnly 4) fun messageSize => .ite ?_ ?_
      · refine .bind ?_ fun _ => .pure _ _
        intro stream error failed
        cases failed
      · refine .bind readMessage_failsOnly fun message => ?_
        exact .bind (inductionHypothesis _) fun _ => .pure _ _

theorem readMessageSet_failsOnly (buffer : Bytes) (size : Nat) :
    (readMessageSet buffer size).FailsOnly isAllocationFailure := by
  refine .bind ?_ fun stream => readMessageSetLoop_failsOnly buffer size _ 0
  intro stream error failed
  cases failed

/-- Whatever the stream holds, a byte array is made of it. -/
theorem exists_readBytes (stream : ByteStream) :
    ∃ bytes later, readBytes stream = .ok (bytes, later) ∧
      later.unread ≤ stream.unread := by
  have sizeRead := stream.unread_fill_le 4
  unfold readBytes readInt32
  rw [bind_of_eq (readInt_apply 4 stream)]
  split
  · have bytesRead := (stream.fill 4).2.unread_fill_le
      (readSigned (stream.fill 4).1).toNat
    exact ⟨_, _, rfl, le_trans bytesRead (by omega)⟩
  · exact ⟨_, _, rfl, le_trans sizeRead (by omega)⟩

/-- Whatever the stream holds, a message is made of it. -/
theorem exists_readMessage (stream : ByteStream) :
    ∃ message later, readMessage stream = .ok (message, later) ∧
      later.unread ≤ stream.unread := by
  have crcRead := stream.unread_fill_le 4
  have magicByteRead := (stream.fill 4).2.unread_fill_le 1
  have attributesRead := ((stream.fill 4).2.fill 1).2.unread_fill_le 1
  unfold readMessage readInt32 readInt8
  rw [bind_of_eq (readInt_apply 4 stream), bind_of_eq (readInt_apply 1 _),
    bind_of_eq (readInt_apply 1 _)]
  obtain ⟨key, afterKey, keyRead, keyLeft⟩ := exists_readBytes
    (((stream.fill 4).2.fill 1).2.fill 1).2
  obtain ⟨value, afterValue, valueRead, valueLeft⟩ := exists_readBytes afterKey
  rw [bind_of_eq keyRead, bind_of_eq valueRead]
  exact ⟨_, _, rfl, by omega⟩

/-- What is left to do for the loop of `ReadMessageSet`: to use up the stream
and then, as every size is read as zero, to count up to the size of the set. -/
def iterations (size readCount : Nat) (stream : ByteStream) : Nat :=
  stream.unread + if stream.unread = 0 then size - readCount else size

/-- An iteration has less left to do. -/
theorem iterations_lt
    {size readCount : Nat}
    {stream later : ByteStream}
    (more : readCount < size)
    (addressable : size + 12 ≤ 2 ^ 64)
    (left : later.unread ≤ ((stream.fill 8).2.fill 4).2.unread) :
    iterations size
        ((readCount + 12 + readSigned ((stream.fill 8).2.fill 4).1) %
          2 ^ 64).toNat later <
      iterations size readCount stream := by
  have offsetRead := stream.unread_fill_le 8
  have sizeRead := (stream.fill 8).2.unread_fill_le 4
  unfold iterations
  by_cases exhausted : stream.unread = 0
  · -- Both integers are zeros: the count goes up by their width.
    have later_exhausted : later.unread = 0 := by omega
    have announced : readSigned ((stream.fill 8).2.fill 4).1 = 0 := by
      rw [ByteStream.fill_of_unread_eq_zero exhausted 8,
        ByteStream.fill_of_unread_eq_zero exhausted 4]
      exact readSigned_replicate_zero (by decide)
    rw [if_pos exhausted, if_pos later_exhausted, announced]
    omega
  · rw [if_neg exhausted]
    split <;> omega

/-- The loop reads whatever there is. -/
theorem exists_readMessageSetLoop
    (buffer : Bytes)
    {size : Nat}
    (addressable : size + 12 ≤ 2 ^ 64)
    {fuel readCount : Nat}
    {stream : ByteStream}
    (enough : iterations size readCount stream < fuel) :
    ∃ messages later, readMessageSetLoop buffer size fuel readCount stream =
      .ok (messages, later) := by
  induction fuel generalizing readCount stream with
  | zero => exact absurd enough (Nat.not_lt_zero _)
  | succ fuel inductionHypothesis =>
      rw [readMessageSetLoop]
      by_cases more : readCount < size
      · unfold readInt64 readInt32
        rw [if_pos more, bind_of_eq (readInt_apply 8 stream),
          bind_of_eq (readInt_apply 4 _)]
        by_cases partialMessage : wrap 32 ((size - readCount : Nat) : Int) <
            readSigned ((stream.fill 8).2.fill 4).1
        · rw [if_pos partialMessage]
          exact ⟨_, _, rfl⟩
        · rw [if_neg partialMessage]
          obtain ⟨message, afterMessage, messageRead, left⟩ :=
            exists_readMessage ((stream.fill 8).2.fill 4).2
          have less := iterations_lt more addressable left
          obtain ⟨messages, later, read⟩ :=
            inductionHypothesis (Nat.lt_of_lt_of_le less (Nat.le_of_lt_succ enough))
          rw [bind_of_eq messageRead, bind_of_eq read]
          exact ⟨_, _, rfl⟩
      · rw [if_neg more]
        exact ⟨_, _, rfl⟩

/-- A message set is read, whatever its bytes are. -/
theorem exists_readMessageSet
    (buffer : Bytes)
    {size : Nat}
    (addressable : size + 12 ≤ 2 ^ 64)
    (stream : ByteStream) :
    ∃ messages later, readMessageSet buffer size stream =
      .ok (messages, later) := by
  have enough : iterations size 0 stream < stream.rest.length + size + 2 := by
    unfold iterations ByteStream.unread
    split <;> split <;> omega
  exact exists_readMessageSetLoop buffer addressable enough

theorem readResponse_failsOnly
    {readResponseMessage : Reader α}
    (reads : readResponseMessage.FailsOnly isAllocationFailure)
    {payload : Bytes}
    {halt : Halt}
    (failed : readResponse readResponseMessage payload = .error halt) :
    halt = .uncaughtException := by
  have whole : (do let _correlationId ← readInt32
                   readResponseMessage : Reader α).FailsOnly
      isAllocationFailure :=
    .bind (readInt_failsOnly 4) fun _ => reads
  unfold readResponse at failed
  cases inner : (do let _correlationId ← readInt32
                    readResponseMessage : Reader α) ⟨payload, false⟩ with
  | error other =>
      rw [inner] at failed
      obtain rfl := Except.error.inj failed
      exact whole _ _ inner
  | ok result =>
      rw [inner] at failed
      cases failed

/-- A result that is only repackaged fails as it did. -/
theorem map_failsOnly
    {result : Except Halt α}
    {repackage : α → β}
    {halt : Halt}
    (fails : ∀ other, result = .error other → other = .uncaughtException)
    (failed : result.map repackage = .error halt) :
    halt = .uncaughtException := by
  cases result with
  | error other =>
      obtain rfl := Except.error.inj failed
      exact fails other rfl
  | ok value => cases failed

theorem readProduceResponse_failsOnly
    {payload : Bytes}
    {halt : Halt}
    (failed : readProduceResponse payload = .error halt) :
    halt = .uncaughtException := by
  have reads : readProduceResponsePartition.FailsOnly isAllocationFailure := by
    refine .bind (readInt_failsOnly 4) fun _ => ?_
    refine .bind (readInt_failsOnly 2) fun _ => ?_
    exact .bind (readInt_failsOnly 8) fun _ => .pure _ _
  exact map_failsOnly
    (fun _ => readResponse_failsOnly (readTopicArray_failsOnly reads {})) failed

theorem readFetchResponse_failsOnly
    {payload : Bytes}
    {halt : Halt}
    (failed : readFetchResponse payload = .error halt) :
    halt = .uncaughtException := by
  have reads : (readFetchResponsePartition payload).FailsOnly
      isAllocationFailure := by
    refine .bind (readInt_failsOnly 4) fun _ => ?_
    refine .bind (readInt_failsOnly 2) fun _ => ?_
    refine .bind (readInt_failsOnly 8) fun _ => .ite (.pure _ _) ?_
    refine .bind (readInt_failsOnly 4) fun size => ?_
    exact .bind (readMessageSet_failsOnly payload _) fun _ => .pure _ _
  exact map_failsOnly
    (fun _ => readResponse_failsOnly (readTopicArray_failsOnly reads {})) failed

theorem readOffsetResponse_failsOnly
    {payload : Bytes}
    {halt : Halt}
    (failed : readOffsetResponse payload = .error halt) :
    halt = .uncaughtException := by
  have reads : readOffsetResponsePartition.FailsOnly isAllocationFailure := by
    refine .bind (readInt_failsOnly 4) fun _ => ?_
    refine .bind (readInt_failsOnly 2) fun _ => .ite (.pure _ _) ?_
    refine .bind (readInt_failsOnly 4) fun size => ?_
    exact .bind (readMany_failsOnly (readInt_failsOnly 8) _) fun _ => .pure _ _
  exact map_failsOnly
    (fun _ => readResponse_failsOnly (readTopicArray_failsOnly reads {})) failed

theorem readMetadataBrokers_failsOnly (count : Nat) :
    (readMetadataBrokers count).FailsOnly isAllocationFailure := by
  induction count with
  | zero => exact .pure _ _
  | succ count inductionHypothesis =>
      refine .bind (readInt_failsOnly 4) fun _ => ?_
      refine .bind readString_failsOnly fun _ => ?_
      refine .bind (readInt_failsOnly 4) fun _ => ?_
      exact .bind inductionHypothesis fun _ => .pure _ _

theorem readMetadataPartitions_failsOnly (count : Nat) :
    (readMetadataPartitions count).FailsOnly isAllocationFailure := by
  induction count with
  | zero => exact .pure _ _
  | succ count inductionHypothesis =>
      refine .bind (readInt_failsOnly 2) fun _ => ?_
      refine .bind (readInt_failsOnly 4) fun _ => ?_
      refine .bind (readInt_failsOnly 4) fun _ => ?_
      refine .bind (readInt_failsOnly 4) fun _ => ?_
      refine .bind (readMany_failsOnly (readInt_failsOnly 4) _) fun _ => ?_
      refine .bind (readInt_failsOnly 4) fun _ => ?_
      refine .bind (readMany_failsOnly (readInt_failsOnly 4) _) fun _ => ?_
      exact .bind inductionHypothesis fun _ => .pure _ _

theorem readMetadataTopics_failsOnly (count : Nat) :
    (readMetadataTopics count).FailsOnly isAllocationFailure := by
  induction count with
  | zero => exact .pure _ _
  | succ count inductionHypothesis =>
      refine .bind (readInt_failsOnly 2) fun _ => ?_
      refine .bind readString_failsOnly fun _ => ?_
      refine .bind readArrayLength_failsOnly fun _ => ?_
      refine .bind (readMetadataPartitions_failsOnly _) fun _ => ?_
      exact .bind inductionHypothesis fun _ => .pure _ _

theorem readMetadataResponse_failsOnly
    {payload : Bytes}
    {halt : Halt}
    (failed : readMetadataResponse payload = .error halt) :
    halt = .uncaughtException := by
  have reads : readMetadataResponseMessage.FailsOnly isAllocationFailure := by
    refine .bind readArrayLength_failsOnly fun _ => ?_
    refine .bind (readMetadataBrokers_failsOnly _) fun _ => ?_
    refine .bind readArrayLength_failsOnly fun _ => ?_
    exact .bind (readMetadataTopics_failsOnly _) fun _ => .pure _ _
  exact map_failsOnly (fun _ => readResponse_failsOnly reads) failed

end Wire
end AsyncKafka
