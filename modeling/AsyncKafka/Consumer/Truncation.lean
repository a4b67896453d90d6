import AsyncKafka.Partition.Start
import AsyncKafka.Wire.Broker
import AsyncKafka.Wire.Failures

/-!
# Message sets cut short

A broker cuts a message set at `max_bytes`, wherever that falls.  The
partial-message test of `ReadMessageSet` compares the bytes left, offset and
size field included, with the announced size, and no read looks at the failure
bit of the stream.  Most cuts are ignored as they should be; the others make a
message out of the fragment and move the next offset past it.
-/

namespace AsyncKafka

open Wire ByteOrder

namespace Broker

/-- The messages that lie wholly inside a prefix of their message set. -/
def complete : List LogMessage → Nat → List LogMessage
  | [], _ => []
  | message :: messages, cut =>
      if message.wireSize ≤ cut then
        message :: complete messages (cut - message.wireSize)
      else []

/-- The message that a cut falls into, with the number of its bytes that are
there. -/
def cutMessage : List LogMessage → Nat → Option (LogMessage × Nat)
  | [], _ => none
  | message :: messages, cut =>
      if message.wireSize ≤ cut then
        cutMessage messages (cut - message.wireSize)
      else some (message, cut)

/-- The offset after the last of some messages. -/
def nextAfter (next : Int) (messages : List LogMessage) : Int :=
  (messages.getLast?.map fun message => message.offset + 1).getD next

/-- Offsets increase and none is below the given one. -/
def Ascending : Int → List LogMessage → Prop
  | _, [] => True
  | next, message :: messages =>
      next ≤ message.offset ∧ Ascending (message.offset + 1) messages

@[simp] theorem nextAfter_cons
    (next : Int)
    (message : LogMessage)
    (messages : List LogMessage) :
    nextAfter next (message :: messages) =
      nextAfter (message.offset + 1) messages := by
  cases messages with
  | nil => rfl
  | cons second messages =>
      simp only [nextAfter, List.getLast?_cons_cons, List.getLast?_eq_some_getLast
        (List.cons_ne_nil second messages), Option.map_some, Option.getD_some]

/-- A prefix of a message set consists of the complete messages and of what is
there of the message that the cut falls into. -/
theorem take_messageSet (messages : List LogMessage) (cut : Nat) :
    (messageSet messages).take cut = messageSet (complete messages cut) ++
      (cutMessage messages cut).elim [] fun (message, present) =>
        message.encode.take present := by
  induction messages generalizing cut with
  | nil => simp [messageSet, complete, cutMessage]
  | cons message messages inductionHypothesis =>
      have split : messageSet (message :: messages) =
          message.encode ++ messageSet messages := rfl
      by_cases inside : message.wireSize ≤ cut
      · have whole : message.encode.take cut = message.encode :=
          List.take_of_length_le (by simpa using inside)
        rw [split, List.take_append, whole, LogMessage.length_encode,
          inductionHypothesis, complete, cutMessage, if_pos inside,
          if_pos inside, ← List.append_assoc]
        rfl
      · have outside : cut - message.encode.length = 0 := by
          rw [LogMessage.length_encode]
          omega
        rw [split, List.take_append, outside, complete, cutMessage,
          if_neg inside, if_neg inside]
        simp [messageSet]

theorem mem_of_mem_complete
    {messages : List LogMessage}
    {cut : Nat}
    {message : LogMessage}
    (member : message ∈ complete messages cut) :
    message ∈ messages := by
  induction messages generalizing cut with
  | nil => exact member
  | cons first messages inductionHypothesis =>
      unfold complete at member
      split at member
      · rcases List.mem_cons.mp member with rfl | later
        · exact List.mem_cons_self
        · exact List.mem_cons_of_mem _ (inductionHypothesis later)
      · simp at member

theorem ascending_complete
    {messages : List LogMessage}
    {next : Int}
    (ascending : Ascending next messages)
    (cut : Nat) :
    Ascending next (complete messages cut) := by
  induction messages generalizing next cut with
  | nil => trivial
  | cons message messages inductionHypothesis =>
      unfold complete
      split
      · exact ⟨ascending.1, inductionHypothesis ascending.2 _⟩
      · trivial

/-- The message that a cut falls into comes after the complete ones. -/
theorem cutMessage_spec
    {messages : List LogMessage}
    {cut present : Nat}
    {next : Int}
    {message : LogMessage}
    (ascending : Ascending next messages)
    (found : cutMessage messages cut = some (message, present)) :
    message ∈ messages ∧ present < message.wireSize ∧
      nextAfter next (complete messages cut) ≤ message.offset := by
  induction messages generalizing cut next with
  | nil => cases found
  | cons first messages inductionHypothesis =>
      unfold cutMessage at found
      unfold complete
      split at found
      · obtain ⟨member, incomplete, later⟩ :=
          inductionHypothesis ascending.2 found
        rw [if_pos (by assumption), nextAfter_cons]
        exact ⟨List.mem_cons_of_mem _ member, incomplete, later⟩
      · obtain ⟨rfl, rfl⟩ := Prod.mk.inj (Option.some.inj found)
        rw [if_neg (by assumption)]
        exact ⟨List.mem_cons_self, by omega, ascending.1⟩

/-- The fragment of a message is passed over: nothing is there; or the bytes
present of the offset, completed by zeros, stay below the next offset; or those
of the size already announce more than is there; or the message itself is
larger than the whole fragment. -/
def FragmentIgnored
    (next : Int)
    (message : LogMessage)
    (present : Nat) : Prop :=
  present = 0 ∨
  present < 8 ∧
    message.offset / 256 ^ (8 - present) * 256 ^ (8 - present) < next ∨
  8 ≤ present ∧ present < 12 ∧ 256 ^ (12 - present) ≤ message.body.length ∨
  12 ≤ present ∧ present < message.body.length

/-- The cut leaves no fragment that would be taken for a message. -/
def CleanCut
    (next : Int)
    (messages : List LogMessage)
    (cut : Nat) : Prop :=
  ∀ fragment ∈ cutMessage messages cut,
    FragmentIgnored (nextAfter next (complete messages cut))
      fragment.1 fragment.2

instance (next : Int) (message : LogMessage) (present : Nat) :
    Decidable (FragmentIgnored next message present) :=
  inferInstanceAs (Decidable (_ ∨ _))

instance (next : Int) (messages : List LogMessage) (cut : Nat) :
    Decidable (CleanCut next messages cut) :=
  inferInstanceAs (Decidable (∀ fragment ∈ cutMessage messages cut, _))

end Broker

namespace KafkaPartition

open Broker

/-! ## Reading a fragment -/

/-- What the loop takes for the offset of the next message. -/
def offsetAhead (stream : ByteStream) : Int := readSigned (stream.fill 8).1

theorem le_offsetAhead (stream : ByteStream) :
    -(2 ^ 63) ≤ offsetAhead stream := by
  have lower := le_wrap (8 * (stream.fill 8).1.length)
    (ofBigEndian (stream.fill 8).1)
  rw [ByteStream.length_fill] at lower
  rw [offsetAhead, readSigned, ByteStream.length_fill]
  exact lower

/-- What the loop takes for the size of the next message. -/
def sizeAhead (stream : ByteStream) : Int :=
  readSigned ((stream.fill 8).2.fill 4).1

/-- The last iteration of the loop: the rest of the stream is passed over when
it is smaller than the size announced, and taken for a message otherwise. -/
theorem readMessageSetLoop_last
    (buffer : Bytes)
    {size readCount : Nat}
    {stream : ByteStream}
    (more : readCount < size)
    (sizeShort : size < 2 ^ 31)
    (announced : 0 ≤ sizeAhead stream)
    (bounded : sizeAhead stream < 2 ^ 31)
    (last : (size : Int) ≤ readCount + 12 + sizeAhead stream)
    (fuel : Nat) :
    ∃ tail later, readMessageSetLoop buffer size (fuel + 2) readCount stream =
        .ok (tail, later) ∧
      if ((size - readCount : Nat) : Int) < sizeAhead stream then tail = []
      else ∃ message : Message,
        tail = [{ message with offset := offsetAhead stream }] := by
  have unread : wrap 32 ((size - readCount : Nat) : Int) =
      ((size - readCount : Nat) : Int) :=
    wrap_of_range (by decide) (by omega) (by omega)
  have sizeRead :
      readSigned ((stream.fill 8).2.fill 4).1 = sizeAhead stream := rfl
  rw [readMessageSetLoop, if_pos more]
  unfold readInt64 readInt32
  rw [StreamReader.bind_of_eq (readInt_apply 8 stream),
    StreamReader.bind_of_eq (readInt_apply 4 _), unread, sizeRead]
  by_cases larger : ((size - readCount : Nat) : Int) < sizeAhead stream
  · simp only [if_pos larger]
    exact ⟨[], _, rfl, rfl⟩
  · simp only [if_neg larger]
    obtain ⟨message, later, read, -⟩ :=
      exists_readMessage ((stream.fill 8).2.fill 4).2
    have advanced : size ≤
        ((readCount + 12 + sizeAhead stream) % 2 ^ 64).toNat := by
      omega
    rw [StreamReader.bind_of_eq read, StreamReader.bind_of_eq
      (readMessageSetLoop_done buffer advanced fuel later)]
    exact ⟨_, _, rfl, message, rfl⟩

/-- The fragment ends in the offset: what is missing of it is taken for zeros,
and so is the size. -/
theorem ahead_of_cut_offset
    {message : LogMessage}
    (valid : message.Valid)
    {present : Nat}
    (some : 0 < present)
    (inOffset : present < 8) :
    offsetAhead ⟨message.encode.take present, false⟩ =
        message.offset / 256 ^ (8 - present) * 256 ^ (8 - present) ∧
      sizeAhead ⟨message.encode.take present, false⟩ = 0 := by
  obtain ⟨-, lower, upper⟩ := valid
  have fragment : message.encode.take present =
      (writeInt64 message.offset).take present := by
    rw [LogMessage.encode, List.append_assoc,
      List.take_append_of_le_length (by simp; omega)]
  have length : ((writeInt64 message.offset).take present).length = present := by
    rw [List.length_take, length_writeInt64]
    omega
  have filled := ByteStream.fill_short
    (show ((writeInt64 message.offset).take present).length < 8 by omega)
  rw [length] at filled
  constructor
  · rw [offsetAhead, fragment, filled]
    exact readSigned_truncated some (by omega) lower (by omega)
  · rw [sizeAhead, fragment, filled, ByteStream.fill_failed]
    exact readSigned_replicate_zero (by decide)

/-- The fragment ends in the size: what is missing of it is taken for zeros. -/
theorem ahead_of_cut_size
    {message : LogMessage}
    (valid : message.Valid)
    {present : Nat}
    (behindOffset : 8 ≤ present)
    (inSize : present < 12) :
    offsetAhead ⟨message.encode.take present, false⟩ = message.offset ∧
      sizeAhead ⟨message.encode.take present, false⟩ =
        message.body.length / 256 ^ (12 - present) * 256 ^ (12 - present) := by
  obtain ⟨short, lower, upper⟩ := valid
  obtain ⟨count, rfl⟩ : ∃ count, present = 8 + count := ⟨present - 8, by omega⟩
  have fragment : message.encode.take (8 + count) =
      writeInt64 message.offset ++
        (writeInt32 message.body.length).take count := by
    rw [LogMessage.encode, List.append_assoc, List.take_append,
      List.take_of_length_le (by simp), length_writeInt64,
      List.take_append_of_le_length (by simp; omega)]
    congr 2
    omega
  have length : ((writeInt32 message.body.length).take count).length = count := by
    rw [List.length_take, length_writeInt32]
    omega
  have filled := ByteStream.fill_short
    (show ((writeInt32 message.body.length).take count).length < 4 by omega)
  rw [length] at filled
  constructor
  · rw [offsetAhead, fragment, ByteStream.fill_append (length_writeInt64 _)]
    exact readSigned_writeSigned (by decide) lower (by omega)
  · rw [sizeAhead, fragment, ByteStream.fill_append (length_writeInt64 _), filled,
      show 12 - (8 + count) = 4 - count by omega]
    rcases Nat.eq_zero_or_pos count with rfl | positive
    · -- Nothing of the size is there, and it is below `256 ^ 4`.
      have none : (message.body.length : Int) / 256 ^ 4 = 0 :=
        Int.ediv_eq_zero_of_lt (by omega) (by omega)
      rw [Nat.sub_zero, none, List.take_zero, List.nil_append,
        readSigned_replicate_zero (by decide), zero_mul]
    · exact readSigned_truncated positive (by omega) (by omega) (by omega)

/-- The fragment ends behind offset and size, which are read as they are. -/
theorem ahead_of_cut_body
    {message : LogMessage}
    (valid : message.Valid)
    {present : Nat}
    (behindSize : 12 ≤ present) :
    offsetAhead ⟨message.encode.take present, false⟩ = message.offset ∧
      sizeAhead ⟨message.encode.take present, false⟩ = message.body.length := by
  obtain ⟨short, lower, upper⟩ := valid
  obtain ⟨count, rfl⟩ : ∃ count, present = 12 + count :=
    ⟨present - 12, by omega⟩
  have fragment : message.encode.take (12 + count) =
      writeInt64 message.offset ++ (writeInt32 message.body.length ++
        message.body.take count) := by
    have header : (writeInt64 message.offset ++
        writeInt32 message.body.length).length = 12 := by simp
    rw [LogMessage.encode, ← header, List.take_length_add_append,
      List.append_assoc]
  constructor
  · rw [offsetAhead, fragment, ByteStream.fill_append (length_writeInt64 _)]
    exact readSigned_writeSigned (by decide) lower (by omega)
  · rw [sizeAhead, fragment, ByteStream.fill_append (length_writeInt64 _),
      ByteStream.fill_append (length_writeInt32 _)]
    exact readSigned_writeSigned (by decide) (by omega) (by omega)

/-- A fragment leaves the filter where it is exactly when it is ignored. -/
theorem fragmentIgnored_iff
    {message : LogMessage}
    (valid : message.Valid)
    {next : Int}
    (pending : next ≤ message.offset)
    {present : Nat}
    (some : 0 < present) :
    FragmentIgnored next message present ↔
      (present : Int) < sizeAhead ⟨message.encode.take present, false⟩ ∨
        offsetAhead ⟨message.encode.take present, false⟩ < next := by
  unfold FragmentIgnored
  rcases Nat.lt_or_ge present 8 with inOffset | behindOffset
  · obtain ⟨offset, size⟩ := ahead_of_cut_offset valid some inOffset
    rw [offset, size]
    omega
  rcases Nat.lt_or_ge present 12 with inSize | behindSize
  · obtain ⟨offset, size⟩ := ahead_of_cut_size valid behindOffset inSize
    rw [offset, size]
    interval_cases present <;> norm_num <;> omega
  · obtain ⟨offset, size⟩ := ahead_of_cut_body valid behindSize
    rw [offset, size]
    omega

/-- What is announced of the size of a message is no more than the size, and
what is announced of its offset no more than the offset. -/
theorem ahead_le
    {message : LogMessage}
    (valid : message.Valid)
    {present : Nat}
    (some : 0 < present) :
    offsetAhead ⟨message.encode.take present, false⟩ ≤ message.offset ∧
      0 ≤ sizeAhead ⟨message.encode.take present, false⟩ ∧
      sizeAhead ⟨message.encode.take present, false⟩ ≤ message.body.length := by
  rcases Nat.lt_or_ge present 8 with inOffset | behindOffset
  · obtain ⟨offset, size⟩ := ahead_of_cut_offset valid some inOffset
    rw [offset, size]
    exact ⟨Int.ediv_mul_le _ (by positivity), le_rfl, by omega⟩
  rcases Nat.lt_or_ge present 12 with inSize | behindSize
  · obtain ⟨offset, size⟩ := ahead_of_cut_size valid behindOffset inSize
    rw [offset, size]
    exact ⟨le_rfl, by positivity, Int.ediv_mul_le _ (by positivity)⟩
  · obtain ⟨offset, size⟩ := ahead_of_cut_body valid behindSize
    rw [offset, size]
    exact ⟨le_rfl, by omega, le_rfl⟩

/-- What the loop makes of a fragment lets the next offset alone exactly when
the fragment is ignored, and then nothing is delivered. -/
theorem readMessageSetLoop_fragment
    (buffer : Bytes)
    {message : LogMessage}
    (valid : message.Valid)
    {next : Int}
    (pending : next ≤ message.offset)
    {present : Nat}
    (some : 0 < present)
    (incomplete : present < message.wireSize)
    {size readCount : Nat}
    (last : readCount + present = size)
    (sizeShort : size < 2 ^ 31)
    (fuel : Nat) :
    ∃ tail later, readMessageSetLoop buffer size (fuel + 2) readCount
        ⟨message.encode.take present, false⟩ = .ok (tail, later) ∧
      (FragmentIgnored next message present →
        collectMessages tail next = ([], next)) ∧
      ((collectMessages tail next).2 = next →
        FragmentIgnored next message present) := by
  obtain ⟨offsetLe, sizeNonneg, sizeLe⟩ := ahead_le valid some
  have ignored := fragmentIgnored_iff valid pending some
  have short := valid.short
  have upper := valid.upper
  have room : ((size - readCount : Nat) : Int) = present := by omega
  -- The fragment is shorter than an entry of the size it announces, unless it
  -- ends before the size does, and then it is shorter than a bare header.
  have enough : (size : Int) ≤
      readCount + 12 + sizeAhead ⟨message.encode.take present, false⟩ := by
    rcases Nat.lt_or_ge present 12 with inHeader | behindSize
    · omega
    · have size := (ahead_of_cut_body valid behindSize).2
      simp only [LogMessage.wireSize] at incomplete
      omega
  obtain ⟨tail, later, read, taken⟩ := readMessageSetLoop_last buffer
    (by omega) sizeShort sizeNonneg (by omega) enough fuel
  rw [room] at taken
  refine ⟨tail, later, read, ?_⟩
  rw [ignored]
  split at taken
  · subst taken
    exact ⟨fun _ => rfl, fun _ => .inl (by assumption)⟩
  · obtain ⟨fragment, rfl⟩ := taken
    simp only [collectMessages]
    by_cases reached :
        next ≤ offsetAhead ⟨message.encode.take present, false⟩
    · -- The offset read is at or above the next one and moves it.
      have lower := le_offsetAhead ⟨message.encode.take present, false⟩
      rw [if_pos reached,
        wrap_of_range (by decide) (by omega) (by omega)]
      constructor
      · intro passed
        omega
      · intro unmoved
        simp only at unmoved
        omega
    · rw [if_neg reached]
      exact ⟨fun _ => rfl, fun _ => .inr (by omega)⟩

/-- The filter passes over ascending messages with their values and goes on
behind them. -/
theorem collectMessages_ascending
    {messages : List LogMessage}
    {next : Int}
    (valid : ∀ message ∈ messages, message.Valid)
    (values : ∀ message ∈ messages, message.value ≠ [])
    (ascending : Ascending next messages)
    (tail : MessageSet) :
    collectMessages (messages.map LogMessage.decoded ++ tail) next =
      (messages.map LogMessage.value ++
          (collectMessages tail (nextAfter next messages)).1,
        (collectMessages tail (nextAfter next messages)).2) := by
  induction messages generalizing next with
  | nil => rfl
  | cons message messages inductionHypothesis =>
      obtain ⟨-, lower, upper⟩ := valid message List.mem_cons_self
      have wrapped : wrap 64 (message.offset + 1) = message.offset + 1 :=
        wrap_of_range (by decide) (by omega) (by omega)
      have decodedValue : message.decoded.value = some message.value := by
        simp [LogMessage.decoded, values message List.mem_cons_self]
      have later := inductionHypothesis
        (fun other member => valid other (List.mem_cons_of_mem _ member))
        (fun other member => values other (List.mem_cons_of_mem _ member))
        ascending.2
      have decodedOffset : message.decoded.offset = message.offset := rfl
      rw [List.map_cons, List.cons_append, collectMessages, decodedOffset,
        if_pos ascending.1, wrapped, later, decodedValue, nextAfter_cons]
      rfl

/-- What is read from a prefix of a message set: its complete messages, and
something that lets the next offset alone exactly when the cut is clean. -/
theorem readMessageSet_take
    (buffer : Bytes)
    {messages : List LogMessage}
    {next : Int}
    {cut : Nat}
    (valid : ∀ message ∈ messages, message.Valid)
    (ascending : Ascending next messages)
    (short : ((messageSet messages).take cut).length < 2 ^ 31) :
    ∃ tail later,
      readMessageSet buffer ((messageSet messages).take cut).length
          ⟨(messageSet messages).take cut, false⟩ =
        .ok ((complete messages cut).map LogMessage.decoded ++ tail, later) ∧
      (CleanCut next messages cut →
        collectMessages tail (nextAfter next (complete messages cut)) =
          ([], nextAfter next (complete messages cut))) ∧
      ((collectMessages tail (nextAfter next (complete messages cut))).2 =
          nextAfter next (complete messages cut) →
        CleanCut next messages cut) := by
  have whole : ∀ message ∈ complete messages cut, message.Valid :=
    fun message member => valid message (mem_of_mem_complete member)
  rw [take_messageSet] at short ⊢
  cases found : cutMessage messages cut with
  | none =>
      simp only [found, Option.elim_none, List.append_nil] at short ⊢
      refine ⟨[], ⟨[], false⟩, ?_, ?_, ?_⟩
      · rw [List.append_nil]
        exact readMessageSet_messageSet buffer whole short
      · intro _
        rfl
      · intro _ fragment inside
        rw [found] at inside
        cases inside
  | some fragment =>
      obtain ⟨message, present⟩ := fragment
      obtain ⟨member, incomplete, pending⟩ := cutMessage_spec ascending found
      have clean : CleanCut next messages cut ↔ FragmentIgnored
          (nextAfter next (complete messages cut)) message present := by
        simp [CleanCut, found]
      simp only [found, Option.elim_some] at short ⊢
      rw [clean]
      rcases Nat.eq_zero_or_pos present with rfl | some
      · -- The cut falls between two messages.
        rw [List.take_zero, List.append_nil] at short ⊢
        refine ⟨[], ⟨[], false⟩, ?_, fun _ => rfl, fun _ => .inl rfl⟩
        rw [List.append_nil]
        exact readMessageSet_messageSet buffer whole short
      · have length : (messageSet (complete messages cut) ++
            message.encode.take present).length =
              (messageSet (complete messages cut)).length + present := by
          rw [List.length_append, List.length_take, LogMessage.length_encode,
            Nat.min_eq_left incomplete.le]
        obtain ⟨tail, later, read, ignored, moved⟩ :=
          readMessageSetLoop_fragment buffer (valid message member) pending some
            incomplete length.symm short _
        exact ⟨tail, later, readMessageSet_append whole short read, ignored,
          moved⟩

/-- The application was handed the values of the complete messages and the next
offset is the one after the last of them. -/
def DeliversComplete
    (p : KafkaPartition)
    (messages : List LogMessage)
    (cut : Nat)
    (q : KafkaPartition) : Prop :=
  q.trace = p.trace ++
      (if complete messages cut = [] then []
        else [.receivedData ((complete messages cut).map LogMessage.value)]) ∧
    q.nextFetchOffset = nextAfter p.nextFetchOffset (complete messages cut)

instance
    (p : KafkaPartition)
    (messages : List LogMessage)
    (cut : Nat)
    (q : KafkaPartition) :
    Decidable (DeliversComplete p messages cut q) :=
  inferInstanceAs (Decidable (_ ∧ _))

/-- A cut response delivers its complete messages and nothing else exactly when
the cut is clean. -/
theorem delivers_complete_iff_cleanCut
    {p : KafkaPartition}
    {topicName : Bytes}
    {partition highwaterMarkOffset : Int}
    {messages : List LogMessage}
    {cut : Nat}
    (receiving : Receiving p)
    (validPartition : ValidPartition topicName partition 0)
    (lower : -(2 ^ 63) ≤ highwaterMarkOffset)
    (upper : highwaterMarkOffset < 2 ^ 63)
    (valid : ∀ message ∈ messages, message.Valid)
    (values : ∀ message ∈ messages, message.value ≠ [])
    (ascending : Ascending p.nextFetchOffset messages)
    (short : ((messageSet messages).take cut).length < 2 ^ 31)
    (surroundings : Surroundings) :
    ∃ q, p.handleFetchResponse (fetchResponse topicName partition 0
        highwaterMarkOffset ((messageSet messages).take cut)) surroundings =
        .ok q ∧
      (DeliversComplete p messages cut q ↔
        CleanCut p.nextFetchOffset messages cut) := by
  obtain ⟨tail, later, read, ignored, moved⟩ :=
    readMessageSet_take _ valid ascending short
  obtain ⟨q, returned, trace, next⟩ := receiving.handleFetchResponse
    (readFetchResponse_messages validPartition lower upper short read)
    surroundings
  have collected := collectMessages_ascending
    (fun message member => valid message (mem_of_mem_complete member))
    (fun message member => values message (mem_of_mem_complete member))
    (ascending_complete ascending cut) tail
  simp only [FetchResponse.messages_single, collected] at trace next
  refine ⟨q, returned, ?_, ?_⟩
  · intro delivers
    exact moved (next.symm.trans delivers.2)
  · intro clean
    rw [ignored clean] at trace next
    refine ⟨trace.trans ?_, next⟩
    simp

/-- The first of two messages is delivered when the second ends in its
checksum. -/
theorem delivers_complete_iff_cleanCut_checksum :
    ∃ q, (sampleConsumer {}).handleFetchResponse (fetchResponse [116] 0 0 2
        ((messageSet [{ offset := 0, value := [104, 105] },
          { offset := 1, value := [106] }]).take 42)) {} = .ok q ∧
      DeliversComplete (sampleConsumer {})
        [{ offset := 0, value := [104, 105] }, { offset := 1, value := [106] }]
        42 q := by
  have validPartition : ValidPartition [116] 0 0 := by
    decide
  have valid : ∀ message ∈ ([{ offset := 0, value := [104, 105] },
      { offset := 1, value := [106] }] : List LogMessage), message.Valid := by
    decide
  have short : ((messageSet [{ offset := 0, value := [104, 105] },
      { offset := 1, value := [106] }]).take 42).length < 2 ^ 31 := by
    decide +kernel
  obtain ⟨q, returned, delivers⟩ := delivers_complete_iff_cleanCut
    (sampleConsumer_started {} (by decide +kernel)).receiving validPartition
    (show -(2 ^ 63) ≤ (2 : Int) by decide) (by decide) valid (by decide)
    ⟨by decide, by decide, trivial⟩ short {}
  exact ⟨q, returned, delivers.mpr (by decide +kernel)⟩

/-- A message that lacks its last byte is delivered with a zero in its place,
and the next offset moves past it. -/
theorem cut_value_padded :
    ∃ q, (sampleConsumer {}).handleFetchResponse (fetchResponse [116] 0 0 1
        ((messageSet [{ offset := 0, value := [104, 105] }]).take 27)) {} =
        .ok q ∧
      q.trace = (sampleConsumer {}).trace ++ [.receivedData [[104, 0]]] ∧
      q.nextFetchOffset = 1 ∧
      ¬ DeliversComplete (sampleConsumer {})
        [{ offset := 0, value := [104, 105] }] 27 q := by
  obtain ⟨q, returned, checked⟩ := Execution.exists_ok_of_any
    ((sampleConsumer {}).handleFetchResponse (fetchResponse [116] 0 0 1
      ((messageSet [{ offset := 0, value := [104, 105] }]).take 27)) {})
    (fun q => decide (
      q.trace = (sampleConsumer {}).trace ++ [.receivedData [[104, 0]]] ∧
      q.nextFetchOffset = 1 ∧
      ¬ DeliversComplete (sampleConsumer {})
        [{ offset := 0, value := [104, 105] }] 27 q))
    (by decide +kernel)
  exact ⟨q, returned, of_decide_eq_true checked⟩

end KafkaPartition
end AsyncKafka
