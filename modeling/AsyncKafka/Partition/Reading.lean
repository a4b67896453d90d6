import AsyncKafka.Partition.Lifecycle

/-!
# Reading responses from the socket

`onReadReady` reads a length prefix and then a payload, each with `readData`,
which calls `read` until it has as many bytes as it wants.  Here the bytes that
have arrived on the connection and the answers of the kernel to every single
`read` are explicit.  The socket is blocking, so a `read` without data waits.
-/

namespace AsyncKafka

open Wire ByteOrder

/-- Why a callback does not return. -/
inductive Stop
  | halted (halt : Halt)
  /-- A `read` waits for data. -/
  | waiting
  deriving DecidableEq, Repr

/-- What the kernel answers to one `read`. -/
inductive ReadAnswer
  /-- That many bytes, at least one and no more than asked for and present. -/
  | data (count : Nat)
  /-- The other end has closed the connection. -/
  | closed
  | failed (errno : Int)
  deriving DecidableEq, Repr

namespace ReadAnswer

def isData : ReadAnswer → Bool
  | .data _ => true
  | _ => false

def isFailed : ReadAnswer → Bool
  | .failed _ => true
  | _ => false

end ReadAnswer

def econnreset : Int := 104

/-- A connection as `read` sees it. -/
structure Channel where
  /-- The bytes that were sent and not yet read. -/
  stream : Bytes
  errno : Int := 0
  deriving DecidableEq, Repr

/-- What `readData` has done: its result, the bytes in the buffer, and the
answers that it has not asked for. -/
structure ReadResult where
  res : Int
  data : Bytes
  channel : Channel
  answers : List ReadAnswer
  deriving DecidableEq, Repr

/-- Adding an `int` to a `size_t`. -/
def sizeAdd (size : Nat) (value : Int) : Nat := ((size + value) % 2 ^ 64).toNat

theorem sizeAdd_natCast
    {size value : Nat}
    (bounded : size + value < 2 ^ 64) :
    sizeAdd size value = size + value := by
  unfold sizeAdd
  omega

theorem sizeAdd_neg_natCast
    {size value : Nat}
    (enough : value ≤ size)
    (bounded : size < 2 ^ 64) :
    sizeAdd size (-value) = size - value := by
  unfold sizeAdd
  omega

namespace Channel

/-- One call of `read`: its return value and the bytes it has stored. -/
def read (channel : Channel) (tryRead : Nat) :
    ReadAnswer → Except Stop (Int × Bytes × Channel)
  | .closed => .ok (0, [], channel)
  | .failed errno => .ok (-1, [], { channel with errno })
  | .data count =>
      if channel.stream = [] then .error .waiting
      else
        let length := min (max 1 count) (min tryRead channel.stream.length)
        .ok (length, channel.stream.take length,
          { channel with stream := channel.stream.drop length })

/-- The loop of `readData`.  `size`, `readBytes` and `tryRead` are `size_t`; the
return value of `read` is converted to `int`. -/
def readLoop (size : Nat) :
    List ReadAnswer → Channel → Nat → Nat → Bytes → Except Stop ReadResult
  | [], channel, readBytes, _, data =>
      if readBytes = size then .ok ⟨wrap 32 size, data, channel, []⟩
      else .error .waiting
  | answer :: answers, channel, readBytes, tryRead, data =>
      if readBytes = size then
        .ok ⟨wrap 32 size, data, channel, answer :: answers⟩
      else do
        let (count, bytes, channel) ← channel.read tryRead answer
        let res := wrap 32 count
        if res = -1 ∨ res = 0 then
          return ⟨res, data, channel, answers⟩
        else if res < 0 then
          -- `readPtr` has moved before the buffer.
          .error (.halted .undefinedBehaviour)
        else
          readLoop size answers channel (sizeAdd readBytes res)
            (sizeAdd tryRead (-res)) (data ++ bytes)

/-- Read `size` bytes. -/
def readData (channel : Channel) (answers : List ReadAnswer) (size : Nat) :
    Except Stop ReadResult :=
  readLoop size answers channel 0 size []

/-- How `onReadReady` takes a result that is not positive. -/
def readFailure (res errno : Int) : KafkaPartition.ReadOutcome :=
  if res = 0 then .closed
  else if res = -1 ∧ errno = econnreset then .reset
  else .failed

/-- The two `readData` calls of `onReadReady`. -/
def receive (channel : Channel) (answers : List ReadAnswer) :
    Except Stop (KafkaPartition.ReadOutcome × Channel) := do
  let prefixed ← channel.readData answers 4
  if prefixed.res ≤ 0 then
    return (readFailure prefixed.res prefixed.channel.errno, prefixed.channel)
  else
    let body ← prefixed.channel.readData prefixed.answers
      (ofBigEndian prefixed.data)
    if body.res ≤ 0 then
      return (readFailure body.res body.channel.errno, body.channel)
    else
      return (.payload body.data, body.channel)

end Channel

/-- What one call of `onReadReady` meets: the answers to its `read` calls, and
the rest of its surroundings. -/
structure ReadCall where
  answers : List ReadAnswer
  surroundings : KafkaPartition.Surroundings := {}
  deriving DecidableEq, Repr

/-- The payload that is handed to a handler, if there is one. -/
def KafkaPartition.ReadOutcome.dispatched : ReadOutcome → List Bytes
  | .payload bytes => [bytes]
  | _ => []

/-- The result of a callback that may halt. -/
def halting (result : Except Halt α) : Except Stop α :=
  result.mapError .halted

/-- A partition that reads, with the connection that its socket is on and the
payloads that were handed to a handler so far. -/
structure Conversation where
  partition : KafkaPartition
  channel : Channel
  /-- What is sent on the connections that are still to be opened, in order. -/
  coming : List Bytes := []
  dispatched : List Bytes := []
  deriving DecidableEq, Repr

/-- What an effect does to the connection that is read from and to those still
to come: a closed one gives no more bytes, and `m_iSockFd` is a new one after
each `connect`. -/
def Effect.follow (connections : Channel × List Bytes) :
    Effect → Channel × List Bytes
  | .close _ => ({ connections.1 with stream := [] }, connections.2)
  | .connect _ =>
      ({ connections.1 with stream := connections.2.headD [] },
        connections.2.tail)
  | _ => connections

namespace Conversation

/-- A handler has taken the partition to `q`, and the next `read` is on the
socket that it has left. -/
def follow
    (conversation : Conversation)
    (q : KafkaPartition)
    (dispatched : List Bytes) : Conversation :=
  let effects := q.trace.drop conversation.partition.trace.length
  let (channel, coming) := effects.foldl Effect.follow
    (conversation.channel, conversation.coming)
  ⟨q, channel, coming, conversation.dispatched ++ dispatched⟩

/-- One call of `onReadReady`. -/
def onReadReady (conversation : Conversation) (call : ReadCall) :
    Except Stop Conversation := do
  let (received, channel) ← conversation.channel.receive call.answers
  let partition ←
    halting (conversation.partition.onReadReady received call.surroundings)
  return { conversation with channel }.follow partition received.dispatched

end Conversation

namespace Channel

/-- A `read` that is answered with data takes between one byte and as many as
were asked for, if these are present. -/
theorem read_data
    {left : Bytes}
    (rest : Bytes)
    (errno : Int)
    {tryRead : Nat}
    (present : left.length = tryRead)
    (wanted : 0 < tryRead)
    (count : Nat) :
    ∃ length, 0 < length ∧ length ≤ tryRead ∧
      read ⟨left ++ rest, errno⟩ tryRead (.data count) =
        .ok (length, left.take length, ⟨left.drop length ++ rest, errno⟩) := by
  refine ⟨min (max 1 count) tryRead, by omega, by omega, ?_⟩
  have nonempty : left ++ rest ≠ [] := by
    have leftNonempty : left ≠ [] := List.ne_nil_of_length_pos (by omega)
    simp [leftNonempty]
  have enough : min tryRead (left ++ rest).length = tryRead := by
    rw [List.length_append]
    omega
  simp only [read, if_neg nonempty, enough]
  rw [List.take_append_of_le_length (by omega),
    List.drop_append_of_le_length (by omega)]

/-- As long as all answers are data, the loop collects the bytes it wants and
takes no others, however they are split, or it runs out of answers. -/
theorem readLoop_data
    {answers : List ReadAnswer}
    {left : Bytes}
    (rest : Bytes)
    (errno : Int)
    {size readBytes : Nat}
    (data : Bytes)
    (allData : ∀ answer ∈ answers, answer.isData = true)
    (total : readBytes + left.length = size)
    (bounded : size < 2 ^ 31) :
    (∃ unread, unread <:+ answers ∧
        answers.length ≤ unread.length + left.length ∧
        readLoop size answers ⟨left ++ rest, errno⟩ readBytes left.length data =
          .ok ⟨size, data ++ left, ⟨rest, errno⟩, unread⟩) ∨
      answers.length < left.length ∧
        readLoop size answers ⟨left ++ rest, errno⟩ readBytes left.length data =
          .error .waiting := by
  have whole : wrap 32 (size : Int) = size :=
    wrap_of_range (by decide) (by omega) (by omega)
  induction answers generalizing left readBytes data with
  | nil =>
      by_cases done : readBytes = size
      · obtain rfl : left = [] := List.eq_nil_of_length_eq_zero (by omega)
        exact .inl ⟨[], List.suffix_rfl, Nat.zero_le _, by
          simp [readLoop, done, whole]⟩
      · exact .inr ⟨by simp; omega, by simp [readLoop, done]⟩
  | cons answer answers inductionHypothesis =>
      by_cases done : readBytes = size
      · obtain rfl : left = [] := List.eq_nil_of_length_eq_zero (by omega)
        exact .inl ⟨answer :: answers, List.suffix_rfl, by simp, by
          simp [readLoop, done, whole]⟩
      · cases answer with
        | closed => exact absurd (allData .closed (by simp)) (by decide)
        | failed code =>
            exact absurd (allData (.failed code) (by simp)) (by simp [ReadAnswer.isData])
        | data count =>
            have wanted : 0 < left.length := by omega
            obtain ⟨length, positive, within, readOk⟩ :=
              read_data rest errno rfl wanted count
            have res : wrap 32 (length : Int) = length :=
              wrap_of_range (by decide) (by omega) (by omega)
            have stepped : readLoop size (.data count :: answers)
                  ⟨left ++ rest, errno⟩ readBytes left.length data =
                readLoop size answers ⟨left.drop length ++ rest, errno⟩
                  (readBytes + length) (left.drop length).length
                  (data ++ left.take length) := by
              rw [readLoop, if_neg done, readOk, Execution.ok_bind]
              dsimp only
              rw [res, if_neg (by omega), if_neg (by omega),
                sizeAdd_natCast (by omega), sizeAdd_neg_natCast within (by omega),
                List.length_drop]
            have remaining := List.length_drop (i := length) (l := left)
            rw [stepped]
            rcases inductionHypothesis (data ++ left.take length)
              (fun other member => allData other (List.mem_cons_of_mem _ member))
              (show readBytes + length + (left.drop length).length = size by omega)
              with ⟨unread, suffix, used, collected⟩ | ⟨few, waits⟩
            · refine .inl ⟨unread, suffix.trans (List.suffix_cons _ _), ?_, ?_⟩
              · simp only [List.length_cons]
                omega
              · rw [collected, List.append_assoc, List.take_append_drop]
            · refine .inr ⟨?_, waits⟩
              simp only [List.length_cons]
              omega

/-- `readData` takes exactly the bytes it was asked for, or waits. -/
theorem readData_data
    {answers : List ReadAnswer}
    (left rest : Bytes)
    (errno : Int)
    (allData : ∀ answer ∈ answers, answer.isData = true)
    (bounded : left.length < 2 ^ 31) :
    (∃ unread, unread <:+ answers ∧
        answers.length ≤ unread.length + left.length ∧
        readData ⟨left ++ rest, errno⟩ answers left.length =
          .ok ⟨left.length, left, ⟨rest, errno⟩, unread⟩) ∨
      answers.length < left.length ∧
        readData ⟨left ++ rest, errno⟩ answers left.length =
          .error .waiting :=
  readLoop_data rest errno [] allData (Nat.zero_add _) bounded

end Channel
end AsyncKafka
