import AsyncKafka.Partition.Failover
import AsyncKafka.Producer.Queue

/-!
# The destructor

`~KafkaPartition` drains the message queue and calls `onWriteReady` until the
deque is empty.  A reset makes `onWriteReady` put a metadata request on the same
deque and call itself, so that the deque does not shrink from one write to the
next.  It does shrink from one call to the next: a call takes off the frame it
started with and every metadata request that it has put in front, however many
resets it meets and wherever a reconnect fails.
-/

namespace AsyncKafka
namespace KafkaPartition

open Wire Execution

/-- What the kernel answers to one `write`.  After a reset, `connect` is the new
socket if `connectServer` returned one. -/
inductive WriteAnswer
  | written
  | short (count : Nat)
  | failed
  | reset (connect : Option Int)
  deriving DecidableEq, Repr

def WriteAnswer.isReset : WriteAnswer → Bool
  | .reset _ => true
  | _ => false

/-- The answers that one call of `onWriteReady` takes from a stream, and the
position after them.  It takes another one after every reset that was followed
by a reconnect; the first argument bounds their number. -/
def takeOutcome (answers : Nat → WriteAnswer) :
    Nat → Nat → Option (WriteOutcome × Nat)
  | 0, _ => none
  | fuel + 1, position =>
      match answers position with
      | .written => some (.written, position + 1)
      | .short count => some (.short count, position + 1)
      | .failed => some (.failed, position + 1)
      -- Nothing is written after a failed reconnect.
      | .reset none => some (.reset none .written, position + 1)
      | .reset (some fd) =>
          (takeOutcome answers fuel (position + 1)).map fun (next, position) =>
            (.reset (some fd) next, position)

/-- The loop of the destructor.  The first argument bounds the iterations and the
resets in each of them; the result is none when it did not suffice. -/
def flush (answers : Nat → WriteAnswer) :
    Nat → Nat → KafkaPartition → Option (Except Halt KafkaPartition)
  | 0, _, _ => none
  | fuel + 1, position, p =>
      if p.writeBuffers.isEmpty then some (.ok p)
      else
        match takeOutcome answers fuel position with
        | none => none
        | some (outcome, position) =>
            match p.onWriteReady outcome with
            | .error halt => some (.error halt)
            | .ok p => flush answers fuel position p

/-- The destructor.  It closes the socket without telling the reactor. -/
def destroy
    (crc32 : Bytes → UInt32)
    (p : KafkaPartition)
    (answers : Nat → WriteAnswer)
    (fuel : Nat) : Option (Except Halt KafkaPartition) :=
  (flush answers fuel 0 (p.createProduceRequest crc32)).map fun result =>
    result.map fun p => p.record (.close p.sockFd)

/-- More fuel does not change the answers that are taken. -/
theorem takeOutcome_mono
    {answers : Nat → WriteAnswer}
    {fuel more position : Nat}
    {taken : WriteOutcome × Nat}
    (enough : takeOutcome answers fuel position = some taken)
    (least : fuel ≤ more) :
    takeOutcome answers more position = some taken := by
  induction fuel generalizing more position taken with
  | zero => cases enough
  | succ fuel inductionHypothesis =>
      obtain ⟨more, rfl⟩ : ∃ less, more = less + 1 := ⟨more - 1, by omega⟩
      unfold takeOutcome at enough ⊢
      split at enough <;> try exact enough
      obtain ⟨later, laterTaken, rfl⟩ := Option.map_eq_some_iff.mp enough
      rw [inductionHypothesis laterTaken (by omega)]
      rfl

/-- More fuel does not change the result of the loop. -/
theorem flush_mono
    {answers : Nat → WriteAnswer}
    {fuel more position : Nat}
    {p : KafkaPartition}
    {result : Except Halt KafkaPartition}
    (enough : flush answers fuel position p = some result)
    (least : fuel ≤ more) :
    flush answers more position p = some result := by
  induction fuel generalizing more position p with
  | zero => cases enough
  | succ fuel inductionHypothesis =>
      obtain ⟨more, rfl⟩ : ∃ less, more = less + 1 := ⟨more - 1, by omega⟩
      unfold flush at enough ⊢
      split at enough
      · rename_i empty
        rw [if_pos empty]
        exact enough
      · rename_i waiting
        rw [if_neg waiting]
        split at enough
        · cases enough
        · rename_i outcome next taken
          rw [takeOutcome_mono taken (Nat.le_of_succ_le_succ least)]
          dsimp only
          cases returned : p.onWriteReady outcome with
          | error halt =>
              rw [returned] at enough
              exact enough
          | ok q =>
              rw [returned] at enough
              exact inductionHypothesis enough (Nat.le_of_succ_le_succ least)

/-- The answers for one call are taken when all resets of the stream lie before
a bound. -/
theorem exists_takeOutcome
    {answers : Nat → WriteAnswer}
    {bound fuel position : Nat}
    (finite : ∀ index, bound ≤ index → (answers index).isReset = false)
    (enough : bound < fuel + position)
    (positive : 0 < fuel) :
    ∃ taken, takeOutcome answers fuel position = some taken := by
  induction fuel generalizing position with
  | zero => omega
  | succ fuel inductionHypothesis =>
      unfold takeOutcome
      split
      · exact ⟨_, rfl⟩
      · exact ⟨_, rfl⟩
      · exact ⟨_, rfl⟩
      · exact ⟨_, rfl⟩
      · rename_i fd reset
        have before : position < bound := by
          by_contra after
          have plain := finite position (by omega)
          rw [reset] at plain
          cases plain
        have stillEnough : bound < fuel + (position + 1) := by omega
        obtain ⟨later, taken⟩ := inductionHypothesis stillEnough (by omega)
        rw [taken]
        exact ⟨_, rfl⟩

/-- Two brokers of the list have different identifiers. -/
def HasTwoBrokers (p : KafkaPartition) : Prop :=
  ∃ first ∈ p.brokers, ∃ second ∈ p.brokers, first.id ≠ second.id

/-- A failover then finds a broker, whichever the leader is. -/
theorem HasTwoBrokers.exists_candidate
    {p : KafkaPartition}
    (two : p.HasTwoBrokers)
    (leader : KafkaBroker) :
    ∃ broker, candidate p.brokers leader = some broker := by
  obtain ⟨first, inFirst, second, inSecond, differ⟩ := two
  apply Option.isSome_iff_exists.mp
  unfold candidate
  rw [List.find?_isSome]
  by_cases same : first.id = leader.id
  · exact ⟨second, inSecond, by simpa [← same] using differ.symm⟩
  · exact ⟨first, inFirst, by simpa using same⟩

/-- A call of `onWriteReady` of such a producer returns, whatever is answered, and
takes the front frame off the deque and no other. -/
theorem exists_onWriteReady
    {p : KafkaPartition}
    {req : WriteBuffer}
    {rest : List WriteBuffer}
    (producer : p.partitionType = .producer)
    (two : p.HasTwoBrokers)
    (front : p.writeBuffers = req :: rest)
    (outcome : WriteOutcome) :
    ∃ q, p.onWriteReady outcome = .ok q ∧ q.identity = p.identity ∧
      q.writeBuffers = rest ∧ q.msgs = p.msgs := by
  suffices returns : ∃ q, p.onWriteReady outcome = .ok q by
    obtain ⟨q, returned⟩ := returns
    obtain ⟨effects, written, -, -⟩ := onWriteReady_cons front returned
    have kept := Bookkeeping.of_connectionOnly written
    exact ⟨q, returned, kept.identity, kept.writeBuffers, kept.msgs⟩
  induction outcome generalizing p req rest with
  | written | short | failed => exact ⟨_, onWriteReady_unreset front rfl⟩
  | reset connect next inductionHypothesis =>
      rw [onWriteReady_eq_reconnect front]
      generalize popped : (p.popWriteBuffer req rest).record (.write req none) =
        lost
      have lostProducer : lost.partitionType = .producer := popped ▸ producer
      have lostTwo : lost.HasTwoBrokers := popped ▸ two
      obtain ⟨broker, found⟩ := lostTwo.exists_candidate lost.leader
      rw [reconnect_of_some found]
      cases connect with
      | none => exact ⟨_, rfl⟩
      | some fd =>
          -- The call that follows finds the metadata request in front.
          obtain ⟨written, wrote⟩ := inductionHypothesis
            (show (lost.moveTo broker (some fd)).createMetadataRequest.partitionType
              = .producer from lostProducer) lostTwo rfl
          have kept := (onWriteReady_transition Crc32.checksum wrote).identity
          have writtenProducer : written.partitionType = .producer :=
            (congrArg Identity.partitionType kept).trans lostProducer
          rw [Option.isSome_some, if_pos rfl, wrote, ok_bind, wakeupFetchOfConsumer,
            writtenProducer]
          exact ⟨written, rfl⟩

/-- The loop ends with an empty deque.  When every frame is written in full, the
frames are handed to the kernel as they stand there. -/
theorem exists_flush
    {answers : Nat → WriteAnswer}
    {bound fuel : Nat}
    {p : KafkaPartition}
    (finite : ∀ index, bound ≤ index → (answers index).isReset = false)
    (producer : p.partitionType = .producer)
    (two : p.HasTwoBrokers)
    (enough : bound + p.writeBuffers.length < fuel)
    (position : Nat) :
    ∃ q, flush answers fuel position p = some (.ok q) ∧
      q.writeBuffers = [] ∧ q.msgs = p.msgs ∧
      ((∀ index, answers index = .written) →
        q.trace = p.trace ++ p.writeBuffers.map fun buffer =>
          .write buffer (some buffer.second.length)) := by
  obtain ⟨fuel, rfl⟩ : ∃ less, fuel = less + 1 := ⟨fuel - 1, by omega⟩
  generalize waiting : p.writeBuffers = buffers at enough
  induction buffers generalizing fuel position p with
  | nil =>
      refine ⟨p, ?_, waiting, rfl, fun _ => by simp⟩
      unfold flush
      rw [if_pos (List.isEmpty_iff.mpr waiting)]
  | cons req rest inductionHypothesis =>
      rw [List.length_cons] at enough
      obtain ⟨fuel, rfl⟩ : ∃ less, fuel = less + 1 := ⟨fuel - 1, by omega⟩
      obtain ⟨⟨outcome, next⟩, taken⟩ : ∃ taken,
          takeOutcome answers (fuel + 1) position = some taken :=
        exists_takeOutcome finite (by omega) (Nat.succ_pos fuel)
      obtain ⟨called, returned, identity, shorter, sameMsgs⟩ :=
        exists_onWriteReady producer two waiting outcome
      have calledProducer : called.partitionType = .producer :=
        (congrArg Identity.partitionType identity).trans producer
      have calledTwo : called.HasTwoBrokers := by
        have sameBrokers : called.brokers = p.brokers :=
          congrArg Identity.brokers identity
        rw [HasTwoBrokers, sameBrokers]
        exact two
      obtain ⟨q, flushed, empty, queue, handed⟩ := inductionHypothesis
        calledProducer calledTwo next fuel shorter (by omega)
      refine ⟨q, ?_, empty, queue.trans sameMsgs, ?_⟩
      · conv_lhs => unfold flush
        rw [if_neg (by simp [waiting]), taken]
        dsimp only
        rw [returned]
        exact flushed
      · intro full
        obtain rfl : outcome = .written := by
          simp only [takeOutcome, full position, Option.some.injEq,
            Prod.mk.injEq] at taken
          exact taken.1.symm
        rw [onWriteReady_unreset waiting rfl] at returned
        obtain rfl := Except.ok.inj returned
        rw [handed full, List.map_cons]
        exact List.append_assoc _ _ _

/-- Destroying a producer in any reachable state ends, whatever is answered to
the writes, provided that two of its brokers have different identifiers and
that only finitely many writes are reset.  The queue and the deque are empty
then.  When every write succeeds in full, the frames of the deque were written
as they are and after them produce frames with the messages of the queue, each
once and in order. -/
theorem destroy_flushes
    {crc32 : Bytes → UInt32}
    {start p : KafkaPartition}
    {history : List Event}
    {answers : Nat → WriteAnswer}
    (constructed : ConstructedProducer start)
    (run : Run (step crc32) (fun _ _ => True) start history p)
    (two : p.HasTwoBrokers)
    (finite : ∃ bound, ∀ index, bound ≤ index →
      (answers index).isReset = false) :
    ∃ q, (∃ enough, ∀ fuel, enough ≤ fuel →
        p.destroy crc32 answers fuel = some (.ok q)) ∧
      q.msgs = [] ∧ q.writeBuffers = [] ∧
      ((∀ index, answers index = .written) → ∃ added,
        q.trace = p.trace ++ (p.writeBuffers ++ added).map
          (fun buffer => .write buffer (some buffer.second.length)) ++
            [.close q.sockFd] ∧
        (∀ buffer ∈ added, buffer.Genuine crc32 p.config) ∧
        added.flatMap WriteBuffer.values = p.msgs) := by
  obtain ⟨-, startProducer⟩ := constructed.fresh
  have producer : p.partitionType = .producer :=
    (congrArg Identity.partitionType (run_identity run)).trans startProducer
  obtain ⟨bound, plain⟩ := finite
  have drainedProducer : (p.createProduceRequest crc32).partitionType = .producer :=
    producer
  obtain ⟨q, flushed, empty, queue, handed⟩ :=
    exists_flush plain drainedProducer two (Nat.lt_succ_self _) 0
  have destroyed : ∀ fuel,
      bound + (p.createProduceRequest crc32).writeBuffers.length + 1 ≤ fuel →
        p.destroy crc32 answers fuel = some (.ok (q.record (.close q.sockFd))) := by
    intro fuel enough
    rw [destroy, flush_mono flushed enough]
    rfl
  refine ⟨q.record (.close q.sockFd), ⟨_, destroyed⟩, queue, empty,
    fun full => ⟨produceBuffers crc32 p, ?_, ?_, ?_⟩⟩
  · rw [record, handed full]
    rfl
  · intro buffer member
    exact genuine_of_mem_produceBuffers member
  · have waiting := waitingValues_drained crc32 p
    simpa [waitingValues, List.flatMap_append] using waiting

/-- The first write is reset and the partition reconnects. -/
def firstReset (index : Nat) : WriteAnswer :=
  if index = 0 then .reset (some 10) else .written

/-- Every write succeeds. -/
def allWritten (_ : Nat) : WriteAnswer := .written

/-- A frame in the deque and a message in the queue, when the first write is
reset and when none is. -/
theorem destroy_flushes_both :
    ∃ p, Run (step Crc32.checksum) (fun _ _ => True) (sampleProducer {})
        [.produce [1], .batchTimer, .produce [2]] p ∧
      (∃ q enough, p.destroy Crc32.checksum firstReset enough = some (.ok q) ∧
        q.msgs = [] ∧ q.writeBuffers = []) ∧
      ∃ q enough added,
        p.destroy Crc32.checksum allWritten enough = some (.ok q) ∧
        q.trace = p.trace ++ (p.writeBuffers ++ added).map
          (fun buffer => .write buffer (some buffer.second.length)) ++
            [.close q.sockFd] ∧
        added.flatMap WriteBuffer.values = [[2]] := by
  obtain ⟨p, run, checked⟩ := exists_run_of_follow (step Crc32.checksum)
    (fun _ _ => True) (sampleProducer {}) [.produce [1], .batchTimer, .produce [2]]
    (fun p => p.msgs = [[2]] ∧ p.brokers = sampleBrokers) (by decide +kernel)
  obtain ⟨queue, brokers⟩ := of_decide_eq_true checked
  have two : p.HasTwoBrokers := by
    rw [HasTwoBrokers, brokers]
    exact ⟨_, List.mem_cons_self, _, List.mem_cons_of_mem _ List.mem_cons_self,
      by decide⟩
  have once : ∃ bound, ∀ index, bound ≤ index →
      (firstReset index).isReset = false := by
    refine ⟨1, fun index after => ?_⟩
    rw [firstReset, if_neg (by omega)]
    rfl
  have never : ∃ bound, ∀ index, bound ≤ index →
      (allWritten index).isReset = false := ⟨0, fun _ _ => rfl⟩
  obtain ⟨q, ⟨enough, destroyed⟩, noMsgs, noBuffers, -⟩ :=
    destroy_flushes (sampleProducer_started _ (by decide +kernel)).constructed run two
      once
  obtain ⟨r, ⟨more, destroyedToo⟩, -, -, handed⟩ :=
    destroy_flushes (sampleProducer_started _ (by decide +kernel)).constructed run two
      never
  obtain ⟨added, trace, -, messages⟩ := handed fun _ => rfl
  exact ⟨p, run, ⟨q, enough, destroyed enough le_rfl, noMsgs, noBuffers⟩,
    r, more, added, destroyedToo more le_rfl, trace, messages.trans queue⟩

end KafkaPartition
end AsyncKafka
