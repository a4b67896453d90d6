import AsyncKafka.Client.Producer
import AsyncKafka.Library.Routing
import AsyncKafka.Partition.Start
import AsyncKafka.Producer.Queue

/-!
# Messages of all partitions

The application hands its messages to a `KafkaProducer`, which hands each of them
to one of its partitions, while the reactor calls the partitions back in any
order and the other producers of the process move the cursor that they share.
-/

namespace AsyncKafka

open Wire Execution

namespace KafkaPartition

/-- All messages that a partition was given: those handed to the kernel, then
those that wait. -/
def takenValues (p : KafkaPartition) : List Bytes :=
  p.handedValues ++ p.waitingValues

/-- A step takes the messages of its event and loses none. -/
theorem takenValues_step
    {crc32 : Bytes → UInt32}
    {p q : KafkaPartition}
    {event : Event}
    (unrefused : event.isProduceError = false)
    (stepped : step crc32 p event = .ok q) :
    q.takenValues = p.takenValues ++ event.messages := by
  obtain ⟨output, handed, moved⟩ := (step_transition stepped).move unrefused
  unfold Fifo.Move at moved
  rw [takenValues, handed, List.append_assoc, ← moved, ← List.append_assoc]
  rfl

end KafkaPartition

namespace KafkaProducer

/-- `produce` chooses a partition: the producer has only one, or takes them in
turn.  With a partition function, which is not implemented, it does nothing. -/
def Chooses (producer : KafkaProducer) : Prop :=
  producer.partition ≠ kafkaAllPartitions ∨
    producer.pPartitioningMethod = .roundRobin

/-- A call of `produce` that returns has called one partition. -/
theorem produceWith_spec
    {producer next : KafkaProducer}
    {order : StoreOrder}
    {produce : KafkaPartition → Except Halt KafkaPartition}
    {currPartition cursor : Int}
    (chooses : producer.Chooses)
    (returned : producer.produceWith order produce currPartition =
      .ok (next, cursor)) :
    ∃ (index : Nat) (p q : KafkaPartition),
      producer.partitions[index]? = some p ∧ produce p = .ok q ∧
      next = { producer with partitions := producer.partitions.set index q } := by
  unfold produceWith at returned
  split at returned
  · rename_i nowhere
    rcases chooses with single | roundRobin
    · rw [chosen, if_pos single] at nowhere
      cases nowhere
    · rw [chosen, roundRobin] at nowhere
      split at nowhere <;> cases nowhere
  · rename_i index _
    split at returned
    · cases returned
    · rename_i p found
      obtain ⟨q, produced, finished⟩ := bind_eq_ok.mp returned
      obtain ⟨rfl, -⟩ := Prod.mk.inj (Except.ok.inj finished)
      exact ⟨index, p, q, found, produced, rfl⟩

end KafkaProducer

/-- What happens to a producer. -/
inductive ProducerInput
  | produce (msg : Bytes)
  | produceAll (msgs : List Bytes)
  /-- The reactor calls a partition back. -/
  | event (index : Nat) (event : KafkaPartition.Event)
  /-- Another producer of the process has moved the cursor. -/
  | moved (currPartition : Int)
  deriving DecidableEq, Repr

namespace ProducerInput

/-- The messages that the application hands over. -/
def messages : ProducerInput → List Bytes
  | .produce msg => [msg]
  | .produceAll msgs => msgs
  | _ => []

/-- The application calls `produce` on the producer only, and no produce request
is refused. -/
def permitted : ProducerInput → Bool
  | .event _ called => called.messages.isEmpty && !called.isProduceError
  | _ => true

end ProducerInput

/-- A producer and the cursor of its process. -/
structure WorkingProducer where
  producer : KafkaProducer
  currPartition : Int := 0
  deriving DecidableEq, Repr

namespace WorkingProducer

open KafkaPartition (sampleProducer)

/-- The state after a call of `produce`. -/
def afterCall (called : Except Halt (KafkaProducer × Int)) :
    Except Halt WorkingProducer := do
  let (producer, currPartition) ← called
  return { producer, currPartition }

/-- One step of the process.  The partitions share only the reactor, which none
of them reads, so that each keeps the calls it has made of it. -/
def step
    (crc32 : Bytes → UInt32)
    (orders : StoreOrders)
    (state : WorkingProducer) :
    ProducerInput → Except Halt WorkingProducer
  | .produce msg =>
      afterCall (state.producer.produce orders msg state.currPartition)
  | .produceAll msgs =>
      afterCall (state.producer.produceAll orders msgs state.currPartition)
  | .event index event =>
      match state.producer.partitions[index]? with
      | none => .error .undefinedBehaviour
      | some p => do
          let p ← p.step crc32 event
          let partitions := state.producer.partitions.set index p
          return { state with producer := { state.producer with partitions } }
  | .moved currPartition => .ok { state with currPartition }

/-- A call of `produce` gives one partition what it takes of the call. -/
theorem afterCall_gives
    {order : StoreOrder}
    {produce : KafkaPartition → Except Halt KafkaPartition}
    {values : List Bytes}
    {state next : WorkingProducer}
    (chooses : state.producer.Chooses)
    (takes : ∀ p q, produce p = .ok q →
      q.takenValues = p.takenValues ++ values)
    (returned : afterCall
      (state.producer.produceWith order produce state.currPartition) =
        .ok next) :
    next.producer.Chooses ∧
      ∃ (index : Nat) (before after : KafkaPartition),
        state.producer.partitions[index]? = some before ∧
        next.producer.partitions =
          state.producer.partitions.set index after ∧
        after.takenValues = before.takenValues ++ values := by
  obtain ⟨⟨producer, cursor⟩, called, finished⟩ := bind_eq_ok.mp returned
  obtain rfl := Except.ok.inj finished
  obtain ⟨index, p, q, found, produced, rfl⟩ :=
    KafkaProducer.produceWith_spec chooses called
  exact ⟨chooses, index, p, q, found, rfl, takes p q produced⟩

/-- Every step gives its messages to one partition. -/
theorem step_gives
    {crc32 : Bytes → UInt32}
    {orders : StoreOrders}
    {state next : WorkingProducer}
    {input : ProducerInput}
    (chooses : state.producer.Chooses)
    (permitted : input.permitted = true)
    (stepped : step crc32 orders state input = .ok next) :
    next.producer.Chooses ∧
      ((input.messages = [] ∧
          next.producer.partitions = state.producer.partitions) ∨
        ∃ (index : Nat) (before after : KafkaPartition),
          state.producer.partitions[index]? = some before ∧
          next.producer.partitions =
            state.producer.partitions.set index after ∧
          after.takenValues = before.takenValues ++ input.messages) := by
  cases input with
  | moved currPartition =>
      obtain rfl := Except.ok.inj stepped
      exact ⟨chooses, .inl ⟨rfl, rfl⟩⟩
  | produce msg =>
      have takes (p q : KafkaPartition) (produced : p.produce msg = .ok q) :
          q.takenValues = p.takenValues ++ [msg] := by
        have called : p.step crc32 (.produce msg) = .ok q := produced
        exact KafkaPartition.takenValues_step rfl called
      obtain ⟨still, given⟩ := afterCall_gives chooses takes stepped
      exact ⟨still, .inr given⟩
  | produceAll msgs =>
      have takes (p q : KafkaPartition)
          (produced : (p.produceAll msgs).map Prod.snd = .ok q) :
          q.takenValues = p.takenValues ++ msgs := by
        have called : p.step crc32 (.produceAll msgs) = .ok q := produced
        exact KafkaPartition.takenValues_step rfl called
      obtain ⟨still, given⟩ := afterCall_gives chooses takes stepped
      exact ⟨still, .inr given⟩
  | event index event =>
      simp only [ProducerInput.permitted, Bool.and_eq_true, List.isEmpty_iff,
        Bool.not_eq_true'] at permitted
      obtain ⟨silent, unrefused⟩ := permitted
      simp only [step] at stepped
      split at stepped
      · cases stepped
      · rename_i p found
        obtain ⟨q, called, finished⟩ := bind_eq_ok.mp stepped
        obtain rfl := Except.ok.inj finished
        refine ⟨chooses, .inr ⟨index, p, q, found, rfl, ?_⟩⟩
        rw [KafkaPartition.takenValues_step unrefused called, silent]
        rfl

/-- Every message that the application hands to a producer is given to exactly
one of its partitions, and each partition has handed to the kernel or still
holds its share in the order of the calls, whatever the reactor does meanwhile
and wherever the other producers of the process put the cursor. -/
theorem messages_routed_once
    {crc32 : Bytes → UInt32}
    {orders : StoreOrders}
    {start state : WorkingProducer}
    {history : List ProducerInput}
    (chooses : start.producer.Chooses)
    (run : Run (step crc32 orders) (fun _ input => input.permitted = true) start
      history state) :
    ∃ routes : List (Nat × Bytes),
      (∀ route ∈ routes, route.1 < start.producer.partitions.length) ∧
      routes.map Prod.snd = history.flatMap ProducerInput.messages ∧
      ∀ index : Nat,
        state.producer.partitions[index]?.map KafkaPartition.takenValues =
          start.producer.partitions[index]?.map fun p =>
            p.takenValues ++ Routing.share routes index :=
  (Routing.routed_of_run (fun state => state.producer.Chooses)
    (fun state => state.producer.partitions) KafkaPartition.takenValues
    ProducerInput.messages chooses
    (fun _ _ _ chooses permitted stepped => step_gives chooses permitted stepped)
    run).2.2

/-- A producer of two partitions. -/
def sampleWorking : WorkingProducer :=
  { producer := { partitions := [sampleProducer {}, sampleProducer {}] } }

/-- The producer in the middle of its work: the first message has gone to the
first partition and the three others to the second. -/
theorem messages_routed_once_two :
    ∃ (state : WorkingProducer) (routes : List (Nat × Bytes)),
      Run (step Crc32.checksum ⟨.assignLast, .assignLast⟩)
        (fun _ input => input.permitted = true) sampleWorking
        [.produce [1], .moved 1, .produce [2], .event 0 .batchTimer,
          .event 0 (.writeReady .written), .produceAll [[3], [4]]] state ∧
      (∀ route ∈ routes, route.1 < 2) ∧
      routes.map Prod.snd = [[1], [2], [3], [4]] ∧
      Routing.share routes 0 = [[1]] ∧
      Routing.share routes 1 = [[2], [3], [4]] := by
  obtain ⟨state, run, taken⟩ := exists_run_of_follow
    (step Crc32.checksum ⟨.assignLast, .assignLast⟩)
    (fun _ input => input.permitted = true) sampleWorking
    [.produce [1], .moved 1, .produce [2], .event 0 .batchTimer,
      .event 0 (.writeReady .written), .produceAll [[3], [4]]]
    (fun state => state.producer.partitions.map KafkaPartition.takenValues =
      [[[1]], [[2], [3], [4]]]) (by decide +kernel)
  have taken := of_decide_eq_true taken
  obtain ⟨routes, inside, all, shares⟩ := messages_routed_once (.inr rfl) run
  have nothing : sampleWorking.producer.partitions.map
      KafkaPartition.takenValues = [[], []] := by
    decide +kernel
  have share (index : Nat) (within : index < 2) :
      some (Routing.share routes index) =
        (state.producer.partitions.map KafkaPartition.takenValues)[index]? := by
    have empty : (sampleWorking.producer.partitions.map
        KafkaPartition.takenValues)[index]? = some [] := by
      rw [nothing]
      interval_cases index <;> rfl
    rw [List.getElem?_map] at empty
    obtain ⟨p, found, taken⟩ := Option.map_eq_some_iff.mp empty
    rw [List.getElem?_map, shares index, found, Option.map_some, taken,
      List.nil_append]
  rw [taken] at share
  exact ⟨state, routes, run, inside, all, Option.some.inj (share 0 (by decide)),
    Option.some.inj (share 1 (by decide))⟩

end WorkingProducer
end AsyncKafka
