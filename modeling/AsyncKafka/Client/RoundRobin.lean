import AsyncKafka.Client.Producer
import AsyncKafka.Library.Routing
import AsyncKafka.Partition.Start

/-!
# Round robin among partitions

The messages of a producer for all partitions should go to its partitions in
turn.  The cursor that decides is shared by all producers of the process, and
whether it moves at all depends on how the compiler orders two stores.
-/

namespace AsyncKafka

open Wire ByteOrder Execution

/-- Where the cursor stands after a call on a producer with so many
partitions. -/
def StoreOrder.next (order : StoreOrder) (size cursor : Nat) : Nat :=
  match order with
  | .assignLast => cursor
  | .incrementLast => (cursor + 1) % size

/-- Within the partitions, no conversion of the cursor loses anything. -/
theorem KafkaProducer.advance_natCast
    (order : StoreOrder)
    {size cursor : Nat}
    (inside : cursor < size)
    (bounded : size < 2 ^ 31) :
    advance order size cursor = order.next size cursor := by
  have fits {value : Nat} (small : value ≤ size) :
      wrap 32 (value : Int) = value :=
    wrap_of_range (by decide) (by omega) (by omega)
  have reduces {value : Nat} (small : value ≤ size) :
      (value : Int) % 2 ^ 64 % size = (value % size : Nat) := by
    have unchanged : (value : Int) % 2 ^ 64 = value :=
      Int.emod_eq_of_lt (by omega) (by omega)
    rw [unchanged, Int.natCast_mod]
  have remainder {value : Nat} : value % size ≤ size :=
    (Nat.mod_lt value (by omega)).le
  cases order with
  | assignLast =>
      unfold advance StoreOrder.postIncrement StoreOrder.next
      dsimp only
      rw [reduces inside.le, fits remainder, Nat.mod_eq_of_lt inside]
  | incrementLast =>
      unfold advance StoreOrder.postIncrement StoreOrder.next
      dsimp only
      rw [← Int.natCast_succ, fits inside, reduces inside, fits remainder]

namespace KafkaProducer

/-- The producer is for all partitions of its topic, in turn. -/
structure IsRoundRobin (producer : KafkaProducer) : Prop where
  partition : producer.partition = kafkaAllPartitions
  method : producer.pPartitioningMethod = .roundRobin

theorem chosen_natCast
    {producer : KafkaProducer}
    (roundRobin : producer.IsRoundRobin)
    {cursor : Nat}
    (bounded : cursor < 2 ^ 31) :
    producer.chosen cursor = some cursor := by
  have index : ((cursor : Int) % 2 ^ 64).toNat = cursor := by
    rw [Int.emod_eq_of_lt (by omega) (by omega), Int.toNat_natCast]
  unfold chosen
  rw [if_neg (by simp [roundRobin.partition]), roundRobin.method]
  exact congrArg some index

/-- A call with the cursor within the partitions reaches the partition there,
and leaves a producer of the same size. -/
theorem produceWith_inside
    {producer : KafkaProducer}
    (ready : producer.Ready)
    (roundRobin : producer.IsRoundRobin)
    (order : StoreOrder)
    {produce : KafkaPartition → Except Halt KafkaPartition}
    (accepts : ∀ p : KafkaPartition, p.Accepting →
      ∃ q, produce p = .ok q ∧ q.Accepting)
    {cursor : Nat}
    (inside : cursor < producer.partitions.length) :
    ∃ next, producer.produceWith order produce cursor =
        .ok (next, order.next producer.partitions.length cursor) ∧
      next.Ready ∧ next.IsRoundRobin ∧
      next.partitions.length = producer.partitions.length := by
  have bounded := ready.bounded
  obtain ⟨q, produced, accepting⟩ := accepts producer.partitions[cursor]
    (ready.accepting _ (List.getElem_mem inside))
  refine ⟨{ producer with partitions := producer.partitions.set cursor q },
    ?_, ⟨?_, ?_, ?_⟩, ⟨roundRobin.partition, roundRobin.method⟩,
    List.length_set⟩
  · unfold produceWith
    rw [chosen_natCast roundRobin (by omega)]
    dsimp only
    rw [List.getElem?_eq_getElem inside]
    dsimp only
    rw [produced, ok_bind, if_neg (by simp [roundRobin.partition]),
      advance_natCast order inside bounded]
    rfl
  · simpa using ready.nonempty
  · simpa using bounded
  · intro p member
    rcases List.mem_or_eq_of_mem_set member with old | rfl
    · exact ready.accepting p old
    · exact accepting

/-- A call with the cursor beyond the partitions accesses no element. -/
theorem produceWith_outside
    {producer : KafkaProducer}
    (roundRobin : producer.IsRoundRobin)
    (order : StoreOrder)
    (produce : KafkaPartition → Except Halt KafkaPartition)
    {cursor : Nat}
    (bounded : cursor < 2 ^ 31)
    (outside : producer.partitions.length ≤ cursor) :
    producer.produceWith order produce cursor = .error .undefinedBehaviour := by
  unfold produceWith
  rw [chosen_natCast roundRobin bounded]
  dsimp only
  rw [List.getElem?_eq_none outside]

end KafkaProducer

/-- A call of one of the overloads of `produce` on one of the producers. -/
inductive ProduceCall
  | message (producer : Nat) (msg : Bytes)
  | vector (producer : Nat) (msgs : List Bytes)
  deriving DecidableEq, Repr

namespace ProduceCall

def producer : ProduceCall → Nat
  | .message producer _ => producer
  | .vector producer _ => producer

def order (orders : StoreOrders) : ProduceCall → StoreOrder
  | .message _ _ => orders.message
  | .vector _ _ => orders.vector

/-- The call on its producer. -/
def perform (orders : StoreOrders) (producer : KafkaProducer) :
    ProduceCall → Int → Except Halt (KafkaProducer × Int)
  | .message _ msg => producer.produce orders msg
  | .vector _ msgs => producer.produceAll orders msgs

end ProduceCall

/-- The producers of a process, with the cursor that they share and with the
partition that each call so far has chosen. -/
structure KafkaProducers where
  producers : List KafkaProducer
  currPartition : Int := 0
  routes : List (Nat × Nat) := []
  deriving DecidableEq, Repr

namespace KafkaProducers

def step (orders : StoreOrders) (process : KafkaProducers) (call : ProduceCall) :
    Except Halt KafkaProducers :=
  match process.producers[call.producer]? with
  | none => .error .undefinedBehaviour
  | some producer => do
      let (next, currPartition) ←
        call.perform orders producer process.currPartition
      let route := (producer.chosen process.currPartition).map
        fun index => (call.producer, index)
      return {
        producers := process.producers.set call.producer next
        currPartition
        routes := process.routes ++ route.toList }

/-- The call is on a producer that exists. -/
def Exists (process : KafkaProducers) (call : ProduceCall) : Prop :=
  call.producer < process.producers.length

instance (process : KafkaProducers) (call : ProduceCall) :
    Decidable (process.Exists call) :=
  inferInstanceAs (Decidable (_ < _))

/-- No partition of a producer was chosen more than once more than another
one. -/
def Fair (process : KafkaProducers) : Prop :=
  ∀ (i : Nat) (producer : KafkaProducer), process.producers[i]? = some producer →
    ∀ first < producer.partitions.length, ∀ second < producer.partitions.length,
      process.routes.count (i, first) ≤ process.routes.count (i, second) + 1

/-- In every order of calls the next call finds its partition and the choice is
fair. -/
def InTurn (orders : StoreOrders) (producers : List KafkaProducer) : Prop :=
  ∀ history process,
    Run (step orders) Exists { producers } history process →
    process.Fair ∧
      ∀ call, process.Exists call → ∃ next, step orders process call = .ok next

/-- The producers have these numbers of partitions, all of them choose in turn,
and the cursor stands here. -/
structure Steady
    (widths : List Nat)
    (cursor : Nat)
    (process : KafkaProducers) : Prop where
  widths : process.producers.map (fun producer => producer.partitions.length) =
    widths
  ready : ∀ producer ∈ process.producers, producer.Ready
  roundRobin : ∀ producer ∈ process.producers, producer.IsRoundRobin
  cursor : process.currPartition = cursor

/-- The producer that a width belongs to. -/
theorem Steady.producer
    {widths : List Nat}
    {cursor i width : Nat}
    {process : KafkaProducers}
    (steady : Steady widths cursor process)
    (found : widths[i]? = some width) :
    ∃ producer, process.producers[i]? = some producer ∧
      producer.partitions.length = width ∧ producer.Ready ∧
      producer.IsRoundRobin := by
  rw [← steady.widths, List.getElem?_map, Option.map_eq_some_iff] at found
  obtain ⟨producer, present, size⟩ := found
  have member := List.mem_of_getElem? present
  exact ⟨producer, present, size, steady.ready producer member,
    steady.roundRobin producer member⟩

/-- A call with the cursor within its producer's partitions. -/
theorem Steady.step_inside
    {widths : List Nat}
    {cursor width : Nat}
    {process : KafkaProducers}
    (steady : Steady widths cursor process)
    (orders : StoreOrders)
    {call : ProduceCall}
    (found : widths[call.producer]? = some width)
    (inside : cursor < width) :
    ∃ next, step orders process call = .ok next ∧
      Steady widths ((call.order orders).next width cursor) next ∧
      next.routes = process.routes ++ [(call.producer, cursor)] := by
  obtain ⟨producer, present, rfl, ready, roundRobin⟩ := steady.producer found
  have bounded := ready.bounded
  obtain ⟨produced, returned, producedReady, producedRoundRobin, sameWidth⟩ :
      ∃ next, call.perform orders producer cursor =
          .ok (next, (call.order orders).next producer.partitions.length cursor) ∧
        next.Ready ∧ next.IsRoundRobin ∧
        next.partitions.length = producer.partitions.length := by
    cases call with
    | message i msg =>
        exact producer.produceWith_inside ready roundRobin orders.message
          (fun p accepting => accepting.produce msg) inside
    | vector i msgs =>
        exact producer.produceWith_inside ready roundRobin orders.vector
          (fun p accepting => accepting.produceAll msgs) inside
  let next : KafkaProducers :=
    { producers := process.producers.set call.producer produced
      currPartition := (call.order orders).next producer.partitions.length cursor
      routes := process.routes ++ [(call.producer, cursor)] }
  refine ⟨next, ?_, ⟨?_, ?_, ?_, rfl⟩, rfl⟩
  · unfold step
    rw [present]
    dsimp only
    rw [steady.cursor, returned, ok_bind,
      KafkaProducer.chosen_natCast roundRobin (by omega)]
    rfl
  · obtain ⟨within, same⟩ := List.getElem?_eq_some_iff.mp found
    rw [List.map_set, sameWidth, steady.widths, ← same,
      List.set_getElem_self]
  · intro other member
    rcases List.mem_or_eq_of_mem_set member with old | rfl
    · exact steady.ready other old
    · exact producedReady
  · intro other member
    rcases List.mem_or_eq_of_mem_set member with old | rfl
    · exact steady.roundRobin other old
    · exact producedRoundRobin

/-- A call with the cursor beyond its producer's partitions. -/
theorem Steady.step_outside
    {widths : List Nat}
    {cursor width : Nat}
    {process : KafkaProducers}
    (steady : Steady widths cursor process)
    (orders : StoreOrders)
    (call : ProduceCall)
    (found : widths[call.producer]? = some width)
    (bounded : cursor < 2 ^ 31)
    (outside : width ≤ cursor) :
    step orders process call = .error .undefinedBehaviour := by
  obtain ⟨producer, present, rfl, -, roundRobin⟩ := steady.producer found
  have failed : call.perform orders producer cursor =
      .error .undefinedBehaviour := by
    cases call with
    | message i msg =>
        exact producer.produceWith_outside roundRobin _ _ bounded outside
    | vector i msgs =>
        exact producer.produceWith_outside roundRobin _ _ bounded outside
  unfold step
  rw [present]
  dsimp only
  rw [steady.cursor, failed]
  rfl

/-- A call is counted at its own producer and partition only. -/
theorem count_route (routes : List (Nat × Nat)) (i cursor other place : Nat) :
    (routes ++ [(i, cursor)]).count (other, place) =
      routes.count (other, place) + if other = i ∧ place = cursor then 1 else 0 := by
  rw [List.count_append, List.count_singleton]
  by_cases same : other = i ∧ place = cursor
  · obtain ⟨rfl, rfl⟩ := same
    simp
  · rw [if_neg same, if_neg]
    intro equal
    obtain ⟨rfl, rfl⟩ := Prod.mk.inj (eq_of_beq equal)
    exact same ⟨rfl, rfl⟩

/-! ## When the choice is fair -/

/-- The cursor is within the partitions of every producer, and those before it
were chosen once more than the others. -/
def Even (widths : List Nat) (process : KafkaProducers) : Prop :=
  ∃ cursor, Steady widths cursor process ∧
    ∀ (i width : Nat), widths[i]? = some width →
      cursor < width ∧
        RoundRobin.Balanced (fun place => process.routes.count (i, place)) width
          cursor

theorem Even.fair
    {widths : List Nat}
    {process : KafkaProducers}
    (even : Even widths process) :
    process.Fair := by
  obtain ⟨cursor, steady, balanced⟩ := even
  intro i producer present first firstIn second secondIn
  have found : widths[i]? = some producer.partitions.length := by
    rw [← steady.widths, List.getElem?_map, present]
    rfl
  exact (balanced i _ found).2.fair firstIn secondIn

/-- The width of the producer that a call is on. -/
theorem Steady.width
    {widths : List Nat}
    {cursor : Nat}
    {process : KafkaProducers}
    (steady : Steady widths cursor process)
    {call : ProduceCall}
    (present : process.Exists call) :
    ∃ width, widths[call.producer]? = some width := by
  have within : call.producer < widths.length := by
    rw [← steady.widths, List.length_map]
    exact present
  exact ⟨_, List.getElem?_eq_getElem within⟩

theorem Even.returns
    {widths : List Nat}
    {process : KafkaProducers}
    (even : Even widths process)
    (orders : StoreOrders)
    {call : ProduceCall}
    (present : process.Exists call) :
    ∃ next, step orders process call = .ok next := by
  obtain ⟨cursor, steady, balanced⟩ := even
  obtain ⟨width, found⟩ := steady.width present
  obtain ⟨next, stepped, -, -⟩ :=
    steady.step_inside orders found (balanced _ width found).1
  exact ⟨next, stepped⟩

/-- When every producer has a single partition, the cursor does not move. -/
theorem Even.step_single
    {widths : List Nat}
    {orders : StoreOrders}
    {process next : KafkaProducers}
    {call : ProduceCall}
    (single : ∀ width ∈ widths, width = 1)
    (even : Even widths process)
    (present : process.Exists call)
    (stepped : step orders process call = .ok next) :
    Even widths next := by
  obtain ⟨cursor, steady, balanced⟩ := even
  obtain ⟨width, found⟩ := steady.width present
  obtain ⟨inside, -⟩ := balanced _ width found
  obtain ⟨after, returned, nextSteady, -⟩ := steady.step_inside orders found inside
  obtain rfl : after = next := Except.ok.inj (returned.symm.trans stepped)
  obtain rfl := single width (List.mem_of_getElem? found)
  obtain rfl : cursor = 0 := by omega
  have stays : (call.order orders).next 1 0 = 0 := by
    cases call.order orders <;> rfl
  rw [stays] at nextSteady
  refine ⟨0, nextSteady, fun i other foundOther => ?_⟩
  obtain rfl := single other (List.mem_of_getElem? foundOther)
  refine ⟨Nat.one_pos, after.routes.count (i, 0), fun place within => ?_⟩
  obtain rfl : place = 0 := by omega
  rfl

/-- A single producer has the cursor for itself. -/
theorem Even.step_alone
    {width : Nat}
    {orders : StoreOrders}
    {process next : KafkaProducers}
    {call : ProduceCall}
    (moves : call.order orders = .incrementLast)
    (even : Even [width] process)
    (present : process.Exists call)
    (stepped : step orders process call = .ok next) :
    Even [width] next := by
  obtain ⟨cursor, steady, balanced⟩ := even
  obtain ⟨other, found⟩ := steady.width present
  obtain ⟨inside, turns⟩ := balanced _ other found
  obtain ⟨after, returned, nextSteady, routes⟩ :=
    steady.step_inside orders found inside
  obtain rfl : after = next := Except.ok.inj (returned.symm.trans stepped)
  have only {i size : Nat} (at_ : [width][i]? = some size) :
      i = 0 ∧ size = width := by
    cases i with
    | zero => exact ⟨rfl, (Option.some.inj at_).symm⟩
    | succ i => cases at_
  obtain ⟨zero, rfl⟩ := only found
  rw [moves] at nextSteady
  refine ⟨_, nextSteady, fun i size foundSize => ?_⟩
  obtain ⟨rfl, rfl⟩ := only foundSize
  refine ⟨Nat.mod_lt _ (by omega), ?_⟩
  rw [zero] at turns routes
  apply turns.advance inside
  intro place
  rw [routes, count_route]
  simp

/-! ## When it is not -/

/-- Extend a run by a call with the cursor within its producer's partitions. -/
theorem Steady.extend
    {widths : List Nat}
    {cursor width : Nat}
    {orders : StoreOrders}
    {start process : KafkaProducers}
    {history : List ProduceCall}
    (steady : Steady widths cursor process)
    (run : Run (step orders) Exists start history process)
    (call : ProduceCall)
    (found : widths[call.producer]? = some width)
    (inside : cursor < width) :
    ∃ next, Run (step orders) Exists start (history ++ [call]) next ∧
      Steady widths ((call.order orders).next width cursor) next ∧
      next.routes = process.routes ++ [(call.producer, cursor)] := by
  obtain ⟨next, stepped, nextSteady, routes⟩ :=
    steady.step_inside orders found inside
  have present : process.Exists call := by
    obtain ⟨within, -⟩ := List.getElem?_eq_some_iff.mp found
    rw [← steady.widths, List.length_map] at within
    exact within
  exact ⟨next, run.snoc present stepped, nextSteady, routes⟩

/-- Calls on one producer until the cursor starts again. -/
theorem Steady.finish_round
    {widths : List Nat}
    {cursor width i : Nat}
    {orders : StoreOrders}
    {start process : KafkaProducers}
    {history : List ProduceCall}
    (steady : Steady widths cursor process)
    (run : Run (step orders) Exists start history process)
    (moves : orders.message = .incrementLast)
    (found : widths[i]? = some width)
    (inside : cursor < width) :
    ∃ later next, Run (step orders) Exists start later next ∧
      Steady widths 0 next ∧
      ∀ other place, other ≠ i →
        next.routes.count (other, place) = process.routes.count (other, place) := by
  obtain ⟨left, rest⟩ : ∃ left, cursor + left + 1 = width :=
    ⟨width - cursor - 1, by omega⟩
  induction left generalizing cursor process history with
  | zero =>
      obtain ⟨next, nextRun, nextSteady, routes⟩ :=
        steady.extend run (.message i []) found inside
      have wraps : (ProduceCall.order orders (.message i [])).next width cursor =
          0 := by
        rw [show ProduceCall.order orders (.message i []) = .incrementLast
          from moves]
        change (cursor + 1) % width = 0
        rw [show cursor + 1 = width by omega, Nat.mod_self]
      rw [wraps] at nextSteady
      refine ⟨_, next, nextRun, nextSteady, fun other place different => ?_⟩
      rw [routes, count_route, if_neg (by simp [different, ProduceCall.producer])]
      rfl
  | succ left inductionHypothesis =>
      obtain ⟨middle, middleRun, middleSteady, routes⟩ :=
        steady.extend run (.message i []) found inside
      have steps : (ProduceCall.order orders (.message i [])).next width cursor =
          cursor + 1 := by
        rw [show ProduceCall.order orders (.message i []) = .incrementLast
          from moves]
        exact Nat.mod_eq_of_lt (by omega)
      rw [steps] at middleSteady
      obtain ⟨later, next, nextRun, nextSteady, same⟩ :=
        inductionHypothesis middleSteady middleRun (by omega) (by omega)
      refine ⟨later, next, nextRun, nextSteady, fun other place different => ?_⟩
      rw [same other place different, routes, count_route,
        if_neg (by simp [different, ProduceCall.producer])]
      rfl

/-- A producer that was given its first partition twice and its second one
never. -/
theorem not_fair_of_counts
    {widths : List Nat}
    {cursor i width : Nat}
    {process : KafkaProducers}
    (steady : Steady widths cursor process)
    (found : widths[i]? = some width)
    (several : 1 < width)
    (twice : process.routes.count (i, 0) = 2)
    (never : process.routes.count (i, 1) = 0) :
    ¬ process.Fair := by
  intro fair
  obtain ⟨producer, present, rfl, -, -⟩ := steady.producer found
  have ahead := fair i producer present 0 (by omega) 1 several
  omega

/-- With a cursor that does not move, two calls go to the same partition. -/
theorem not_inTurn_of_assignLast
    {orders : StoreOrders}
    {producers : List KafkaProducer}
    {widths : List Nat}
    {width : Nat}
    (steady : Steady widths 0 { producers })
    (call : ProduceCall)
    (found : widths[call.producer]? = some width)
    (several : 1 < width)
    (stays : call.order orders = .assignLast) :
    ¬ InTurn orders producers := by
  intro inTurn
  obtain ⟨middle, middleRun, middleSteady, routes⟩ :=
    steady.extend .nil call found (by omega)
  rw [stays] at middleSteady
  change Steady widths 0 middle at middleSteady
  obtain ⟨last, lastRun, lastSteady, lastRoutes⟩ :=
    middleSteady.extend middleRun call found (by omega)
  refine not_fair_of_counts lastSteady found several ?_ ?_ (inTurn _ _ lastRun).1
  · simp [lastRoutes, routes]
  · simp [lastRoutes, routes]

/-- A second producer moves the cursor of the first one. -/
theorem not_inTurn_of_two
    {orders : StoreOrders}
    {producers : List KafkaProducer}
    {widths : List Nat}
    {i j width other : Nat}
    (steady : Steady widths 0 { producers })
    (moves : orders.message = .incrementLast)
    (found : widths[i]? = some width)
    (several : 1 < width)
    (foundOther : widths[j]? = some other)
    (different : i ≠ j) :
    ¬ InTurn orders producers := by
  intro inTurn
  have moved (size cursor k : Nat) (within : cursor + 1 < size) :
      (ProduceCall.order orders (.message k [])).next size cursor = cursor + 1 := by
    rw [show ProduceCall.order orders (.message k []) = .incrementLast from moves]
    exact Nat.mod_eq_of_lt within
  obtain ⟨first, firstRun, firstSteady, routes⟩ :=
    steady.extend .nil (.message i []) found (by omega)
  rw [moved width 0 i several] at firstSteady
  by_cases wide : 1 < other
  · -- The other producer brings the cursor back to the first partition.
    obtain ⟨later, middle, middleRun, middleSteady, same⟩ :=
      firstSteady.finish_round firstRun moves foundOther wide
    obtain ⟨last, lastRun, lastSteady, lastRoutes⟩ :=
      middleSteady.extend middleRun (.message i []) found (by omega)
    refine not_fair_of_counts lastSteady found several ?_ ?_ (inTurn _ _ lastRun).1
    · rw [lastRoutes, count_route, same i 0 different, routes, count_route]
      simp [ProduceCall.producer]
    · rw [lastRoutes, count_route, same i 1 different, routes, count_route]
      simp [ProduceCall.producer]
  · -- The other producer has no partition where the cursor stands.
    have outside := firstSteady.step_outside orders (.message j []) foundOther
      (by decide) (by omega)
    obtain ⟨next, stepped⟩ := (inTurn _ _ firstRun).2 (.message j []) (by
      obtain ⟨within, -⟩ := List.getElem?_eq_some_iff.mp foundOther
      rw [← firstSteady.widths, List.length_map] at within
      exact within)
    rw [outside] at stepped
    cases stepped

/-- A process with producers for all partitions, before any call. -/
theorem steady_start
    {producers : List KafkaProducer}
    (ready : ∀ producer ∈ producers, producer.Ready)
    (roundRobin : ∀ producer ∈ producers, producer.IsRoundRobin) :
    Steady (producers.map fun producer => producer.partitions.length) 0
      { producers } :=
  ⟨rfl, ready, roundRobin, rfl⟩

/-- What every call keeps holds in every order of calls. -/
theorem inTurn_of_even
    {orders : StoreOrders}
    {producers : List KafkaProducer}
    {widths : List Nat}
    (steady : Steady widths 0 { producers })
    (kept : ∀ process call next, Even widths process → process.Exists call →
      step orders process call = .ok next → Even widths next) :
    InTurn orders producers := by
  intro history process run
  have even : Even widths process := by
    apply run.invariant fun _ process => Even widths process
    · refine ⟨0, steady, fun i width found => ⟨?_, .start (by simp) width⟩⟩
      obtain ⟨producer, -, rfl, ready, -⟩ := steady.producer found
      exact List.length_pos_iff.mpr ready.nonempty
    · intro _ _ _ _ even present stepped
      exact kept _ _ _ even present stepped
  exact ⟨even.fair, fun call present => even.returns orders present⟩

/-- The choice is in range and fair in every order of calls exactly when every
producer has one partition, or when the cursor moves in both overloads and
there is one producer only. -/
theorem inTurn_iff
    {orders : StoreOrders}
    {producers : List KafkaProducer}
    (ready : ∀ producer ∈ producers, producer.Ready)
    (roundRobin : ∀ producer ∈ producers, producer.IsRoundRobin) :
    InTurn orders producers ↔
      (∀ producer ∈ producers, producer.partitions.length = 1) ∨
        orders.message = .incrementLast ∧ orders.vector = .incrementLast ∧
          producers.length ≤ 1 := by
  have steady := steady_start ready roundRobin
  constructor
  · intro inTurn
    by_contra fails
    obtain ⟨wide, moving⟩ := not_or.mp fails
    push Not at wide
    obtain ⟨producer, member, several⟩ := wide
    have positive := List.length_pos_iff.mpr (ready producer member).nonempty
    obtain ⟨i, present⟩ := List.getElem?_of_mem member
    have found : (producers.map fun producer => producer.partitions.length)[i]? =
        some producer.partitions.length := by
      rw [List.getElem?_map, present]
      rfl
    have stays {order : StoreOrder} (moved : order ≠ .incrementLast) :
        order = .assignLast := by
      cases order with
      | assignLast => rfl
      | incrementLast => exact absurd rfl moved
    by_cases message : orders.message = .incrementLast
    · by_cases vector : orders.vector = .incrementLast
      · have two : 1 < producers.length := by
          by_contra few
          exact moving ⟨message, vector, by omega⟩
        obtain ⟨j, within, different⟩ : ∃ j < producers.length, i ≠ j := by
          by_cases first : i = 0
          · exact ⟨1, two, by omega⟩
          · exact ⟨0, by omega, first⟩
        have foundOther :
            (producers.map fun producer => producer.partitions.length)[j]? =
              some producers[j].partitions.length := by
          rw [List.getElem?_map, List.getElem?_eq_getElem within]
          rfl
        exact not_inTurn_of_two steady message found (by omega) foundOther
          different inTurn
      · exact not_inTurn_of_assignLast steady (.vector i []) found (by omega)
          (stays vector) inTurn
    · exact not_inTurn_of_assignLast steady (.message i []) found (by omega)
        (stays message) inTurn
  · rintro (single | ⟨message, vector, few⟩)
    · apply inTurn_of_even steady
      intro process call next even present stepped
      refine even.step_single (fun width member => ?_) present stepped
      obtain ⟨producer, inProducers, rfl⟩ := List.mem_map.mp member
      exact single producer inProducers
    · apply inTurn_of_even steady
      intro process call next even present stepped
      have moves : call.order orders = .incrementLast := by
        cases call with
        | message _ _ => exact message
        | vector _ _ => exact vector
      match producers, few with
      | [], _ => exact even.step_single (by simp) present stepped
      | [_], _ => exact even.step_alone moves present stepped

/-- A producer for so many started partitions of the topic `t`. -/
def sampleWidth (width : Nat) : KafkaProducer :=
  { partitions := List.replicate width (KafkaPartition.sampleProducer {}) }

theorem sampleWidth_roundRobin (width : Nat) :
    (sampleWidth width).IsRoundRobin := ⟨rfl, rfl⟩

theorem sampleWidth_ready
    {width : Nat}
    (positive : 0 < width)
    (bounded : width < 2 ^ 31) :
    (sampleWidth width).Ready := by
  refine ⟨?_, ?_, fun p member => ?_⟩
  · simpa [sampleWidth] using Nat.pos_iff_ne_zero.mp positive
  · simpa [sampleWidth] using bounded
  · rw [List.eq_of_mem_replicate member]
    exact ⟨by decide +kernel, by decide +kernel⟩

/-- A single producer with two partitions, and a cursor that moves. -/
theorem inTurn_iff_alone :
    InTurn ⟨.incrementLast, .incrementLast⟩ [sampleWidth 2] := by
  have ready : ∀ producer ∈ [sampleWidth 2], producer.Ready := by
    simpa using sampleWidth_ready Nat.two_pos (by decide)
  have roundRobin : ∀ producer ∈ [sampleWidth 2], producer.IsRoundRobin := by
    simpa using sampleWidth_roundRobin 2
  exact (inTurn_iff ready roundRobin).mpr (.inr ⟨rfl, rfl, le_rfl⟩)

/-- With the old value stored last, two messages go to the first of two
partitions.  With the new value stored last, a producer with two partitions
leaves the cursor where a producer with one partition has none. -/
theorem not_in_turn :
    ¬ InTurn ⟨.assignLast, .assignLast⟩ [sampleWidth 2] ∧
      ¬ InTurn ⟨.incrementLast, .incrementLast⟩
        [sampleWidth 2, sampleWidth 1] := by
  have two := sampleWidth_ready Nat.two_pos (by decide)
  have one := sampleWidth_ready Nat.one_pos (by decide)
  constructor
  · have steady : Steady [2] 0 { producers := [sampleWidth 2] } :=
      ⟨by simp [sampleWidth], by simpa using two,
        by simpa using sampleWidth_roundRobin 2, rfl⟩
    exact not_inTurn_of_assignLast steady (.message 0 []) rfl (by decide) rfl
  · have steady : Steady [2, 1] 0
        { producers := [sampleWidth 2, sampleWidth 1] } :=
      ⟨by simp [sampleWidth], by simpa using ⟨two, one⟩,
        by simpa using ⟨sampleWidth_roundRobin 2, sampleWidth_roundRobin 1⟩, rfl⟩
    exact not_inTurn_of_two (i := 0) (j := 1) steady rfl rfl (by decide) rfl
      (by decide)

end KafkaProducers
end AsyncKafka
