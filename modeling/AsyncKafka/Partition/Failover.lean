import AsyncKafka.Partition.Motion

/-!
# Failing over to another broker

When the connection is lost the partition turns to the first broker of its list
that has another identifier than the leader it has lost.  It tries no other
one.  Whether that is enough depends on the list, and on which brokers accept
connections.
-/

namespace AsyncKafka
namespace KafkaPartition

open Wire Execution

/-- The broker that a failover turns to. -/
def candidate (brokers : List KafkaBroker) (leader : KafkaBroker) :
    Option KafkaBroker :=
  brokers.find? fun broker => broker.id != leader.id

/-- The writing path is a reconnect after the front frame was taken off. -/
theorem onWriteReady_eq_reconnect
    {p : KafkaPartition}
    {req : WriteBuffer}
    {rest : List WriteBuffer}
    (front : p.writeBuffers = req :: rest)
    (connect : Option Int)
    (next : WriteOutcome) :
    p.onWriteReady (.reset connect next) =
      ((p.popWriteBuffer req rest).record (.write req none)).reconnect connect
        next := by
  conv_lhs => unfold onWriteReady
  simp only [front]
  rfl

/-- Without a candidate the code dereferences the end of the list. -/
theorem reconnect_of_none
    {p : KafkaPartition}
    (missing : candidate p.brokers p.leader = none)
    (connect : Option Int)
    (writes : WriteOutcome) :
    p.reconnect connect writes = .error .undefinedBehaviour := by
  unfold candidate at missing
  unfold reconnect failover
  rw [missing]
  rfl

/-- Otherwise it moves to the candidate, and goes on if that accepts. -/
theorem reconnect_of_some
    {p : KafkaPartition}
    {broker : KafkaBroker}
    (found : candidate p.brokers p.leader = some broker)
    (connect : Option Int)
    (writes : WriteOutcome) :
    p.reconnect connect writes =
      if connect.isSome then
        (p.moveTo broker connect).createMetadataRequest.onWriteReady writes >>=
          wakeupFetchOfConsumer
      else .ok (p.moveTo broker connect) := by
  unfold candidate at found
  unfold reconnect failover
  rw [found]
  cases connect <;> rfl

theorem mem_of_candidate
    {brokers : List KafkaBroker}
    {leader broker : KafkaBroker}
    (found : candidate brokers leader = some broker) :
    broker ∈ brokers :=
  List.mem_of_find?_eq_some found

/-- The socket that is open after some effects. -/
def observeSocket (socket : Option Int) : Effect → Option Int
  | .connect fd => some fd
  | .close _ => none
  | _ => socket

/-- The socket that is open according to the trace. -/
def openSocket (p : KafkaPartition) : Option Int :=
  p.trace.foldl observeSocket none

/-- How often the reactor was told to shut down. -/
def shutdowns (p : KafkaPartition) : Nat := p.trace.count .shutdown

/-- What a failover from `p` to `q` is for: the leader is a broker of the list,
the partition is connected to it if any broker of the list accepts connections,
and the reactor was shut down only if none does. -/
structure Rescued
    (accepts : KafkaBroker → Bool)
    (p q : KafkaPartition) : Prop where
  inside : q.leader ∈ p.brokers
  connected : (∃ broker ∈ p.brokers, accepts broker = true) →
    accepts q.leader = true ∧ q.openSocket = some q.sockFd
  shutdown : q.shutdowns = p.shutdowns ∨
    ∀ broker ∈ p.brokers, accepts broker = false

/-- What `connectServer` returns agrees with which brokers accept connections,
in every reconnect that the outcome leads to. -/
def WriteOutcome.AgreesWith
    (accepts : KafkaBroker → Bool)
    (brokers : List KafkaBroker)
    (leader : KafkaBroker) : WriteOutcome → Prop
  | .reset connect next => ∀ broker, candidate brokers leader = some broker →
      connect.isSome = accepts broker ∧
        (accepts broker = true → next.AgreesWith accepts brokers broker)
  | _ => True

/-- Waking the fetch event does not fail. -/
def Awake (p : KafkaPartition) : Prop :=
  p.partitionType = .consumer → p.fetchEvent.isOpen = true

/-- Every time the connection is lost there is a broker with another identifier
than the leader, and the first one accepts connections and the partition can
go on, unless no broker accepts any. -/
def WriteOutcome.FindsBroker
    (accepts : KafkaBroker → Bool)
    (brokers : List KafkaBroker)
    (awake : Prop)
    (leader : KafkaBroker) : WriteOutcome → Prop
  | .reset _ next => ∃ broker, candidate brokers leader = some broker ∧
      (accepts broker = true ∧ awake ∧
          next.FindsBroker accepts brokers awake broker ∨
        ∀ other ∈ brokers, accepts other = false)
  | _ => True

/-- The loss of a connection, as the reset of a write that stands for it. -/
def lossOf (p : KafkaPartition) : Event → Option WriteOutcome
  | .readReady .closed surroundings =>
      some (.reset surroundings.connect surroundings.writes)
  | .readReady .reset surroundings =>
      some (.reset surroundings.connect surroundings.writes)
  | .writeReady (.reset connect next) =>
      if p.writeBuffers.isEmpty then none else some (.reset connect next)
  | _ => none

/-- What a failover looks at. -/
structure Standing where
  brokers : List KafkaBroker
  leader : KafkaBroker
  sockFd : Int
  openSocket : Option Int
  shutdowns : Nat

def standing (p : KafkaPartition) : Standing :=
  ⟨p.brokers, p.leader, p.sockFd, p.openSocket, p.shutdowns⟩

theorem standing_write
    (p : KafkaPartition)
    (req : WriteBuffer)
    (rest : List WriteBuffer)
    (accepted : Option Nat) :
    ((p.popWriteBuffer req rest).record (.write req accepted)).standing =
      p.standing := by
  simp [standing, openSocket, shutdowns, record, popWriteBuffer,
    observeSocket]

theorem standing_createMetadataRequest (p : KafkaPartition) :
    p.createMetadataRequest.standing = p.standing := rfl

theorem standing_wakeupFetchOfConsumer
    {p q : KafkaPartition}
    (woken : p.wakeupFetchOfConsumer = .ok q) :
    q.standing = p.standing := by
  unfold wakeupFetchOfConsumer at woken
  split at woken
  · obtain ⟨fetchEvent, -, finished⟩ := bind_eq_ok.mp woken
    obtain rfl := Except.ok.inj finished
    rfl
  · obtain rfl := Except.ok.inj woken
    rfl

/-- Moving to a broker that refuses ends without a connection. -/
theorem standing_moveTo_none (p : KafkaPartition) (broker : KafkaBroker) :
    (p.moveTo broker none).standing =
      ⟨p.brokers, broker, -1, none, p.shutdowns + 1⟩ := by
  simp [standing, openSocket, shutdowns, moveTo, closeSocket, record,
    observeSocket]

theorem standing_moveTo_some
    (p : KafkaPartition)
    (broker : KafkaBroker)
    (fd : Int) :
    (p.moveTo broker (some fd)).standing =
      ⟨p.brokers, broker, fd, some fd, p.shutdowns⟩ := by
  simp [standing, openSocket, shutdowns, moveTo, closeSocket, connectLeader,
    registerSocket, record, observeSocket]

/-- Whether a partition was rescued depends on how it stands. -/
theorem Rescued.congr
    {accepts : KafkaBroker → Bool}
    {p p' q q' : KafkaPartition}
    (brokers : p'.brokers = p.brokers)
    (shutdowns : p'.shutdowns = p.shutdowns)
    (after : q'.standing = q.standing) :
    Rescued accepts p' q' ↔ Rescued accepts p q := by
  obtain ⟨-, leader, sockFd, socket, count⟩ := Standing.mk.inj after
  constructor
  · rintro ⟨inside, connected, shutdown⟩
    rw [brokers, leader] at inside
    rw [brokers, leader, sockFd, socket] at connected
    rw [brokers, count, shutdowns] at shutdown
    exact ⟨inside, connected, shutdown⟩
  · rintro ⟨inside, connected, shutdown⟩
    rw [← shutdowns, ← count] at shutdown
    refine ⟨?_, ?_, ?_⟩
    · rwa [brokers, leader]
    · rwa [brokers, leader, sockFd, socket]
    · rwa [brokers]

/-- Waking the fetch event returns exactly when it has been initialised, which
only matters to a consumer. -/
theorem exists_wakeupFetchOfConsumer_iff (p : KafkaPartition) :
    (∃ q, p.wakeupFetchOfConsumer = .ok q) ↔ p.Awake := by
  unfold wakeupFetchOfConsumer Awake
  split
  · rename_i consumer
    constructor
    · rintro ⟨q, woken⟩ -
      obtain ⟨fetchEvent, woke, -⟩ := bind_eq_ok.mp woken
      exact (WakeupEventSource.wakeup_eq_ok.mp woke).1
    · intro awake
      exact ⟨_, bind_eq_ok.mpr
        ⟨_, WakeupEventSource.wakeup_eq_ok.mpr ⟨awake consumer, rfl⟩, rfl⟩⟩
  · rename_i producer
    exact ⟨fun _ consumer => absurd consumer producer, fun _ => ⟨p, rfl⟩⟩

/-- Writing does not change whether the fetch event can be woken. -/
theorem awake_onWriteReady
    {p q : KafkaPartition}
    {req : WriteBuffer}
    {rest : List WriteBuffer}
    {outcome : WriteOutcome}
    (front : p.writeBuffers = req :: rest)
    (returned : p.onWriteReady outcome = .ok q) :
    q.Awake ↔ p.Awake := by
  have sameType : q.partitionType = p.partitionType := by
    obtain ⟨effects, ⟨⟨_, _, _, _, rfl⟩, -⟩, -, -⟩ :=
      onWriteReady_cons front returned
    rfl
  have sameBorn : q.line.born = p.line.born := by
    rcases onWriteReady_line front returned with ⟨-, sent⟩ | ⟨-, replaced⟩
    · rw [sent]
      rfl
    · obtain ⟨_, -, -, after⟩ := replaced
      rw [after]
      rfl
  unfold Awake
  rw [sameType]
  exact imp_congr_right fun _ => by rw [show q.fetchEvent.isOpen = _ from sameBorn]; rfl

/-- The partition is connected to a broker of its list. -/
def ConnectedInside (accepts : KafkaBroker → Bool) (p : KafkaPartition) : Prop :=
  p.leader ∈ p.brokers ∧ accepts p.leader = true ∧
    p.openSocket = some p.sockFd

/-- Connected as it was, the partition needs no rescue. -/
theorem ConnectedInside.rescued
    {accepts : KafkaBroker → Bool}
    {p q : KafkaPartition}
    (connected : ConnectedInside accepts p)
    (same : q.standing = p.standing) :
    Rescued accepts p q := by
  obtain ⟨inside, accepted, opened⟩ := connected
  have stays : Rescued accepts p p := ⟨inside, fun _ => ⟨accepted, opened⟩, .inl rfl⟩
  exact (Rescued.congr rfl rfl same).mpr stays

/-- What an outcome of the writes has to allow for a rescue. -/
def RescuesFrom (accepts : KafkaBroker → Bool) (outcome : WriteOutcome) : Prop :=
  ∀ {p : KafkaPartition} {req : WriteBuffer} {rest : List WriteBuffer},
    p.writeBuffers = req :: rest →
    ConnectedInside accepts p →
    outcome.AgreesWith accepts p.brokers p.leader →
    ((∃ q, p.onWriteReady outcome = .ok q ∧ Rescued accepts p q) ↔
      outcome.FindsBroker accepts p.brokers p.Awake p.leader)

/-- A broker that refuses rescues only a partition that no broker accepts. -/
theorem reconnect_refused_iff
    {accepts : KafkaBroker → Bool}
    {p : KafkaPartition}
    {broker : KafkaBroker}
    (found : candidate p.brokers p.leader = some broker)
    (writes : WriteOutcome) :
    (∃ q, p.reconnect none writes = .ok q ∧ Rescued accepts p q) ↔
      ∀ other ∈ p.brokers, accepts other = false := by
  have moved : p.reconnect none writes = .ok (p.moveTo broker none) :=
    reconnect_of_some found none writes
  obtain ⟨-, leader, -, socket, -⟩ :=
    Standing.mk.inj (standing_moveTo_none p broker)
  rw [moved]
  constructor
  · rintro ⟨q, returned, rescued⟩ other member
    obtain rfl := Except.ok.inj returned
    by_contra accepted
    rw [Bool.not_eq_false] at accepted
    have opened := (rescued.connected ⟨other, member, accepted⟩).2
    rw [socket] at opened
    cases opened
  · intro none
    refine ⟨_, rfl, ?_, ?_, .inr none⟩
    · rw [leader]
      exact mem_of_candidate found
    · rintro ⟨other, member, accepted⟩
      rw [none other member] at accepted
      cases accepted

/-- A broker that accepts rescues the partition if it can write to it. -/
theorem reconnect_accepted_iff
    {accepts : KafkaBroker → Bool}
    {p : KafkaPartition}
    {broker : KafkaBroker}
    {writes : WriteOutcome}
    (later : RescuesFrom accepts writes)
    (found : candidate p.brokers p.leader = some broker)
    (accepted : accepts broker = true)
    (agrees : writes.AgreesWith accepts p.brokers broker)
    (fd : Int) :
    (∃ q, p.reconnect (some fd) writes = .ok q ∧ Rescued accepts p q) ↔
      p.Awake ∧ writes.FindsBroker accepts p.brokers p.Awake broker := by
  let moved := (p.moveTo broker (some fd)).createMetadataRequest
  have reconnected : p.reconnect (some fd) writes =
      moved.onWriteReady writes >>= wakeupFetchOfConsumer :=
    reconnect_of_some found (some fd) writes
  have front : moved.writeBuffers =
      (p.moveTo broker (some fd)).metadataBuffer :: p.writeBuffers := rfl
  have standing : moved.standing =
      ⟨p.brokers, broker, fd, some fd, p.shutdowns⟩ :=
    (standing_createMetadataRequest _).trans (standing_moveTo_some p broker fd)
  obtain ⟨brokers, leader, sockFd, socket, shutdowns⟩ := Standing.mk.inj standing
  have inside : ConnectedInside accepts moved := by
    refine ⟨?_, ?_, by rw [socket, sockFd]⟩
    · rw [brokers, leader]
      exact mem_of_candidate found
    · rw [leader]
      exact accepted
  have awake : moved.Awake = p.Awake := rfl
  have rescues := later front inside (by rwa [brokers, leader])
  rw [brokers, leader, awake] at rescues
  rw [reconnected, ← rescues]
  constructor
  · rintro ⟨q, returned, rescued⟩
    obtain ⟨written, wrote, woken⟩ := bind_eq_ok.mp returned
    refine ⟨?_, written, wrote, ?_⟩
    · rw [← awake, ← awake_onWriteReady front wrote]
      exact (exists_wakeupFetchOfConsumer_iff written).mp ⟨q, woken⟩
    · exact (Rescued.congr brokers shutdowns
        (standing_wakeupFetchOfConsumer woken).symm).mpr rescued
  · rintro ⟨canWake, written, wrote, rescued⟩
    rw [← awake, ← awake_onWriteReady front wrote] at canWake
    obtain ⟨q, woken⟩ := (exists_wakeupFetchOfConsumer_iff written).mpr canWake
    refine ⟨q, bind_eq_ok.mpr ⟨written, wrote, woken⟩, ?_⟩
    exact (Rescued.congr brokers shutdowns
      (standing_wakeupFetchOfConsumer woken).symm).mp rescued

/-- A lost connection, given what the outcome of the writes on the next one has
to allow. -/
theorem reconnect_iff
    {accepts : KafkaBroker → Bool}
    {writes : WriteOutcome}
    (later : RescuesFrom accepts writes)
    {p : KafkaPartition}
    {connect : Option Int}
    (agrees : (WriteOutcome.reset connect writes).AgreesWith accepts p.brokers
      p.leader) :
    (∃ q, p.reconnect connect writes = .ok q ∧ Rescued accepts p q) ↔
      (WriteOutcome.reset connect writes).FindsBroker accepts p.brokers p.Awake
        p.leader := by
  unfold WriteOutcome.FindsBroker
  unfold WriteOutcome.AgreesWith at agrees
  cases found : candidate p.brokers p.leader with
  | none => simp [reconnect_of_none found]
  | some broker =>
      obtain ⟨answer, agreesLater⟩ := agrees broker found
      simp only [Option.some.injEq, exists_eq_left']
      cases connect with
      | none =>
          have refused : accepts broker = false := answer.symm
          simp only [reconnect_refused_iff found, refused, Bool.false_eq_true,
            false_and, false_or]
      | some fd =>
          have accepted : accepts broker = true := answer.symm
          have some : ¬ ∀ other ∈ p.brokers, accepts other = false := fun none =>
            absurd accepted (by simp [none broker (mem_of_candidate found)])
          simp only [reconnect_accepted_iff later found accepted
            (agreesLater accepted), accepted, true_and, some, or_false]

/-- A reset of the write of the front frame. -/
theorem onWriteReady_reset_iff
    {accepts : KafkaBroker → Bool}
    {next : WriteOutcome}
    (later : RescuesFrom accepts next)
    {p : KafkaPartition}
    {req : WriteBuffer}
    {rest : List WriteBuffer}
    {connect : Option Int}
    (front : p.writeBuffers = req :: rest)
    (agrees : (WriteOutcome.reset connect next).AgreesWith accepts p.brokers
      p.leader) :
    (∃ q, p.onWriteReady (.reset connect next) = .ok q ∧ Rescued accepts p q) ↔
      (WriteOutcome.reset connect next).FindsBroker accepts p.brokers p.Awake
        p.leader := by
  let popped := (p.popWriteBuffer req rest).record (.write req none)
  obtain ⟨brokers, leader, -, -, shutdowns⟩ :=
    Standing.mk.inj (standing_write p req rest none)
  have same (q : KafkaPartition) :
      Rescued accepts popped q ↔ Rescued accepts p q :=
    Rescued.congr brokers shutdowns rfl
  have rescues : (∃ q, popped.reconnect connect next = .ok q ∧
      Rescued accepts popped q) ↔ _ :=
    reconnect_iff later (by rwa [brokers, leader])
  simp only [same] at rescues
  rw [onWriteReady_eq_reconnect front]
  exact rescues

/-- Writing on a connection to a broker of the list. -/
theorem rescuesFrom (accepts : KafkaBroker → Bool) (outcome : WriteOutcome) :
    RescuesFrom accepts outcome := by
  induction outcome with
  | written | short | failed =>
      intro p req rest front connected _
      exact iff_of_true ⟨_, onWriteReady_unreset front rfl,
        connected.rescued (standing_write p req rest _)⟩ trivial
  | reset connect next inductionHypothesis =>
      intro p req rest front _ agrees
      exact onWriteReady_reset_iff inductionHypothesis front agrees

/-- When the connection is lost, in reading or in writing, the partition is
rescued if and only if there is a broker with another identifier than the
leader and the first such broker accepts connections, or no broker of the list
does; and so again for every connection that is lost while the partition asks
for the metadata.  A consumer must have started to fetch. -/
theorem failover_iff
    {crc32 : Bytes → UInt32}
    {accepts : KafkaBroker → Bool}
    {p : KafkaPartition}
    {event : Event}
    {outcome : WriteOutcome}
    (lost : p.lossOf event = some outcome)
    (agrees : outcome.AgreesWith accepts p.brokers p.leader) :
    (∃ q, step crc32 p event = .ok q ∧ Rescued accepts p q) ↔
      outcome.FindsBroker accepts p.brokers p.Awake p.leader := by
  unfold lossOf at lost
  split at lost
  · obtain rfl := Option.some.inj lost
    rw [step, onReadReady, readError]
    exact reconnect_iff (rescuesFrom accepts _) agrees
  · obtain rfl := Option.some.inj lost
    rw [step, onReadReady, readError]
    exact reconnect_iff (rescuesFrom accepts _) agrees
  · rename_i connect next
    split at lost
    · cases lost
    · rename_i waiting
      obtain rfl := Option.some.inj lost
      obtain ⟨req, rest, front⟩ := List.exists_cons_of_ne_nil
        (fun empty => waiting (List.isEmpty_iff.mpr empty))
      exact onWriteReady_reset_iff (rescuesFrom accepts next) front agrees
  · cases lost

/-- The connection to the first of two brokers is lost, and the second one
accepts. -/
theorem failover_iff_second :
    ∃ q, step Crc32.checksum (sampleProducer {})
        (.readReady .closed { connect := some 10 }) = .ok q ∧
      Rescued (fun broker => broker.id == 2) (sampleProducer {}) q := by
  have second : candidate (sampleProducer {}).brokers (sampleProducer {}).leader =
      some { id := 2, host := [98], ip := [50], port := 9093 } := by
    decide +kernel
  have lost : (sampleProducer {}).lossOf
      (.readReady .closed { connect := some 10 }) =
        some (.reset (some 10) .written) := rfl
  refine (failover_iff lost ?_).mpr ⟨_, second, .inl ⟨rfl, ?_, trivial⟩⟩
  · intro broker found
    obtain rfl := Option.some.inj (second.symm.trans found)
    exact ⟨rfl, fun _ => trivial⟩
  · intro consumer
    exact absurd consumer (by decide +kernel)

/-- A producer with another list of brokers. -/
def sampleProducerOf (brokers : List KafkaBroker) : KafkaPartition :=
  { sampleProducer {} with brokers }

/-- A list of one broker has no other one to turn to.  With three brokers, the
second of which does not accept connections, the partition gives up although
the third one does. -/
theorem failover_gives_up :
    step Crc32.checksum (sampleProducerOf [{ id := 1 }])
        (.readReady .closed { connect := some 10 }) =
      .error .undefinedBehaviour ∧
    ∃ q, step Crc32.checksum
        (sampleProducerOf [{ id := 1 }, { id := 2 }, { id := 3 }])
        (.readReady .closed { connect := none }) = .ok q ∧
      q.shutdowns = 1 ∧
      ¬ Rescued (fun broker => broker.id == 3)
        (sampleProducerOf [{ id := 1 }, { id := 2 }, { id := 3 }]) q := by
  refine ⟨by decide +kernel, ?_⟩
  obtain ⟨q, stepped, checked⟩ := exists_ok_of_any
    (step Crc32.checksum
      (sampleProducerOf [{ id := 1 }, { id := 2 }, { id := 3 }])
      (.readReady .closed { connect := none }))
    (fun q => q.shutdowns = 1 ∧ q.openSocket = none) (by decide +kernel)
  obtain ⟨once, closed⟩ := of_decide_eq_true checked
  refine ⟨q, stepped, once, fun rescued => ?_⟩
  have connected := (rescued.connected ⟨{ id := 3 }, by decide +kernel, rfl⟩).2
  rw [closed] at connected
  cases connected

end KafkaPartition
end AsyncKafka
