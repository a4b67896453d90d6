import AsyncKafka.Client.Startup
import AsyncKafka.Library.Table

/-!
# Starting all partitions and starting one

The branch of `init` for all partitions and the branch for one of them look at
different fields of a response: the error code and the leader of every listed
partition, or the leader of one partition as `PartitionLeader` finds it.  They
agree only on responses on which these fields agree.
-/

namespace AsyncKafka

open Wire Execution

namespace KafkaClient

/-- The partition that `init` with a single partition creates from one answer
alone, if it creates one. -/
def createsAlone
    (client : KafkaClient)
    (partition : Int)
    (answer : MetadataAnswer) : Option NewPartition :=
  let alone := { client with brokers := [], partitions := [] }
  match (alone.addBrokers answer).initPartition partition answer.response with
  | .ok (.done c) => c.partitions.head?
  | _ => none

/-- The leader of that partition. -/
def leaderAlone
    (client : KafkaClient)
    (partition : Int)
    (answer : MetadataAnswer) : Option Int :=
  (client.createsAlone partition answer).map fun new => new.leader.id

/-- Whether an answer lists partitions of the topic, each of which `init` with
that single partition would create. -/
def isReady (client : KafkaClient) (answer : MetadataAnswer) : Bool :=
  !(client.listed answer).isEmpty &&
    (client.listed answer).all fun entry =>
      (client.createsAlone entry.partition answer).isSome

/-- The first such answer and the rounds that follow it. -/
def firstReady (client : KafkaClient) :
    List MetadataRound → Option (MetadataAnswer × List MetadataRound)
  | [] => none
  | round :: rounds =>
      match round.answer with
      | .error _ => client.firstReady rounds
      | .ok answer =>
          if client.isReady answer then some (answer, rounds)
          else client.firstReady rounds

/-- `c` has exactly one partition for every partition that an answer lists, with
the leader that `init` with that single partition finds, and no other one. -/
def MatchesSingle
    (client : KafkaClient)
    (answer : MetadataAnswer)
    (c : KafkaClient) : Prop :=
  ∀ partition,
    (c.partitions.filter fun new => new.partition = partition).map
        (fun new => new.leader.id) =
      if partition ∈ (client.listed answer).map MetadataPartition.partition then
        (client.leaderAlone partition answer).toList
      else []

/-- The start with all partitions agrees with the start with a single one: it
stops at the first answer from which every listed partition would be created,
creates exactly those, and asks again after every earlier answer. -/
def StartsLikeSingle (client : KafkaClient) (rounds : List MetadataRound) :
    Prop :=
  match client.firstReady rounds with
  | none => ∃ c, client.init true rounds = .ok (.waiting c)
  | some (answer, unread) =>
      ∃ c, client.init true rounds = .ok (.finished c unread) ∧
        client.MatchesSingle answer c

/-- Every answer before the first ready one lists the topic without a
partition, and in the first ready one no listed partition carries an error code
and none is listed twice. -/
def StartsCleanly (client : KafkaClient) : List MetadataRound → Prop
  | [] => True
  | round :: rounds => ∀ answer, round.answer = .ok answer →
      if client.isReady answer then
        (∀ entry ∈ client.listed answer, entry.errorCode = 0) ∧
          ((client.listed answer).map MetadataPartition.partition).Nodup
      else client.AsksAgain answer ∧ client.StartsCleanly rounds

/-- A broker of an answer is found after it was added. -/
theorem findLeader_addBrokers
    (client : KafkaClient)
    {answer : MetadataAnswer}
    {broker : MetadataBroker}
    (member : broker ∈ answer.response.brokers) :
    ((client.addBrokers answer).findLeader broker.nodeId).isSome = true := by
  refine List.find?_isSome.mpr ⟨kafkaBroker answer.resolve broker, ?_, by simp [kafkaBroker]⟩
  exact List.mem_append_right _ (List.mem_map_of_mem member)

/-- The leader that a response names, in terms of what it lists. -/
theorem partitionLeader_eq
    (client : KafkaClient)
    (partition : Int)
    (answer : MetadataAnswer) :
    answer.response.partitionLeader client.topic partition =
      ((client.listed answer).find? fun entry =>
          entry.partition == partition).bind fun entry =>
        if entry.leader = metadataLeaderUndecided then none
        else answer.response.brokers.find? fun broker =>
          broker.nodeId == entry.leader := by
  unfold MetadataResponse.partitionLeader listed
  cases answer.response.topics.find? fun topic =>
      topic.topicName == client.topic with
  | none => rfl
  | some topic =>
      dsimp only
      cases topic.partitions.find? fun entry => entry.partition == partition <;>
        rfl

/-- Without a leader for the partition the client asks again. -/
theorem initPartition_of_none
    {client : KafkaClient}
    {partition : Int}
    {response : MetadataResponse}
    (unnamed : response.partitionLeader client.topic partition = none) :
    client.initPartition partition response = .ok (.retry client) := by
  simp only [initPartition, unnamed]

/-- With a leader among the brokers the partition is created. -/
theorem initPartition_of_some
    {client : KafkaClient}
    {partition : Int}
    {response : MetadataResponse}
    {leader : MetadataBroker}
    {kLeader : KafkaBroker}
    (named : response.partitionLeader client.topic partition = some leader)
    (found : client.findLeader leader.nodeId = some kLeader) :
    client.initPartition partition response =
      .ok (.done (client.createPartition partition kLeader)) := by
  simp only [initPartition, named, found]

/-- The start with a single partition finds the leader that the response
names. -/
theorem leaderAlone_eq
    (client : KafkaClient)
    (partition : Int)
    (answer : MetadataAnswer) :
    client.leaderAlone partition answer =
      (answer.response.partitionLeader client.topic partition).map
        MetadataBroker.nodeId := by
  let alone : KafkaClient := { client with brokers := [], partitions := [] }
  have sameTopic : (alone.addBrokers answer).topic = client.topic := rfl
  unfold leaderAlone createsAlone
  cases named : answer.response.partitionLeader client.topic partition with
  | none =>
      rw [← sameTopic] at named
      simp [alone, initPartition_of_none named]
  | some leader =>
      have member : leader ∈ answer.response.brokers := by
        rw [partitionLeader_eq] at named
        obtain ⟨entry, -, found⟩ := Option.bind_eq_some_iff.mp named
        split at found
        · cases found
        · exact List.mem_of_find?_eq_some found
      obtain ⟨kLeader, found⟩ := Option.isSome_iff_exists.mp
        (alone.findLeader_addBrokers member)
      rw [← sameTopic] at named
      dsimp only
      rw [initPartition_of_some named found]
      exact congrArg some (id_of_findLeader found)

/-- A partition that the start with a single one would create has the leader of
its first entry, which is a broker of the answer. -/
theorem leaderAlone_of_isSome
    {client : KafkaClient}
    {partition : Int}
    {answer : MetadataAnswer}
    {entry : MetadataPartition}
    (found : (client.listed answer).find?
      (fun entry => entry.partition == partition) = some entry)
    (created : (client.leaderAlone partition answer).isSome = true) :
    client.leaderAlone partition answer = some entry.leader ∧
      ((client.addBrokers answer).findLeader entry.leader).isSome = true := by
  rw [leaderAlone_eq, partitionLeader_eq, found, Option.bind_some] at created ⊢
  split at created
  · cases created
  · rename_i decided
    rw [if_neg decided]
    rw [Option.isSome_map] at created
    obtain ⟨broker, named⟩ := Option.isSome_iff_exists.mp created
    have same : broker.nodeId = entry.leader := by
      simpa using List.find?_some named
    rw [named, Option.map_some, same]
    refine ⟨rfl, ?_⟩
    rw [← same]
    exact client.findLeader_addBrokers (List.mem_of_find?_eq_some named)

theorem isReady_iff (client : KafkaClient) (answer : MetadataAnswer) :
    client.isReady answer = true ↔
      client.listed answer ≠ [] ∧ ∀ entry ∈ client.listed answer,
        (client.leaderAlone entry.partition answer).isSome = true := by
  simp [isReady, leaderAlone]

/-- Among entries with distinct numbers the one of a number is found. -/
theorem find_entry
    {entries : List MetadataPartition}
    (distinct : (entries.map MetadataPartition.partition).Nodup)
    {entry : MetadataPartition}
    (member : entry ∈ entries) :
    entries.find? (fun other => other.partition == entry.partition) =
      some entry := by
  have some : (entries.find? fun other =>
      other.partition == entry.partition).isSome = true :=
    List.find?_isSome.mpr ⟨entry, member, by simp⟩
  obtain ⟨other, found⟩ := Option.isSome_iff_exists.mp some
  have same : other.partition = entry.partition := by
    simpa using List.find?_some found
  rw [found, List.inj_on_of_nodup_map distinct
    (List.mem_of_find?_eq_some found) member same]

/-- It is the only one of its number. -/
theorem filter_entry
    {entries : List MetadataPartition}
    (distinct : (entries.map MetadataPartition.partition).Nodup)
    {entry : MetadataPartition}
    (member : entry ∈ entries) :
    (entries.filter fun other => other.partition = entry.partition) =
      [entry] := by
  let table := entries.map fun other => (other.partition, other)
  have keys : (table.map Prod.fst).Nodup := by
    simpa [table, Function.comp_def] using distinct
  have held : (entry.partition, entry) ∈ table :=
    List.mem_map.mpr ⟨entry, member, rfl⟩
  have found := (Table.lookup_eq_some_iff_mem keys).mpr held
  have alone := Table.filter_key keys entry.partition
  rw [found] at alone
  simpa [table, List.filter_map, Function.comp_def] using alone

/-- The leaders of the created partitions of a number, in terms of the entries
that they were created from. -/
theorem leaders_created
    {client c : KafkaClient}
    {entries : List MetadataPartition}
    (noPartitions : client.partitions = [])
    (created : Creates client
      (entries.map fun entry => (entry.partition, entry.leader)) c)
    (partition : Int) :
    (c.partitions.filter fun new => new.partition = partition).map
        (fun new => new.leader.id) =
      (entries.filter fun entry => entry.partition = partition).map
        MetadataPartition.leader := by
  have numbers := created.numbers
  rw [noPartitions, List.map_nil, List.nil_append] at numbers
  have filtered := congrArg (fun pairs : List (Int × Int) =>
    (pairs.filter fun pair => pair.1 = partition).map Prod.snd) numbers
  simp only [List.filter_map, List.map_map] at filtered
  exact filtered

/-- From a ready answer the created partitions match the single ones exactly
when no partition is listed twice. -/
theorem matchesSingle_iff
    {client started c : KafkaClient}
    {answer : MetadataAnswer}
    (noPartitions : started.partitions = [])
    (ready : client.isReady answer = true)
    (created : Creates started
      ((client.listed answer).map fun entry => (entry.partition, entry.leader))
      c) :
    client.MatchesSingle answer c ↔
      ((client.listed answer).map MetadataPartition.partition).Nodup := by
  obtain ⟨-, single⟩ := (client.isReady_iff answer).mp ready
  unfold MatchesSingle
  simp only [leaders_created noPartitions created]
  constructor
  · intro matched
    refine List.nodup_iff_count_le_one.mpr fun partition => ?_
    have count := congrArg List.length (matched partition)
    rw [List.length_map] at count
    rw [List.count_eq_countP, List.countP_map, List.countP_eq_length_filter]
    have most : (if partition ∈
        (client.listed answer).map MetadataPartition.partition then
          (client.leaderAlone partition answer).toList else []).length ≤ 1 := by
      split
      · exact Option.length_toList_le
      · exact Nat.zero_le 1
    have same : (client.listed answer).filter
        ((fun other => other == partition) ∘ MetadataPartition.partition) =
          (client.listed answer).filter fun entry => entry.partition = partition :=
      List.filter_congr fun entry _ => by
        rw [Bool.eq_iff_iff, Function.comp_apply, beq_iff_eq, decide_eq_true_iff]
    rw [same, count]
    exact most
  · intro distinct partition
    split
    · rename_i inside
      obtain ⟨entry, member, rfl⟩ := List.mem_map.mp inside
      have found := find_entry distinct member
      rw [(leaderAlone_of_isSome found (single entry member)).1,
        filter_entry distinct member]
      rfl
    · rename_i outside
      rw [List.map_eq_nil_iff, List.filter_eq_nil_iff]
      intro entry member
      simpa using fun same : entry.partition = partition =>
        outside (same ▸ List.mem_map_of_mem member)

/-! ## Retries -/

/-- What a client looks for in an answer does not depend on earlier answers. -/
theorem firstReady_addBrokers
    (client : KafkaClient)
    (answer : MetadataAnswer)
    (rounds : List MetadataRound) :
    (client.addBrokers answer).firstReady rounds = client.firstReady rounds := by
  induction rounds with
  | nil => rfl
  | cons round rounds inductionHypothesis =>
      unfold firstReady
      rw [inductionHypothesis]
      rfl

theorem startsCleanly_addBrokers
    (client : KafkaClient)
    (answer : MetadataAnswer)
    (rounds : List MetadataRound) :
    (client.addBrokers answer).StartsCleanly rounds =
      client.StartsCleanly rounds := by
  induction rounds with
  | nil => rfl
  | cons round rounds inductionHypothesis =>
      unfold StartsCleanly
      rw [inductionHypothesis]
      rfl

theorem length_of_firstReady
    {client : KafkaClient}
    {rounds unread : List MetadataRound}
    {answer : MetadataAnswer}
    (found : client.firstReady rounds = some (answer, unread)) :
    unread.length < rounds.length := by
  induction rounds with
  | nil => cases found
  | cons round rounds inductionHypothesis =>
      unfold firstReady at found
      rw [List.length_cons]
      split at found
      · exact Nat.lt_succ_of_lt (inductionHypothesis found)
      · split at found
        · obtain ⟨-, rfl⟩ := Prod.mk.inj (Option.some.inj found)
          exact Nat.lt_succ_self _
        · exact Nat.lt_succ_of_lt (inductionHypothesis found)

/-- One round of a client for all partitions. -/
theorem sendMetaDataRequest_cons
    {client : KafkaClient}
    {round : MetadataRound}
    {answer : MetadataAnswer}
    (all : client.partition = kafkaAllPartitions)
    (answered : round.answer = .ok answer)
    (rounds : List MetadataRound) :
    client.sendMetaDataRequest (round :: rounds) =
      (client.addBrokers answer).initAllPartitions answer.response >>= fun
        | .retry client => client.sendMetaDataRequest rounds
        | .done client => return .finished client rounds := by
  have handled : client.handleAnswer answer =
      (client.addBrokers answer).initAllPartitions answer.response :=
    if_pos all
  have used (continuation : MetadataAnswer → Except Halt InitState) :
      (round.answer >>= continuation) = continuation answer := by
    rw [answered, ok_bind]
  exact (used _).trans (congrArg (fun result => result >>= _) handled)

/-- A ready answer ends the start with the right partitions exactly when it has
no error code and lists no partition twice. -/
theorem startsLikeSingle_ready
    {client : KafkaClient}
    {round : MetadataRound}
    {answer : MetadataAnswer}
    (all : client.partition = kafkaAllPartitions)
    (noPartitions : client.partitions = [])
    (answered : round.answer = .ok answer)
    (ready : client.isReady answer = true)
    (rounds : List MetadataRound) :
    client.StartsLikeSingle (round :: rounds) ↔
      (∀ entry ∈ client.listed answer, entry.errorCode = 0) ∧
        ((client.listed answer).map MetadataPartition.partition).Nodup := by
  obtain ⟨nonempty, single⟩ := (client.isReady_iff answer).mp ready
  have first : client.firstReady (round :: rounds) = some (answer, rounds) := by
    simp [firstReady, answered, ready]
  have noneYet : (client.addBrokers answer).partitions = [] := noPartitions
  have sent : client.init true (round :: rounds) =
      ((client.addBrokers answer).createPartitions (client.listed answer)).map
        fun c => .finished c rounds := by
    refine (sendMetaDataRequest_cons all answered rounds).trans ?_
    rw [initAllPartitions_of_listed
      (show (client.addBrokers answer).listed answer ≠ [] from nonempty)]
    change _ = ((client.addBrokers answer).createPartitions
      ((client.addBrokers answer).listed answer)).map _
    cases (client.addBrokers answer).createPartitions
      ((client.addBrokers answer).listed answer) <;> rfl
  unfold StartsLikeSingle
  simp only [first, sent]
  constructor
  · rintro ⟨c, finished, matched⟩
    cases returned :
        (client.addBrokers answer).createPartitions (client.listed answer) with
    | error halt =>
        rw [returned] at finished
        cases finished
    | ok c' =>
        rw [returned] at finished
        obtain ⟨rfl, -⟩ := InitState.finished.inj (Except.ok.inj finished)
        obtain ⟨fine, created⟩ := createPartitions_ok returned
        exact ⟨fine, (matchesSingle_iff noneYet ready created).mp matched⟩
  · rintro ⟨fine, distinct⟩
    have known : ∀ entry ∈ client.listed answer,
        ((client.addBrokers answer).findLeader entry.leader).isSome = true :=
      fun entry member => (leaderAlone_of_isSome (find_entry distinct member)
        (single entry member)).2
    obtain ⟨c, returned⟩ := createPartitions_returns fine known
    have created := (createPartitions_ok returned).2
    refine ⟨c, by rw [returned]; rfl, ?_⟩
    exact (matchesSingle_iff noneYet ready created).mpr distinct

/-- Any other answer must make the client ask again. -/
theorem startsLikeSingle_unready
    {client : KafkaClient}
    {round : MetadataRound}
    {answer : MetadataAnswer}
    (all : client.partition = kafkaAllPartitions)
    (answered : round.answer = .ok answer)
    (unready : client.isReady answer = false)
    (rounds : List MetadataRound) :
    client.StartsLikeSingle (round :: rounds) ↔
      client.AsksAgain answer ∧
        (client.addBrokers answer).StartsLikeSingle rounds := by
  have first : client.firstReady (round :: rounds) = client.firstReady rounds := by
    simp [firstReady, answered, unready]
  have sent : client.init true (round :: rounds) = _ :=
    sendMetaDataRequest_cons all answered rounds
  unfold StartsLikeSingle
  rw [first, firstReady_addBrokers, sent]
  constructor
  · intro agrees
    -- Whatever is expected, the answer must have been used.
    have used : ∃ progress,
        (client.addBrokers answer).initAllPartitions answer.response =
          .ok progress := by
      split at agrees
      · obtain ⟨c, waits⟩ := agrees
        obtain ⟨progress, handled, -⟩ := bind_eq_ok.mp waits
        exact ⟨progress, handled⟩
      · obtain ⟨c, finished, -⟩ := agrees
        obtain ⟨progress, handled, -⟩ := bind_eq_ok.mp finished
        exact ⟨progress, handled⟩
    obtain ⟨progress, handled⟩ := used
    rw [handled, ok_bind] at agrees
    rcases initAllPartitions_cases handled with ⟨asks, rfl⟩ | ⟨-, c, rfl, -⟩
    · exact ⟨asks, agrees⟩
    · exfalso
      split at agrees
      · obtain ⟨_, waits⟩ := agrees
        cases waits
      · rename_i later unread found
        obtain ⟨_, finished, -⟩ := agrees
        obtain ⟨-, rfl⟩ := InitState.finished.inj (Except.ok.inj finished)
        exact absurd (length_of_firstReady found) (Nat.lt_irrefl _)
  · rintro ⟨asks, agrees⟩
    rw [initAllPartitions_of_asksAgain
      (show (client.addBrokers answer).AsksAgain answer from asks), ok_bind]
    exact agrees

/-- For every sequence of metadata responses, starting with all partitions
agrees with starting with a single one if and only if every response before the
first ready one lists the topic without a partition, and the first ready one
has no error code and lists no partition twice. -/
theorem startsLikeSingle_iff
    {client : KafkaClient}
    {rounds : List MetadataRound}
    (all : client.partition = kafkaAllPartitions)
    (noPartitions : client.partitions = [])
    (answered : ∀ round ∈ rounds, ∃ answer, round.answer = .ok answer) :
    client.StartsLikeSingle rounds ↔ client.StartsCleanly rounds := by
  induction rounds generalizing client with
  | nil => exact iff_of_true ⟨client, rfl⟩ trivial
  | cons round rounds inductionHypothesis =>
      obtain ⟨answer, roundAnswered⟩ := answered round List.mem_cons_self
      unfold StartsCleanly
      simp only [roundAnswered, Except.ok.injEq, forall_eq']
      cases ready : client.isReady answer with
      | true =>
          rw [if_pos rfl]
          exact startsLikeSingle_ready all noPartitions roundAnswered ready rounds
      | false =>
          rw [if_neg Bool.false_ne_true,
            startsLikeSingle_unready all roundAnswered ready,
            ← startsCleanly_addBrokers client answer]
          have later := inductionHypothesis
            (show (client.addBrokers answer).partition = _ from all) noPartitions
            fun other member => answered other (List.mem_cons_of_mem _ member)
          rw [later]

theorem startsLikeSingle_iff_retried :
    sampleClient.StartsLikeSingle
      [sampleRound (brokerAt 104) topicInCreation,
        sampleRound (brokerAt 104) (topicWithPartition 0)] := by
  refine (startsLikeSingle_iff rfl rfl ?_).mpr ?_
  · intro round member
    fin_cases member <;> exact ⟨_, rfl⟩
  · intro first firstAnswered
    obtain rfl := Except.ok.inj (firstAnswered.symm.trans rfl)
    rw [if_neg (by decide +kernel)]
    refine ⟨⟨_, rfl, rfl⟩, ?_⟩
    intro second secondAnswered
    obtain rfl := Except.ok.inj (secondAnswered.symm.trans rfl)
    rw [if_pos (by decide +kernel)]
    decide +kernel

/-- A response without the topic ends the process, although no partition could
be created alone from it and the next response lists the topic.  So does a
partition that carries the error code 9 and has a leader, although it could be
created alone. -/
theorem start_exits :
    sampleClient.init true
        [sampleRound (brokerAt 104) [0, 0, 0, 0],
          sampleRound (brokerAt 104) (topicWithPartition 0)] =
      .error .exited ∧
    ¬ sampleClient.StartsLikeSingle
      [sampleRound (brokerAt 104) [0, 0, 0, 0],
        sampleRound (brokerAt 104) (topicWithPartition 0)] ∧
    sampleClient.init true [sampleRound (brokerAt 104) (topicWithPartition 9)] =
      .error .exited ∧
    ¬ sampleClient.StartsLikeSingle
      [sampleRound (brokerAt 104) (topicWithPartition 9)] := by
  refine ⟨rfl, ?_, rfl, ?_⟩
  · rintro ⟨c, finished, -⟩
    cases finished
  · rintro ⟨c, finished, -⟩
    cases finished

end KafkaClient
end AsyncKafka
