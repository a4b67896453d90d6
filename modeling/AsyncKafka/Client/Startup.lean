import AsyncKafka.Client.Init

/-!
# What a client starts with

What `init` has created when it returns, after any number of retries.  The
brokers of the answers that did not suffice stay in the list that is handed to
the partitions, and a leader is looked up from the front of it.
-/

namespace AsyncKafka

open Wire ByteOrder Execution

namespace KafkaClient

/-- The number and the leader of a created partition. -/
def NewPartition.number (new : NewPartition) : Int × Int :=
  (new.partition, new.leader.id)

/-- `c` is the client after it has created partitions with the given numbers
and leaders, each with the brokers of the client and a leader from among
them. -/
structure Creates
    (client : KafkaClient)
    (numbers : List (Int × Int))
    (c : KafkaClient) : Prop where
  brokers : c.brokers = client.brokers
  numbers : c.partitions.map NewPartition.number =
    client.partitions.map NewPartition.number ++ numbers
  arguments : ∀ new ∈ c.partitions, new ∈ client.partitions ∨
    new.brokers = client.brokers ∧
      client.findLeader new.leader.id = some new.leader

/-- A leader that is found has the identifier that was looked for. -/
theorem id_of_findLeader
    {client : KafkaClient}
    {id : Int}
    {leader : KafkaBroker}
    (found : client.findLeader id = some leader) :
    leader.id = id := by
  simpa using List.find?_some found

theorem creates_one
    {client : KafkaClient}
    {id : Int}
    {leader : KafkaBroker}
    (found : client.findLeader id = some leader)
    (partition : Int) :
    Creates client [(partition, id)] (client.createPartition partition leader) := by
  obtain rfl := id_of_findLeader found
  refine ⟨rfl, by simp [createPartition, NewPartition.number], ?_⟩
  intro new member
  rcases List.mem_append.mp member with earlier | added
  · exact .inl earlier
  · rw [List.mem_singleton.mp added]
    exact .inr ⟨rfl, found⟩

theorem Creates.trans
    {client middle c : KafkaClient}
    {first second : List (Int × Int)}
    (before : Creates client first middle)
    (after : Creates middle second c) :
    Creates client (first ++ second) c := by
  refine ⟨after.brokers.trans before.brokers, ?_, ?_⟩
  · rw [after.numbers, before.numbers, List.append_assoc]
  · intro new member
    rcases after.arguments new member with earlier | ⟨brokers, found⟩
    · exact before.arguments new earlier
    · refine .inr ⟨brokers.trans before.brokers, ?_⟩
      rw [findLeader, before.brokers] at found
      exact found

/-- The loop over the partitions creates all of them or exits. -/
theorem createPartitions_ok
    {client c : KafkaClient}
    {entries : List MetadataPartition}
    (returned : client.createPartitions entries = .ok c) :
    (∀ entry ∈ entries, entry.errorCode = 0) ∧
      Creates client (entries.map fun entry => (entry.partition, entry.leader))
        c := by
  induction entries generalizing client with
  | nil =>
      obtain rfl := Except.ok.inj returned
      exact ⟨by simp, rfl, by simp, fun _ member => .inl member⟩
  | cons entry entries inductionHypothesis =>
      unfold createPartitions at returned
      split at returned
      · cases returned
      rename_i fine
      split at returned
      · cases returned
      rename_i leader found
      obtain ⟨laterFine, later⟩ := inductionHypothesis returned
      refine ⟨?_, (creates_one found entry.partition).trans later⟩
      intro other member
      rcases List.mem_cons.mp member with rfl | inEntries
      · exact not_not.mp fine
      · exact laterFine other inEntries

/-- It creates all of them when no partition carries an error code and every
leader is known. -/
theorem createPartitions_returns
    {client : KafkaClient}
    {entries : List MetadataPartition}
    (fine : ∀ entry ∈ entries, entry.errorCode = 0)
    (known : ∀ entry ∈ entries, (client.findLeader entry.leader).isSome = true) :
    ∃ c, client.createPartitions entries = .ok c := by
  induction entries generalizing client with
  | nil => exact ⟨client, rfl⟩
  | cons entry entries inductionHypothesis =>
      obtain ⟨leader, found⟩ :=
        Option.isSome_iff_exists.mp (known entry List.mem_cons_self)
      unfold createPartitions
      rw [if_neg (not_not.mpr (fine entry List.mem_cons_self)), found]
      exact inductionHypothesis
        (fun other member => fine other (List.mem_cons_of_mem _ member))
        fun other member => known other (List.mem_cons_of_mem _ member)

/-- The partitions that an answer lists for a topic. -/
def listed (client : KafkaClient) (answer : MetadataAnswer) :
    List MetadataPartition :=
  match answer.response.topics.find? fun topic =>
      topic.topicName == client.topic with
  | none => []
  | some topic => topic.partitions

/-- An answer lists the topic without a partition. -/
def AsksAgain (client : KafkaClient) (answer : MetadataAnswer) : Prop :=
  ∃ topic, answer.response.topics.find?
      (fun topic => topic.topicName == client.topic) = some topic ∧
    topic.partitions = []

/-- An answer without a partition makes the client ask again. -/
theorem initAllPartitions_of_asksAgain
    {client : KafkaClient}
    {answer : MetadataAnswer}
    (asks : client.AsksAgain answer) :
    client.initAllPartitions answer.response = .ok (.retry client) := by
  obtain ⟨topic, found, empty⟩ := asks
  unfold initAllPartitions
  rw [found]
  exact if_pos (List.isEmpty_iff.mpr empty)

/-- From an answer with partitions all of them are created. -/
theorem initAllPartitions_of_listed
    {client : KafkaClient}
    {answer : MetadataAnswer}
    (nonempty : client.listed answer ≠ []) :
    client.initAllPartitions answer.response =
      (client.createPartitions (client.listed answer)).map .done := by
  unfold initAllPartitions
  unfold listed at nonempty ⊢
  cases found : answer.response.topics.find? fun topic =>
      topic.topicName == client.topic with
  | none =>
      rw [found] at nonempty
      exact absurd rfl nonempty
  | some topic =>
      rw [found] at nonempty
      exact if_neg fun empty => nonempty (List.isEmpty_iff.mp empty)

/-- What the branch for all partitions does with an answer. -/
theorem initAllPartitions_cases
    {client : KafkaClient}
    {answer : MetadataAnswer}
    {progress : InitProgress}
    (returned : client.initAllPartitions answer.response = .ok progress) :
    client.AsksAgain answer ∧ progress = .retry client ∨
      client.listed answer ≠ [] ∧ ∃ c, progress = .done c ∧
        client.createPartitions (client.listed answer) = .ok c := by
  by_cases nonempty : client.listed answer = []
  · left
    unfold initAllPartitions at returned
    unfold listed at nonempty
    split at returned
    · cases returned
    · rename_i topic found
      rw [found] at nonempty
      rw [if_pos (List.isEmpty_iff.mpr nonempty)] at returned
      exact ⟨⟨topic, found, nonempty⟩, (Except.ok.inj returned).symm⟩
  · right
    rw [initAllPartitions_of_listed nonempty] at returned
    refine ⟨nonempty, ?_⟩
    cases created : client.createPartitions (client.listed answer) with
    | error halt =>
        rw [created] at returned
        cases returned
    | ok c =>
        rw [created] at returned
        exact ⟨c, (Except.ok.inj returned).symm, rfl⟩

/-- What the branch for one partition does with an answer. -/
theorem initPartition_cases
    {client : KafkaClient}
    {partition : Int}
    {response : MetadataResponse}
    {progress : InitProgress}
    (returned : client.initPartition partition response = .ok progress) :
    progress = .retry client ∨
      ∃ c id, progress = .done c ∧ Creates client [(partition, id)] c := by
  unfold initPartition at returned
  split at returned
  · exact .inl (Except.ok.inj returned).symm
  split at returned
  · cases returned
  · rename_i leader found
    exact .inr ⟨_, _, (Except.ok.inj returned).symm, creates_one found partition⟩

/-- An answer either makes the client ask again or makes it create at least one
partition. -/
theorem handleAnswer_cases
    {client : KafkaClient}
    {answer : MetadataAnswer}
    {progress : InitProgress}
    (returned : client.handleAnswer answer = .ok progress) :
    progress = .retry (client.addBrokers answer) ∨
      ∃ c numbers, progress = .done c ∧ numbers ≠ [] ∧
        Creates (client.addBrokers answer) numbers c := by
  unfold handleAnswer at returned
  dsimp only at returned
  split at returned
  · rcases initAllPartitions_cases returned with
      ⟨-, retried⟩ | ⟨nonempty, c, done, created⟩
    · exact .inl retried
    · exact .inr ⟨c, _, done, by simpa using nonempty,
        (createPartitions_ok created).2⟩
  · rcases initPartition_cases returned with retried | ⟨c, id, done, created⟩
    · exact .inl retried
    · exact .inr ⟨c, _, done, by simp, created⟩

end KafkaClient

/-- The brokers that the answer of a round lists. -/
def MetadataRound.brokers (round : MetadataRound) : List KafkaBroker :=
  match round.answer with
  | .ok answer => answer.brokers
  | .error _ => []

/-- A partition is created with the brokers of a response, and with a leader at
the host and port that the response gives for it. -/
structure NewPartition.UpToDate (new : NewPartition) (response : MetadataResponse) :
    Prop where
  brokers : new.brokers.map (fun broker => (broker.id, broker.host, broker.port)) =
    response.brokers.map fun broker => (broker.nodeId, broker.host, broker.port)
  leader : ∃ broker, response.brokers.find?
      (fun broker => broker.nodeId == new.leader.id) = some broker ∧
    new.leader.host = broker.host ∧ new.leader.port = broker.port

namespace KafkaClient

/-- When `init` returns, its brokers are those of all answers up to the last. -/
theorem finished_creates
    {client c : KafkaClient}
    {rounds unread : List MetadataRound}
    (finished : client.sendMetaDataRequest rounds = .ok (.finished c unread)) :
    ∃ before last answer numbers,
      rounds = before ++ last :: unread ∧ last.answer = .ok answer ∧
      numbers ≠ [] ∧
      Creates
        { client with
          brokers := client.brokers ++ before.flatMap MetadataRound.brokers ++
            answer.brokers }
        numbers c := by
  induction rounds generalizing client with
  | nil => cases finished
  | cons round rounds inductionHypothesis =>
      unfold sendMetaDataRequest at finished
      obtain ⟨answer, answered, continued⟩ := bind_eq_ok.mp finished
      obtain ⟨progress, handled, concluded⟩ := bind_eq_ok.mp continued
      have listed : round.brokers = answer.brokers := by
        rw [MetadataRound.brokers, answered]
      rcases handleAnswer_cases handled with rfl | ⟨c', numbers, rfl, some, created⟩
      · obtain ⟨before, last, lastAnswer, numbers, split, lastAnswered, some,
          created⟩ := inductionHypothesis concluded
        refine ⟨round :: before, last, lastAnswer, numbers, by rw [split]; rfl,
          lastAnswered, some, ?_⟩
        rw [List.flatMap_cons, listed, ← List.append_assoc]
        exact created
      · obtain ⟨rfl, rfl⟩ := InitState.finished.inj (Except.ok.inj concluded)
        refine ⟨[], round, answer, numbers, rfl, answered, some, ?_⟩
        rw [List.flatMap_nil, List.append_nil]
        exact created

/-- The brokers of an answer are stored as the response lists them exactly when
their ports fit into 16 bits. -/
theorem brokers_stored_iff (answer : MetadataAnswer) :
    answer.brokers.map (fun broker => (broker.id, broker.host, broker.port)) =
        answer.response.brokers.map
          (fun broker => (broker.nodeId, broker.host, broker.port)) ↔
      ∀ broker ∈ answer.response.brokers,
        -(2 ^ 15) ≤ broker.port ∧ broker.port < 2 ^ 15 := by
  rw [MetadataAnswer.brokers, List.map_map, List.map_inj_left]
  refine forall₂_congr fun broker _ => ?_
  simp only [Function.comp_apply, kafkaBroker, Prod.mk.injEq, true_and]
  exact wrap_eq_self_iff (by decide) broker.port

/-- A leader that is found among the brokers of an answer has the host and the
port that the response gives for it, if the ports fit into 16 bits. -/
theorem upToDate_of_found
    {new : NewPartition}
    {answer : MetadataAnswer}
    (brokers : new.brokers = answer.brokers)
    (found : answer.brokers.find? (fun broker => broker.id == new.leader.id) =
      some new.leader)
    (ports : ∀ broker ∈ answer.response.brokers,
      -(2 ^ 15) ≤ broker.port ∧ broker.port < 2 ^ 15) :
    new.UpToDate answer.response := by
  refine ⟨by rw [brokers]; exact (brokers_stored_iff answer).mpr ports, ?_⟩
  rw [MetadataAnswer.brokers, List.find?_map] at found
  obtain ⟨broker, named, stored⟩ := Option.map_eq_some_iff.mp found
  refine ⟨broker, named, by rw [← stored]; rfl, ?_⟩
  rw [← stored]
  exact (wrap_eq_self_iff (by decide) broker.port).mpr
    (ports broker (List.mem_of_find?_eq_some named))

/-- When `init` of a new client returns, the partitions were created with the
brokers of the last response, and with the host and port that it gives for
their leaders, if and only if no response before the last one has listed a
broker and the ports of the last one fit into 16 bits. -/
theorem upToDate_iff
    {client c : KafkaClient}
    {rounds unread : List MetadataRound}
    (noBrokers : client.brokers = [])
    (noPartitions : client.partitions = [])
    (finished : client.init true rounds = .ok (.finished c unread)) :
    ∃ before last answer,
      rounds = before ++ last :: unread ∧ last.answer = .ok answer ∧
      ((∀ new ∈ c.partitions, new.UpToDate answer.response) ↔
        (∀ round ∈ before, round.brokers = []) ∧
          ∀ broker ∈ answer.response.brokers,
            -(2 ^ 15) ≤ broker.port ∧ broker.port < 2 ^ 15) := by
  obtain ⟨before, last, answer, numbers, split, answered, some, created⟩ :=
    finished_creates finished
  refine ⟨before, last, answer, split, answered, ?_⟩
  have arguments : ∀ new ∈ c.partitions,
      new.brokers = before.flatMap MetadataRound.brokers ++ answer.brokers ∧
        (before.flatMap MetadataRound.brokers ++ answer.brokers).find?
          (fun broker => broker.id == new.leader.id) = Option.some new.leader := by
    intro new member
    rcases created.arguments new member with earlier | ⟨brokers, found⟩
    · rw [noPartitions] at earlier
      cases earlier
    · simp only [findLeader, noBrokers, List.nil_append] at brokers found
      exact ⟨brokers, found⟩
  constructor
  · intro upToDate
    have created : c.partitions ≠ [] := by
      intro nothing
      have numbered := created.numbers
      rw [nothing, noPartitions] at numbered
      exact some numbered.symm
    obtain ⟨new, member⟩ := List.exists_mem_of_ne_nil _ created
    have stored := (upToDate new member).brokers
    rw [(arguments new member).1, List.map_append] at stored
    -- The list is as long as the last one, so that nothing stands before it.
    have stale : before.flatMap MetadataRound.brokers = [] := by
      have lengths := congrArg List.length stored
      rw [List.length_append, List.length_map, List.length_map, List.length_map,
        MetadataAnswer.brokers, List.length_map] at lengths
      exact List.eq_nil_of_length_eq_zero (by omega)
    rw [stale, List.map_nil, List.nil_append] at stored
    exact ⟨List.flatMap_eq_nil_iff.mp stale, (brokers_stored_iff answer).mp stored⟩
  · rintro ⟨nothing, ports⟩ new member
    have stale : before.flatMap MetadataRound.brokers = [] :=
      List.flatMap_eq_nil_iff.mpr nothing
    obtain ⟨brokers, found⟩ := arguments new member
    rw [stale, List.nil_append] at brokers found
    exact upToDate_of_found brokers found ports

/-- A producer of all partitions of the topic `t`, before it is started. -/
def sampleClient : KafkaClient :=
  { partitionType := .producer
    topic := [116]
    partition := kafkaAllPartitions
    config := {} }

/-- A round that answers with the given broker entry and the given entry of the
topic `t`, both in their encoding and with their counts. -/
def sampleRound (brokers topics : Bytes) : MetadataRound :=
  { received := .payload ([0, 0, 0, 3] ++ brokers ++ topics) }

/-- The broker 7 on a host with a name of one letter, at the port 9092. -/
def brokerAt (host : UInt8) : Bytes :=
  [0, 0, 0, 1, 0, 0, 0, 7, 0, 1, host, 0, 0, 35, 132]

/-- The topic `t` without partitions. -/
def topicInCreation : Bytes := [0, 0, 0, 1, 0, 0, 0, 1, 116, 0, 0, 0, 0]

/-- The topic `t` with the partition 0, which carries an error code and has the
leader 7. -/
def topicWithPartition (errorCode : UInt8) : Bytes :=
  [0, 0, 0, 1, 0, 0, 0, 1, 116, 0, 0, 0, 1, 0, errorCode, 0, 0, 0, 0,
    0, 0, 0, 7, 0, 0, 0, 0, 0, 0, 0, 0]

theorem upToDate_iff_retried :
    ∃ c, sampleClient.init true
        [sampleRound [0, 0, 0, 0] topicInCreation,
          sampleRound (brokerAt 104) (topicWithPartition 0)] =
        .ok (.finished c []) ∧
      ∃ answer, (sampleRound (brokerAt 104) (topicWithPartition 0)).answer =
          .ok answer ∧
        ∀ new ∈ c.partitions, new.UpToDate answer.response := by
  obtain ⟨c, finished⟩ : ∃ c, sampleClient.init true
      [sampleRound [0, 0, 0, 0] topicInCreation,
        sampleRound (brokerAt 104) (topicWithPartition 0)] =
      .ok (.finished c []) := ⟨_, rfl⟩
  obtain ⟨before, last, answer, split, answered, exactly⟩ :=
    upToDate_iff rfl rfl finished
  obtain ⟨rfl, same⟩ := List.append_inj'
    (show [sampleRound [0, 0, 0, 0] topicInCreation] ++
      [sampleRound (brokerAt 104) (topicWithPartition 0)] = before ++ [last] from
        split) rfl
  obtain rfl := List.singleton_inj.mp same
  refine ⟨c, finished, answer, answered, exactly.mpr ⟨?_, ?_⟩⟩
  · intro round member
    rw [List.mem_singleton.mp member]
    decide +kernel
  · obtain rfl := Except.ok.inj (answered.symm.trans rfl)
    decide +kernel

/-- While the topic is created the broker 7 moves from the host `h` to the host
`i`.  The partition is created with both entries and with the old host of its
leader. -/
theorem stale_broker_shadows :
    ∃ c answer, sampleClient.init true
        [sampleRound (brokerAt 104) topicInCreation,
          sampleRound (brokerAt 105) (topicWithPartition 0)] =
        .ok (.finished c []) ∧
      (sampleRound (brokerAt 105) (topicWithPartition 0)).answer = .ok answer ∧
      c.partitions.map (fun new => (new.brokers.length, new.leader.host)) =
        [(2, [104])] ∧
      ¬ ∀ new ∈ c.partitions, new.UpToDate answer.response := by
  refine ⟨_, _, rfl, rfl, by decide +kernel, fun upToDate => ?_⟩
  have stored := (upToDate _ List.mem_cons_self).brokers
  exact absurd stored (by decide +kernel)

end KafkaClient
end AsyncKafka
