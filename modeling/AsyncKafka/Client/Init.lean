import AsyncKafka.Client.Producer
import AsyncKafka.Partition.Start

/-!
# Starting a client

`KafkaClient::init` asks a broker for the metadata of its topic until the
answer lets it create its partitions.  The retry is a jump back to the sending
of the request; the brokers that an answer lists are appended to a member of
the client before it is known whether the answer suffices.
-/

namespace AsyncKafka

open Wire ByteOrder Execution

/-- What the surroundings answer to one metadata request: whether it could be
written, what was read, and what the resolver finds for the hosts. -/
structure MetadataRound where
  written : Bool := true
  received : KafkaPartition.ReadOutcome
  resolve : Bytes → Option Bytes := fun _ => none

/-- A metadata response that could be read, and the resolver of its round. -/
structure MetadataAnswer where
  response : MetadataResponse
  resolve : Bytes → Option Bytes

/-- Write a metadata request and read the response.  A failed call is caught by
an assertion, and a connection that was closed ends the process, as does a
payload without bytes. -/
def MetadataRound.answer (round : MetadataRound) : Except Halt MetadataAnswer :=
  if round.written then
    match round.received with
    | .payload [] => .error .exited
    | .payload payload => do
        let (response, ec) ← readMetadataResponse payload
        if ec ≠ 0 then .error .exited
        else return { response, resolve := round.resolve }
    | .closed => .error .exited
    | .reset => .error .assertionFailed
    | .failed => .error .assertionFailed
  else .error .assertionFailed

/-- The arguments of a call of the constructor of `KafkaPartition`. -/
structure NewPartition where
  partitionType : KafkaPartitionType
  topic : Bytes
  partition : Int
  brokers : List KafkaBroker
  leader : KafkaBroker
  config : KafkaClientConfig
  deriving DecidableEq, Repr

/-- Run the constructor and bind the three callbacks. -/
def NewPartition.construct
    (new : NewPartition)
    (disk : Disk)
    (surroundings : KafkaPartition.InitSurroundings) :
    Except Halt (KafkaPartition × Disk) := do
  let (p, disk) ← KafkaPartition.construct new.partitionType new.topic
    new.partition new.brokers new.leader new.config disk surroundings
  return ({ p with
    onReceivedData := true, onProduceResponse := true, onMsgQueued := true }, disk)

/-- A client with the members that `init` uses.  The partitions are those that
it has created, in order. -/
structure KafkaClient where
  partitionType : KafkaPartitionType
  topic : Bytes
  partition : Int
  config : KafkaClientConfig
  brokers : List KafkaBroker := []
  partitions : List NewPartition := []
  deriving DecidableEq, Repr

/-- Where `init` stands after a response. -/
inductive InitProgress
  /-- The request has to be sent again. -/
  | retry (client : KafkaClient)
  /-- All partitions were created. -/
  | done (client : KafkaClient)
  deriving DecidableEq, Repr

/-- Where `init` stands after all answers that have arrived. -/
inductive InitState
  /-- Another request was sent. -/
  | waiting (client : KafkaClient)
  /-- `init` has returned before the remaining rounds. -/
  | finished (client : KafkaClient) (unread : List MetadataRound)

/-- A broker of a response with its address.  The buffer for the address is
zeroed before each lookup. -/
def kafkaBroker (resolve : Bytes → Option Bytes) (broker : MetadataBroker) :
    KafkaBroker :=
  { id := broker.nodeId
    host := broker.host
    ip := (KafkaPartition.hostnameToIp (resolve broker.host) []).2
    port := wrap 16 broker.port }

/-- The brokers of an answer as the client stores them. -/
def MetadataAnswer.brokers (answer : MetadataAnswer) : List KafkaBroker :=
  answer.response.brokers.map (kafkaBroker answer.resolve)

namespace KafkaClient

/-- Append the brokers of an answer. -/
def addBrokers (client : KafkaClient) (answer : MetadataAnswer) : KafkaClient :=
  { client with brokers := client.brokers ++ answer.brokers }

/-- Find a leader among the brokers of the client. -/
def findLeader (client : KafkaClient) (leaderNodeID : Int) :
    Option KafkaBroker :=
  client.brokers.find? fun broker => broker.id == leaderNodeID

/-- Create a partition with a leader. -/
def createPartition
    (client : KafkaClient)
    (partition : Int)
    (leader : KafkaBroker) : KafkaClient :=
  let new : NewPartition :=
    { partitionType := client.partitionType
      topic := client.topic
      partition
      brokers := client.brokers
      leader
      config := client.config }
  { client with partitions := client.partitions ++ [new] }

/-- The loop over the partitions of the topic. -/
def createPartitions (client : KafkaClient) :
    List MetadataPartition → Except Halt KafkaClient
  | [] => .ok client
  | entry :: entries =>
      if entry.errorCode ≠ 0 then .error .exited
      else
        match client.findLeader entry.leader with
        | none => .error .exited
        | some leader =>
            (client.createPartition entry.partition leader).createPartitions
              entries

/-- The branch for all partitions of the topic. -/
def initAllPartitions (client : KafkaClient) (response : MetadataResponse) :
    Except Halt InitProgress :=
  match response.topics.find? fun topic => topic.topicName == client.topic with
  | none => .error .exited
  | some topic =>
      if topic.partitions.isEmpty then .ok (.retry client)
      else (client.createPartitions topic.partitions).map .done

/-- The branch for a single partition. -/
def initPartition
    (client : KafkaClient)
    (partition : Int)
    (response : MetadataResponse) : Except Halt InitProgress :=
  match response.partitionLeader client.topic partition with
  | none => .ok (.retry client)
  | some leader =>
      match client.findLeader leader.nodeId with
      | none => .error .exited
      | some kLeader => .ok (.done (client.createPartition partition kLeader))

/-- Use an answer. -/
def handleAnswer (client : KafkaClient) (answer : MetadataAnswer) :
    Except Halt InitProgress :=
  let client := client.addBrokers answer
  if client.partition = kafkaAllPartitions then
    client.initAllPartitions answer.response
  else
    client.initPartition client.partition answer.response

/-- The loop behind the label of the same name, as long as answers arrive. -/
def sendMetaDataRequest (client : KafkaClient) :
    List MetadataRound → Except Halt InitState
  | [] => .ok (.waiting client)
  | round :: rounds => do
      let answer ← round.answer
      match ← client.handleAnswer answer with
      | .retry client => client.sendMetaDataRequest rounds
      | .done client => return .finished client rounds

/-- `init`, given whether the broker can be connected to. -/
def init
    (client : KafkaClient)
    (connected : Bool)
    (rounds : List MetadataRound) : Except Halt InitState :=
  if connected then client.sendMetaDataRequest rounds else .error .exited

end KafkaClient

/-- A partition has the brokers that it was created with. -/
theorem NewPartition.construct_brokers
    {new : NewPartition}
    {disk disk' : Disk}
    {surroundings : KafkaPartition.InitSurroundings}
    {p : KafkaPartition}
    (returned : new.construct disk surroundings = .ok (p, disk')) :
    p.brokers = new.brokers := by
  obtain ⟨⟨constructed, constructedDisk⟩, constructedOk, finished⟩ :=
    bind_eq_ok.mp returned
  obtain ⟨rfl, -⟩ := Prod.mk.inj (Except.ok.inj finished)
  obtain ⟨-, -, -, -, sameBrokers⟩ := KafkaPartition.construct_fresh constructedOk
  exact sameBrokers

end AsyncKafka
