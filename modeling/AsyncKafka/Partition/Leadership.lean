import AsyncKafka.Partition.Start

/-!
# Following the leader

A metadata response names the leader of the partition, and the partition moves
to it when it is at another address than the one in use.  The comparison has
two weak points: the port of the response has 32 bits and the port in use has
16, and the address is read from a buffer that a failed lookup leaves as it
was.
-/

namespace AsyncKafka
namespace KafkaPartition

open Wire ByteOrder Execution

/-- Nothing has happened to the connection: the leader, the socket, the frames
and requests in flight, the registrations and the pending wakeups are as
before, and no connection was opened or closed. -/
structure Untouched (p q : KafkaPartition) : Prop where
  leader : q.leader = p.leader
  sockFd : q.sockFd = p.sockFd
  writeBuffers : q.writeBuffers = p.writeBuffers
  inTransitProduceRequest : q.inTransitProduceRequest = p.inTransitProduceRequest
  reactor : q.reactor = p.reactor
  produceEvent : q.produceEvent = p.produceEvent
  produceMsgQEvent : q.produceMsgQEvent = p.produceMsgQEvent
  fetchEvent : q.fetchEvent = p.fetchEvent
  trace : q.trace = p.trace

theorem Untouched.refl (p : KafkaPartition) : Untouched p p :=
  ⟨rfl, rfl, rfl, rfl, rfl, rfl, rfl, rfl, rfl⟩

/-- Moving to another leader closes the connection. -/
theorem trace_moveTo
    (p : KafkaPartition)
    (leader : KafkaBroker)
    (connect : Option Int) :
    ∃ effect, (p.moveTo leader connect).trace =
      p.trace ++ [.close p.sockFd, effect] := by
  cases connect with
  | none => exact ⟨.shutdown, List.append_assoc _ _ _⟩
  | some fd => exact ⟨.connect fd, List.append_assoc _ _ _⟩

theorem leader_moveTo
    (p : KafkaPartition)
    (leader : KafkaBroker)
    (connect : Option Int) :
    (p.moveTo leader connect).leader = leader := by
  cases connect <;> rfl

/-- The fields of a partition that waking the fetch event leaves alone. -/
theorem wakeupFetchOfConsumer_keeps
    {p q : KafkaPartition}
    (woken : p.wakeupFetchOfConsumer = .ok q) :
    q.leader = p.leader ∧ q.topic = p.topic ∧ q.partition = p.partition ∧
      q.trace = p.trace := by
  unfold wakeupFetchOfConsumer at woken
  split at woken
  · obtain ⟨fetchEvent, -, finished⟩ := bind_eq_ok.mp woken
    obtain rfl := Except.ok.inj finished
    exact ⟨rfl, rfl, rfl, rfl⟩
  · obtain rfl := Except.ok.inj woken
    exact ⟨rfl, rfl, rfl, rfl⟩

/-- A metadata response that names a leader leaves the connection alone exactly
when the address that was found and the port are those in use. -/
theorem untouched_iff
    {p : KafkaPartition}
    {payload : Bytes}
    {leader : MetadataBroker}
    (announced : p.announcedLeader payload = some leader)
    (surroundings : Surroundings) :
    (∃ q, p.handleMetadataResponse payload surroundings = .ok q ∧
        Untouched p q) ↔
      (hostnameToIp surroundings.resolved surroundings.ipBuffer).2 =
          p.leader.ip ∧ leader.port = p.leader.port := by
  rw [handleMetadataResponse_announced announced]
  constructor
  · rintro ⟨q, handled, untouched⟩
    by_contra differs
    rw [if_pos (by tauto)] at handled
    obtain ⟨-, -, -, sameTrace⟩ := wakeupFetchOfConsumer_keeps handled
    obtain ⟨effect, trace⟩ := p.trace_moveTo
      (adoptedLeader leader
        (hostnameToIp surroundings.resolved surroundings.ipBuffer).2)
      surroundings.connect
    have unchanged := untouched.trace
    rw [sameTrace, trace] at unchanged
    simp at unchanged
  · rintro ⟨sameIp, samePort⟩
    rw [if_neg (by tauto)]
    exact ⟨p, rfl, .refl p⟩

/-- The fields that a metadata response leaves behind. -/
theorem handleMetadataResponse_leaves
    {p q : KafkaPartition}
    {payload : Bytes}
    {leader : MetadataBroker}
    {surroundings : Surroundings}
    (announced : p.announcedLeader payload = some leader)
    (handled : p.handleMetadataResponse payload surroundings = .ok q) :
    q.announcedLeader payload = some leader ∧
      q.leader.ip =
        (hostnameToIp surroundings.resolved surroundings.ipBuffer).2 ∧
      (q.leader.port = wrap 16 leader.port ∨
        leader.port = p.leader.port ∧ q.leader.port = p.leader.port) := by
  rw [handleMetadataResponse_announced announced] at handled
  split at handled
  · obtain ⟨sameLeader, sameTopic, samePartition, -⟩ :=
      wakeupFetchOfConsumer_keeps handled
    have moved : (q.topic, q.partition) = (p.topic, p.partition) := by
      rw [sameTopic, samePartition]
      cases surroundings.connect <;> rfl
    rw [leader_moveTo] at sameLeader
    refine ⟨?_, by rw [sameLeader]; rfl, .inl (by rw [sameLeader]; rfl)⟩
    rw [announcedLeader, (Prod.mk.inj moved).1, (Prod.mk.inj moved).2]
    exact announced
  · rename_i stays
    obtain ⟨sameIp, samePort⟩ := not_or.mp stays
    obtain rfl := Except.ok.inj handled
    exact ⟨announced, (not_not.mp sameIp).symm,
      .inr ⟨not_not.mp samePort, rfl⟩⟩

/-- The 16 bits of a port are the port itself exactly below 32768. -/
theorem wrap_port_eq_iff
    {port : Int}
    (nonnegative : 0 ≤ port)
    (bounded : port ≤ 65535) :
    port = wrap 16 port ↔ port < 32768 := by
  rw [eq_comm, wrap_eq_self_iff (by decide)]
  norm_num
  omega

/-- When a metadata response is processed a second time, the host having the
same address as before, the connection is left alone if and only if the port
that it names for the leader is below 32768.  From there on the port in use,
which has 16 bits, is negative and never equals the one that the response
names, so that every refresh tears down the connection. -/
theorem refresh_idempotent_iff
    {p q : KafkaPartition}
    {payload ip : Bytes}
    {leader : MetadataBroker}
    {first second : Surroundings}
    (portInUse : -(2 ^ 15) ≤ p.leader.port ∧ p.leader.port < 2 ^ 15)
    (announced : p.announcedLeader payload = some leader)
    (port : 0 ≤ leader.port ∧ leader.port ≤ 65535)
    (resolved : first.resolved = some ip)
    (resolvedAgain : second.resolved = some ip)
    (processed : p.handleMetadataResponse payload first = .ok q) :
    (∃ r, q.handleMetadataResponse payload second = .ok r ∧ Untouched q r) ↔
      leader.port < 32768 := by
  obtain ⟨announcedAgain, address, stored⟩ :=
    handleMetadataResponse_leaves announced processed
  rw [untouched_iff announcedAgain, address, resolved, resolvedAgain]
  simp only [hostnameToIp, true_and]
  rcases stored with adopted | ⟨same, kept⟩
  · rw [adopted]
    exact wrap_port_eq_iff port.1 port.2
  · rw [kept, same]
    simp only [true_iff]
    omega

/-- A response that names the broker 7 on a host `h` as the leader of the
partition 0 of the topic `t`. -/
def leaderResponse (port : Int) : Bytes :=
  [0, 0, 0, 3, 0, 0, 0, 1, 0, 0, 0, 7, 0, 1, 104] ++ writeSigned 4 port ++
    [0, 0, 0, 1, 0, 0, 0, 1, 116, 0, 0, 0, 1, 0, 0, 0, 0, 0, 0, 0, 0, 0, 7,
      0, 0, 0, 0, 0, 0, 0, 0]

theorem announcedLeader_leaderResponse :
    (sampleProducer {}).announcedLeader (leaderResponse 9092) =
      some { nodeId := 7, host := [104], port := 9092 } := by
  decide +kernel

/-- The host `h` is found, and connections to it succeed. -/
def leaderFound : Surroundings := { resolved := some [51], connect := some 10 }

theorem refresh_idempotent_iff_low :
    ∃ q, (sampleProducer {}).handleMetadataResponse (leaderResponse 9092)
        leaderFound = .ok q ∧ q.sockFd = 10 ∧
      ∃ r, q.handleMetadataResponse (leaderResponse 9092) leaderFound = .ok r ∧
        Untouched q r := by
  obtain ⟨q, processed, connected⟩ := exists_ok_of_any
    ((sampleProducer {}).handleMetadataResponse (leaderResponse 9092) leaderFound)
    (fun q => q.sockFd = 10) (by decide +kernel)
  refine ⟨q, processed, of_decide_eq_true connected, ?_⟩
  exact (refresh_idempotent_iff (by decide +kernel) announcedLeader_leaderResponse
    (by decide) rfl rfl processed).mpr (by decide)

/-- With a leader on the port 40000 the second response closes the connection
that the first one has opened. -/
theorem connection_torn_down_by_refresh :
    ∃ q r, (sampleProducer {}).handleMetadataResponse (leaderResponse 40000)
        leaderFound = .ok q ∧
      q.handleMetadataResponse (leaderResponse 40000) leaderFound = .ok r ∧
      q.leader.port = -25536 ∧
      r.trace = q.trace ++ [.close 10, .connect 10] ∧ ¬ Untouched q r := by
  refine ⟨_, _, rfl, rfl, by decide +kernel, by decide +kernel,
    fun untouched => ?_⟩
  exact absurd untouched.trace (by decide +kernel)

/-- When the host of the leader cannot be resolved, the connection is left alone
if and only if the buffer for the address happens to hold the address in use
and the response names the port in use: the result of the lookup is not looked
at. -/
theorem failed_lookup_untouched_iff
    {p : KafkaPartition}
    {payload : Bytes}
    {leader : MetadataBroker}
    {surroundings : Surroundings}
    (announced : p.announcedLeader payload = some leader)
    (unresolved : surroundings.resolved = none) :
    (∃ q, p.handleMetadataResponse payload surroundings = .ok q ∧
        Untouched p q) ↔
      surroundings.ipBuffer = p.leader.ip ∧ leader.port = p.leader.port := by
  rw [untouched_iff announced, unresolved]
  rfl

theorem failed_lookup_untouched_iff_lucky :
    ∃ q, (sampleProducer {}).handleMetadataResponse (leaderResponse 9092)
        { ipBuffer := [49], connect := some 10 } = .ok q ∧
      Untouched (sampleProducer {}) q := by
  exact (failed_lookup_untouched_iff announcedLeader_leaderResponse rfl).mpr
    ⟨by decide +kernel, by decide +kernel⟩

/-- With other contents of the buffer the failed lookup costs the partition its
connection and its leader. -/
theorem connection_lost_by_failed_lookup :
    ∃ q, (sampleProducer {}).handleMetadataResponse (leaderResponse 9092)
        { ipBuffer := [120] } = .ok q ∧
      q.leader.ip = [120] ∧ q.sockFd = -1 ∧
      ¬ Untouched (sampleProducer {}) q := by
  refine ⟨_, rfl, by decide +kernel, by decide +kernel, fun untouched => ?_⟩
  exact absurd untouched.sockFd (by decide +kernel)

end KafkaPartition
end AsyncKafka
