import AsyncKafka.Producer.Link

/-!
# When a lost connection loses no message

An accepted message should be queued, or waiting in a frame, or written on the
current connection and unanswered, or answered with success.  The partition
forgets the frames that a lost connection leaves unanswered and the frame whose
write was reset, so this holds as long as no message is in either place when
the connection is given up.
-/

namespace AsyncKafka

open Wire Execution

/-- A genuine produce request is answered unless acknowledgements are off. -/
theorem WriteBuffer.Genuine.expectsResponse
    {crc32 : Bytes → UInt32}
    {config : KafkaClientConfig}
    {buffer : WriteBuffer}
    (genuine : buffer.Genuine crc32 config)
    (acknowledging : config.pRequiredAcks ≠ 0) :
    buffer.expectsResponse = true := by
  obtain ⟨request, acks, rfl⟩ := genuine
  simpa [WriteBuffer.expectsResponse, KafkaPartition.produceBuffer,
    ProduceRequest.responseExpected, acks] using acknowledging

namespace KafkaPartition

/-- The messages of the requests that wait for a response on the current
connection. -/
def unansweredValues (p : KafkaPartition) : List Bytes :=
  p.link.awaiting.flatMap WriteBuffer.values

/-- The messages of the requests that were answered with success. -/
def acknowledgedValues (p : KafkaPartition) : List Bytes :=
  p.link.acknowledged.flatMap WriteBuffer.values

/-- Every accepted message, counted as often as it was accepted, is in one of
the four places. -/
def NothingLost (history : List Event) (p : KafkaPartition) : Prop :=
  (history.flatMap Event.messages).Subperm
    (p.acknowledgedValues ++ p.unansweredValues ++
      p.writeBuffers.flatMap WriteBuffer.values ++ p.msgs)

/-- The broker refuses no produce request and answers only requests that it was
sent on the current connection. -/
def BrokerAnswers (p : KafkaPartition) (event : Event) : Prop :=
  event.isProduceError = false ∧
    (event.isProduceResponse = true → p.link.awaiting ≠ [])

/-- Whether a write, if the event is one, takes a frame with messages whole. -/
def writesWhole (p : KafkaPartition) : Event → Bool
  | .writeReady outcome =>
      p.writeBuffers.head?.all fun req =>
        req.values.isEmpty || outcome == .written
  | _ => true

/-- The connection is given up only while no message waits for its response,
and a frame with messages is accepted whole by the kernel. -/
def KeepsMessages (p : KafkaPartition) (event : Event) : Prop :=
  (p.losesConnection event = true → p.unansweredValues = []) ∧
    p.writesWhole event = true

instance (p : KafkaPartition) (event : Event) :
    Decidable (BrokerAnswers p event) :=
  inferInstanceAs (Decidable (_ ∧ _))

instance (p : KafkaPartition) (event : Event) :
    Decidable (KeepsMessages p event) :=
  inferInstanceAs (Decidable (_ ∧ _))

/-- Dropping the requests of a connection loses nothing when they carry
nothing. -/
theorem unanswered_dropped
    {p q : KafkaPartition}
    (none : p.unansweredValues = [])
    (dropped : q.link = p.link.dropped) :
    q.unansweredValues = p.unansweredValues ∧
      q.acknowledgedValues = p.acknowledgedValues := by
  rw [none]
  simp [unansweredValues, acknowledgedValues, dropped, Link.dropped]

/-- Writing a frame moves its messages to those that are unanswered. -/
theorem unanswered_written
    {crc32 : Bytes → UInt32}
    {p q : KafkaPartition}
    {outcome : WriteOutcome}
    {req : WriteBuffer}
    {rest : List WriteBuffer}
    (known : req.IsOther ∨ req.Genuine crc32 p.config)
    (acknowledging : p.config.pRequiredAcks ≠ 0)
    (front : p.writeBuffers = req :: rest)
    (keeps : KeepsMessages p (.writeReady outcome))
    (after : LinkAfter p (.writeReady outcome)
      (p.link.send req (outcome.accepted req)) q.link) :
    q.unansweredValues = p.unansweredValues ++ req.values ∧
      q.acknowledgedValues = p.acknowledgedValues := by
  obtain ⟨safe, whole⟩ := keeps
  by_cases empty : req.values = []
  · -- Whether it is waited for or not, an empty frame carries nothing.
    have sent : (p.link.send req (outcome.accepted req)).awaiting.flatMap
          WriteBuffer.values = p.unansweredValues ∧
        (p.link.send req (outcome.accepted req)).acknowledged =
          p.link.acknowledged := by
      unfold Link.send
      split
      · simp [unansweredValues, empty]
      · exact ⟨rfl, rfl⟩
    rw [empty, List.append_nil]
    rcases after with same | ⟨loses, dropped⟩
    · rw [unansweredValues, acknowledgedValues, same, sent.1, sent.2]
      exact ⟨rfl, rfl⟩
    · rw [unansweredValues, acknowledgedValues, dropped, safe loses,
        Link.dropped, sent.2]
      exact ⟨rfl, rfl⟩
  · obtain rfl : outcome = .written := by
      simpa [writesWhole, front, empty] using whole
    have genuine : req.Genuine crc32 p.config := by
      rcases known with other | genuine
      · exact absurd other.values empty
      · exact genuine
    have sent : p.link.send req (WriteOutcome.written.accepted req) =
        { p.link with awaiting := p.link.awaiting ++ [req] } := by
      simp [Link.send, genuine.expectsResponse acknowledging,
        WriteOutcome.accepted]
    rcases after with same | ⟨loses, -⟩
    · rw [unansweredValues, acknowledgedValues, same, sent]
      simp [unansweredValues, acknowledgedValues]
    · simp [losesConnection, WriteOutcome.isReset] at loses

/-- A step that keeps the messages moves them as a queue does, from `produce`
to the acknowledgement. -/
theorem Transition.acknowledges
    {crc32 : Bytes → UInt32}
    {p q : KafkaPartition}
    {event : Event}
    (moved : Transition crc32 p event q)
    (genuine : GenuineFrames crc32 p)
    (acknowledging : p.config.pRequiredAcks ≠ 0)
    (answers : BrokerAnswers p event)
    (keeps : KeepsMessages p event) :
    ∃ output, q.acknowledgedValues = p.acknowledgedValues ++ output ∧
      Fifo.Move (p.unansweredValues ++ p.waitingValues) event.messages output
        (q.unansweredValues ++ q.waitingValues) := by
  obtain ⟨passed, handed, entering⟩ := moved.move answers.1
  -- It is enough that the messages handed over enter the unanswered ones.
  suffices leaving : ∃ output,
      q.acknowledgedValues = p.acknowledgedValues ++ output ∧
      Fifo.Move p.unansweredValues passed output q.unansweredValues by
    obtain ⟨output, acknowledged, leaves⟩ := leaving
    exact ⟨output, acknowledged, entering.series leaves⟩
  cases moved.traffic with
  | quiet unchanged _ after =>
      obtain rfl : passed = [] := by
        rw [unchanged] at handed
        exact List.self_eq_append_right.mp handed
      refine ⟨[], ?_⟩
      rw [List.append_nil]
      rcases after with same | ⟨loses, -, dropped⟩
      · have unanswered : q.unansweredValues = p.unansweredValues := by
          rw [unansweredValues, same, unansweredValues]
        rw [acknowledgedValues, same, unanswered]
        exact ⟨rfl, .idle _⟩
      · obtain ⟨unanswered, acknowledged⟩ :=
          unanswered_dropped (keeps.1 loses) dropped
        rw [unanswered]
        exact ⟨acknowledged, .idle _⟩
  | @written outcome req rest wrote front added _ after =>
      subst wrote
      obtain rfl : passed = req.values := by
        rw [added] at handed
        exact (List.append_cancel_left handed).symm
      have known := genuine req (by simp [frames, front])
      obtain ⟨unanswered, acknowledged⟩ :=
        unanswered_written known acknowledging front keeps after
      refine ⟨[], by rw [List.append_nil, acknowledged], ?_⟩
      rw [unanswered]
      exact .enter _ _
  | @answered ec _ produce error unchanged _ after =>
      obtain rfl : passed = [] := by
        rw [unchanged] at handed
        exact List.self_eq_append_right.mp handed
      obtain rfl : ec = 0 := by
        by_contra erroneous
        exact absurd (error.mpr erroneous) (by simp [answers.1])
      obtain ⟨first, later, awaiting⟩ :=
        List.exists_cons_of_ne_nil (answers.2 produce)
      have split : p.unansweredValues =
          first.values ++ later.flatMap WriteBuffer.values := by
        rw [unansweredValues, awaiting, List.flatMap_cons]
      have answer : p.link.answer 0 =
          ⟨later, p.link.acknowledged ++ [first]⟩ := by
        simp [Link.answer, awaiting]
      rw [answer] at after
      refine ⟨first.values, ?_, ?_⟩
      · rcases after with same | ⟨-, dropped⟩
        · simp [acknowledgedValues, same]
        · simp [acknowledgedValues, dropped, Link.dropped]
      · rcases after with same | ⟨loses, dropped⟩
        · rw [split, unansweredValues, same]
          exact .leave _ _
        · have none := keeps.1 loses
          rw [split, List.append_eq_nil_iff] at none
          rw [split, none.1, none.2, unansweredValues, dropped]
          exact .idle _

/-- Nothing waits after effects that only prepare. -/
theorem foldl_observe_preparation
    {effects : List Effect}
    (preparation : ∀ effect ∈ effects, effect.isPreparation = true) :
    effects.foldl Link.observe {} = {} := by
  induction effects with
  | nil => rfl
  | cons effect effects inductionHypothesis =>
      have first : Link.observe {} effect = {} := by
        have prepared := preparation effect List.mem_cons_self
        by_cases quiet : effect.isQuiet = true
        · rw [Link.observe_quiet {} quiet]
          exact ite_self ({} : Link)
        · cases effect with
          | read payload =>
              rw [Link.observe]
              split <;> rfl
          | _ => simp [Effect.isPreparation, quiet] at prepared
      rw [List.foldl_cons, first]
      apply inductionHypothesis
      intro other member
      exact preparation other (List.mem_cons_of_mem _ member)

/-- A fresh partition has sent nothing that would be answered. -/
theorem Fresh.link {p : KafkaPartition} (fresh : Fresh p) : p.link = {} :=
  foldl_observe_preparation fresh.preparation

/-- Along a run that keeps the messages, the four places hold the accepted
messages in order. -/
theorem places_eq_accepted
    {crc32 : Bytes → UInt32}
    {start p : KafkaPartition}
    {history : List Event}
    (constructed : ConstructedProducer start)
    (acknowledging : start.config.pRequiredAcks ≠ 0)
    (run : Run (step crc32)
      (fun p event => BrokerAnswers p event ∧ KeepsMessages p event)
      start history p) :
    p.acknowledgedValues ++ p.unansweredValues ++
        p.writeBuffers.flatMap WriteBuffer.values ++ p.msgs =
      history.flatMap Event.messages := by
  obtain ⟨fresh, -⟩ := constructed.fresh
  obtain ⟨-, conserved⟩ := Fifo.conserved
    (fun p => GenuineFrames crc32 p ∧ p.config.pRequiredAcks ≠ 0)
    acknowledgedValues (fun p => p.unansweredValues ++ p.waitingValues)
    Event.messages ⟨fresh.genuineFrames, acknowledging⟩
    (fun state event next ⟨genuine, acks⟩ ⟨answers, keeps⟩ stepped => by
      have moved := step_transition stepped
      have sameConfig : next.config = state.config := moved.config
      exact ⟨⟨genuine.transition answers.1 moved, by rwa [sameConfig]⟩,
        moved.acknowledges genuine acks answers keeps⟩) run
  have initially : start.acknowledgedValues ++
      (start.unansweredValues ++ start.waitingValues) = [] := by
    have values := fresh.values
    rw [frames, List.flatMap_append, List.append_eq_nil_iff] at values
    simp [acknowledgedValues, unansweredValues, waitingValues, fresh.link,
      fresh.noMessages, values.2]
  rw [initially, List.nil_append] at conserved
  rw [← conserved, waitingValues]
  simp only [List.append_assoc]

/-- No accepted message is lost along a run in which the connection is given up
only while no message waits for its response and frames with messages are
accepted whole. -/
theorem nothing_lost_of_keepsMessages
    {crc32 : Bytes → UInt32}
    {start p : KafkaPartition}
    {history : List Event}
    (constructed : ConstructedProducer start)
    (acknowledging : start.config.pRequiredAcks ≠ 0)
    (run : Run (step crc32)
      (fun p event => BrokerAnswers p event ∧ KeepsMessages p event)
      start history p) :
    NothingLost history p := by
  rw [NothingLost, places_eq_accepted constructed acknowledging run]

/-- A message is written and acknowledged, the connection is lost and replaced,
and a second message is accepted. -/
theorem nothing_lost_of_keepsMessages_reconnect :
    ∃ p, Run (step Crc32.checksum)
        (fun p event => BrokerAnswers p event ∧ KeepsMessages p event)
        (sampleProducer {})
        [.produce [104], .batchTimer, .writeReady .written,
          .readReady (.payload [0, 0, 0, 0, 0, 0, 0, 0]) {},
          .readReady .closed { connect := some 10 }, .produce [105]] p ∧
      NothingLost
        [.produce [104], .batchTimer, .writeReady .written,
          .readReady (.payload [0, 0, 0, 0, 0, 0, 0, 0]) {},
          .readReady .closed { connect := some 10 }, .produce [105]] p := by
  obtain ⟨p, run, -⟩ := exists_run_of_follow (step Crc32.checksum)
    (fun p event => BrokerAnswers p event ∧ KeepsMessages p event)
    (sampleProducer {})
    [.produce [104], .batchTimer, .writeReady .written,
      .readReady (.payload [0, 0, 0, 0, 0, 0, 0, 0]) {},
      .readReady .closed { connect := some 10 }, .produce [105]]
    (fun _ => true) (by decide +kernel)
  exact ⟨p, run, nothing_lost_of_keepsMessages
    (sampleProducer_started _ (by decide +kernel)).constructed (by decide +kernel) run⟩

/-- The broker closes the connection before it answers: the message that was
written on it is in none of the four places afterwards. -/
theorem lost_message_of_closed_connection :
    ∃ p, StartedProducer (sampleProducer {}) ∧
      (sampleProducer {}).config.pRequiredAcks ≠ 0 ∧
      Run (step Crc32.checksum) BrokerAnswers (sampleProducer {})
        [.produce [104], .batchTimer, .writeReady .written,
          .readReady .closed { connect := some 10 }] p ∧
      ¬ NothingLost
        [.produce [104], .batchTimer, .writeReady .written,
          .readReady .closed { connect := some 10 }] p := by
  obtain ⟨p, run, places⟩ := exists_run_of_follow (step Crc32.checksum)
    BrokerAnswers (sampleProducer {})
    [.produce [104], .batchTimer, .writeReady .written,
      .readReady .closed { connect := some 10 }]
    (fun p => p.acknowledgedValues ++ p.unansweredValues ++
      p.writeBuffers.flatMap WriteBuffer.values ++ p.msgs = [])
    (by decide +kernel)
  refine ⟨p, sampleProducer_started _ (by decide +kernel), by decide +kernel, run, ?_⟩
  intro kept
  rw [NothingLost, of_decide_eq_true places] at kept
  exact absurd kept.length_le (by decide)

end KafkaPartition
end AsyncKafka
