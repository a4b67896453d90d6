import AsyncKafka.Producer.Reliability

/-!
# When responses match the requests in transit

All produce requests share one correlation identifier, so a response is matched
by position alone: it belongs to the front of `m_qInTransitProduceRequest`.
The queue is right as long as it lists the requests that await a response on
the current connection.  It is pushed to whenever a produce frame is taken off
the deque, whether or not a response will come, and it survives the connection;
the steps that avoid both keep it right.
-/

namespace AsyncKafka

open Wire Execution

namespace KafkaPartition

/-- The requests in transit are those that await a response on the current
connection, in the order in which they were written. -/
def TransitMatches (p : KafkaPartition) : Prop :=
  p.inTransitProduceRequest = p.link.awaiting.map WriteBuffer.second

/-- The broker answers only requests that it was sent on the current
connection. -/
def AnswersInOrder (p : KafkaPartition) (event : Event) : Prop :=
  event.isProduceResponse = true → p.link.awaiting ≠ []

/-- The requests that stay unanswered when an event has been dealt with. -/
def stillAwaiting (p : KafkaPartition) (event : Event) : List WriteBuffer :=
  if event.isProduceResponse then p.link.awaiting.tail else p.link.awaiting

/-- Whether a write, if the event is one, takes a whole produce request that
will be answered, or a frame of another kind. -/
def writesAnswered (p : KafkaPartition) : Event → Bool
  | .writeReady outcome =>
      p.writeBuffers.head?.all fun req => !req.isProduce ||
        req.request.isSome && p.config.pRequiredAcks != 0 && outcome == .written
  | _ => true

/-- The connection is given up only while no other request awaits a response,
and a produce frame is taken off the deque only when acknowledgements are on,
the frame is a request and not what was put back after an error, and the
kernel accepts it whole. -/
def KeepsTransit (p : KafkaPartition) (event : Event) : Prop :=
  (p.losesConnection event = true → p.stillAwaiting event = []) ∧
    p.writesAnswered event = true

instance (p : KafkaPartition) : Decidable (TransitMatches p) :=
  inferInstanceAs (Decidable (_ = _))

instance (p : KafkaPartition) (event : Event) :
    Decidable (AnswersInOrder p event) :=
  inferInstanceAs (Decidable (_ → _))

instance (p : KafkaPartition) (event : Event) :
    Decidable (KeepsTransit p event) :=
  inferInstanceAs (Decidable (_ ∧ _))

/-- Every frame is a request of another kind, a genuine produce request, or
what was put back after an error. -/
def KnownFrames (crc32 : Bytes → UInt32) (p : KafkaPartition) : Prop :=
  ∀ buffer ∈ p.frames, buffer.IsOther ∨ buffer.Genuine crc32 p.config ∨
    buffer.request = none

theorem KnownFrames.transition
    {crc32 : Bytes → UInt32}
    {p q : KafkaPartition}
    {event : Event}
    (known : KnownFrames crc32 p)
    (moved : Transition crc32 p event q) :
    KnownFrames crc32 q := by
  intro buffer member
  have sameConfig : q.config = p.config := moved.config
  rw [sameConfig]
  rcases moved.mem_frames_produce member with old | other | new | ⟨-, putBack⟩
  · exact known buffer old
  · exact .inl other
  · exact .inr (.inl new)
  · exact .inr (.inr putBack)

theorem Fresh.knownFrames
    {crc32 : Bytes → UInt32}
    {p : KafkaPartition}
    (fresh : Fresh p) :
    KnownFrames crc32 p := by
  intro buffer member
  exact .inl (WriteBuffer.isOther_of_isControl
    (fresh.isControl_of_mem_frames member))

/-- Losing the connection while nothing awaits a response keeps the queue
right. -/
theorem TransitMatches.after
    {p q : KafkaPartition}
    {event : Event}
    {expected : Link}
    (after : LinkAfter p event expected q.link)
    (none : p.losesConnection event = true → expected.awaiting = [])
    (matched : q.inTransitProduceRequest =
      expected.awaiting.map WriteBuffer.second) :
    TransitMatches q := by
  rcases after with same | ⟨loses, dropped⟩
  · rw [TransitMatches, same, matched]
  · rw [TransitMatches, dropped, matched, none loses]
    rfl

/-- The produce frame that is taken off the deque is one that the broker will
answer. -/
theorem send_of_writesAnswered
    {crc32 : Bytes → UInt32}
    {p : KafkaPartition}
    {outcome : WriteOutcome}
    {req : WriteBuffer}
    {rest : List WriteBuffer}
    (known : KnownFrames crc32 p)
    (front : p.writeBuffers = req :: rest)
    (produce : req.first = apiKeyProduceRequest)
    (whole : p.writesAnswered (.writeReady outcome) = true) :
    outcome = .written ∧
      p.link.send req (outcome.accepted req) =
        { p.link with awaiting := p.link.awaiting ++ [req] } := by
  obtain ⟨⟨isRequest, acknowledging⟩, rfl⟩ :
      (req.request.isSome = true ∧ p.config.pRequiredAcks ≠ 0) ∧
        outcome = .written := by
    simpa [writesAnswered, front, WriteBuffer.isProduce, produce] using whole
  have genuine : req.Genuine crc32 p.config := by
    rcases known req (by simp [frames, front]) with other | new | putBack
    · have notProduce := other.1
      simp [WriteBuffer.isProduce, produce] at notProduce
    · exact new
    · simp [putBack] at isRequest
  refine ⟨rfl, ?_⟩
  simp [Link.send, genuine.expectsResponse acknowledging,
    WriteOutcome.accepted]

/-- No other frame is waited for. -/
theorem send_of_not_produce
    {crc32 : Bytes → UInt32}
    {p : KafkaPartition}
    {req : WriteBuffer}
    {rest : List WriteBuffer}
    (known : KnownFrames crc32 p)
    (front : p.writeBuffers = req :: rest)
    (notProduce : req.first ≠ apiKeyProduceRequest)
    (accepted : Option Nat) :
    p.link.send req accepted = p.link := by
  rcases known req (by simp [frames, front]) with other | genuine | putBack
  · exact Link.send_of_isOther p.link other accepted
  · obtain ⟨request, -, rfl⟩ := genuine
    exact absurd rfl notProduce
  · simp [Link.send, WriteBuffer.expectsResponse, putBack]

/-- A step that meets the conditions keeps the queue right. -/
theorem TransitMatches.transition
    {crc32 : Bytes → UInt32}
    {p q : KafkaPartition}
    {event : Event}
    (matched : TransitMatches p)
    (known : KnownFrames crc32 p)
    (answers : AnswersInOrder p event)
    (keeps : KeepsTransit p event)
    (moved : Transition crc32 p event q) :
    TransitMatches q := by
  obtain ⟨safe, whole⟩ := keeps
  unfold TransitMatches at matched
  cases moved.traffic with
  | quiet _ transit after =>
      rcases after with same | ⟨loses, other, dropped⟩
      · rw [TransitMatches, transit, same, matched]
      · have none := safe loses
        rw [stillAwaiting, if_neg (by simp [other])] at none
        rw [TransitMatches, transit, dropped, matched, none]
        rfl
  | @written outcome req rest wrote front _ transit after =>
      subst wrote
      by_cases produce : req.first = apiKeyProduceRequest
      · obtain ⟨rfl, sent⟩ := send_of_writesAnswered known front produce whole
        rw [sent] at after
        refine .after after ?_ ?_
        · simp [losesConnection, WriteOutcome.isReset]
        · rw [transit, popWriteBuffer]
          simp [produce, matched]
      · rw [send_of_not_produce known front produce] at after
        refine .after after (fun loses => safe loses) ?_
        rw [transit, popWriteBuffer]
        simp [produce, matched]
  | @answered ec req produce _ _ front after =>
      obtain ⟨first, later, awaiting⟩ :=
        List.exists_cons_of_ne_nil (answers produce)
      have answer : (p.link.answer ec).awaiting = later := by
        unfold Link.answer
        rw [awaiting]
        dsimp only
        split <;> rfl
      refine .after after ?_ ?_
      · intro loses
        have none := safe loses
        rw [stillAwaiting, if_pos produce, awaiting] at none
        rw [answer]
        exact none
      · rw [front, awaiting, List.map_cons] at matched
        rw [answer]
        exact (List.cons.inj matched).2

/-- Along a run that meets the conditions the requests in transit are in every
state those that await a response on the current connection, and the entry that
the next produce response removes is the request that it answers. -/
theorem transit_matches_of_keepsTransit
    {crc32 : Bytes → UInt32}
    {start p : KafkaPartition}
    {history : List Event}
    (constructed : ConstructedProducer start)
    (run : Run (step crc32)
      (fun p event => AnswersInOrder p event ∧ KeepsTransit p event)
      start history p) :
    TransitMatches p ∧
      p.inTransitProduceRequest.head? =
        p.link.awaiting.head?.map WriteBuffer.second := by
  obtain ⟨fresh, -⟩ := constructed.fresh
  have invariant : TransitMatches p ∧ KnownFrames crc32 p := by
    apply Run.invariant (fun _ p => TransitMatches p ∧ KnownFrames crc32 p)
      _ _ run
    · refine ⟨?_, fresh.knownFrames⟩
      rw [TransitMatches, fresh.nothingInTransit, fresh.link]
      rfl
    · rintro _ state event next ⟨matched, known⟩ ⟨answers, keeps⟩ stepped
      have moved := step_transition stepped
      exact ⟨matched.transition known answers keeps moved,
        known.transition moved⟩
  refine ⟨invariant.1, ?_⟩
  rw [invariant.1, List.head?_map]

/-- Two requests are written, the first is answered, and the second awaits its
response. -/
theorem transit_matches_of_keepsTransit_two :
    ∃ p, Run (step Crc32.checksum)
        (fun p event => AnswersInOrder p event ∧ KeepsTransit p event)
        (sampleProducer {})
        [.produce [104], .batchTimer, .writeReady .written, .produce [105],
          .batchTimer, .writeReady .written,
          .readReady (.payload [0, 0, 0, 0, 0, 0, 0, 0]) {}] p ∧
      p.link.awaiting.flatMap WriteBuffer.values = [[105]] ∧
      TransitMatches p := by
  obtain ⟨p, run, awaiting⟩ := exists_run_of_follow (step Crc32.checksum)
    (fun p event => AnswersInOrder p event ∧ KeepsTransit p event)
    (sampleProducer {})
    [.produce [104], .batchTimer, .writeReady .written, .produce [105],
      .batchTimer, .writeReady .written,
      .readReady (.payload [0, 0, 0, 0, 0, 0, 0, 0]) {}]
    (fun p => p.link.awaiting.flatMap WriteBuffer.values = [[105]])
    (by decide +kernel)
  exact ⟨p, run, of_decide_eq_true awaiting,
    (transit_matches_of_keepsTransit
      (sampleProducer_started _ (by decide +kernel)).constructed run).1⟩

/-- With acknowledgements off no response is due, but every request that is
written stays in transit for ever. -/
theorem transit_stale_without_acks :
    ∃ p, StartedProducer (sampleProducer { pRequiredAcks := 0 }) ∧
      Run (step Crc32.checksum) AnswersInOrder
        (sampleProducer { pRequiredAcks := 0 })
        [.produce [104], .batchTimer, .writeReady .written] p ∧
      ¬ TransitMatches p := by
  obtain ⟨p, run, stale⟩ := exists_run_of_follow (step Crc32.checksum)
    AnswersInOrder (sampleProducer { pRequiredAcks := 0 })
    [.produce [104], .batchTimer, .writeReady .written]
    (fun p => ¬ TransitMatches p) (by decide +kernel)
  exact ⟨p, sampleProducer_started _ (by decide +kernel), run, of_decide_eq_true stale⟩

end KafkaPartition
end AsyncKafka
