import AsyncKafka.Partition.Life

/-!
# Requests in transit

`handleProduceResponse` takes the front of the queue of requests in transit
without looking whether there is one.  A request enters that queue before it is
written, and only a produce response takes it out again, so the queue is never
shorter than what the broker can still answer on the current connection.
-/

namespace AsyncKafka

open Wire Execution

namespace Line

open KafkaPartition

/-- Every produce request that the broker can still answer is in transit. -/
def Covered (line : Line) : Prop := line.exchange.produces ≤ line.transit

theorem Replaced.covered
    {line after : Line}
    {wakes : Bool}
    (replaced : line.Replaced wakes after) :
    after.Covered := by
  obtain ⟨_, -, -, rfl⟩ := replaced
  exact Nat.zero_le _

/-- The reaction to an error code sends no produce request. -/
theorem Reaction.produces_le
    {line after : Line}
    {consumer : Bool}
    {ec : Int}
    {writes : WriteOutcome}
    (reaction : line.Reaction consumer ec writes after) :
    after.exchange.produces ≤ line.exchange.produces := by
  cases reaction with
  | ignored _ => exact le_rfl
  | asked _ _ control =>
      rw [sent, Exchange.sent_control _ control]
  | lost _ _ replaced =>
      obtain ⟨_, -, -, rfl⟩ := replaced
      exact Nat.zero_le _

/-- A response that is not for a produce request answers none. -/
theorem produces_received_of_ne
    (line : Line)
    {payload : Bytes}
    (other : correlationId payload ≠ apiKeyProduceRequest) :
    (line.received payload).exchange.produces = line.exchange.produces :=
  if_neg other

theorem produces_received
    (line : Line)
    {payload : Bytes}
    (produce : correlationId payload = apiKeyProduceRequest) :
    (line.received payload).exchange.produces = line.exchange.produces - 1 :=
  if_pos produce

/-- A request is in transit before the kernel has accepted any of it. -/
theorem covered_write
    {line : Line}
    (covered : line.Covered)
    (req : WriteBuffer)
    (rest : List WriteBuffer)
    (accepted : Option Nat) :
    ((line.popped req rest).sent req accepted).Covered := by
  unfold Covered at covered ⊢
  simp only [sent, popped, Exchange.sent]
  cases req.isProduce with
  | false => simpa using covered
  | true =>
      simp only [Bool.true_and, if_true]
      split <;> omega

end Line

namespace KafkaPartition

theorem Motion.covered
    {p : KafkaPartition}
    {event : Event}
    {after : Line}
    (motion : Motion p event after)
    (covered : p.line.Covered) :
    after.Covered := by
  cases motion with
  | reset _ _ replaced => exact replaced.covered
  | lost _ replaced => exact replaced.covered
  | moved _ _ replaced => exact replaced.covered
  | @write _ req rest _ _ => exact Line.covered_write covered req rest _
  | @produced payload _ produce _ =>
      have answered := p.line.produces_received produce
      unfold Line.Covered at covered ⊢
      dsimp only
      omega
  | @refused payload _ middle _ produce _ _ reaction _ =>
      have answered := p.line.produces_received produce
      have reacted := reaction.produces_le
      have transit : middle.transit = p.line.transit := reaction.keeps.2.2.2.2
      unfold Line.Covered at covered ⊢
      dsimp only
      omega
  | @fetched payload _ middle fetch reaction =>
      have other : correlationId payload ≠ apiKeyProduceRequest := by
        rw [fetch]
        decide
      have unanswered := p.line.produces_received_of_ne other
      have reacted := reaction.produces_le
      have transit : middle.transit = p.line.transit := reaction.keeps.2.2.2.2
      unfold Line.Covered at covered ⊢
      dsimp only [Line.wake]
      omega
  | answered other _ reaction =>
      have unanswered := p.line.produces_received_of_ne other
      have reacted := reaction.produces_le
      have transit : after.transit = p.line.transit := reaction.keeps.2.2.2.2
      unfold Line.Covered at covered ⊢
      omega
  | _ => exact covered

theorem CallMotion.covered
    {p : KafkaPartition}
    {call : Call}
    {after : Line}
    (motion : CallMotion p call after)
    (covered : p.line.Covered) :
    after.Covered := by
  cases motion with
  | event motion => exact motion.covered covered
  | _ => exact covered

theorem Unborn.covered
    {p : KafkaPartition}
    (unborn : Unborn p) :
    p.line.Covered := by
  rw [unborn.line_eq]
  exact Nat.le_refl 0

/-- A produce response is handled to the end once it has been read and its error
code was reacted to, if a request is in transit then. -/
theorem handleProduceResponse_returns
    {p middle : KafkaPartition}
    {payload : Bytes}
    {surroundings : Surroundings}
    {response : ProduceResponse}
    {ec : Int}
    (readOk : readProduceResponse payload = .ok (response, ec))
    (reacted : p.handleErrorCode ec surroundings.writes = .ok middle)
    (nonempty : middle.inTransitProduceRequest ≠ []) :
    ∃ q, p.handleProduceResponse payload surroundings = .ok q := by
  obtain ⟨req, rest, front⟩ := List.exists_cons_of_ne_nil nonempty
  unfold handleErrorCode at reacted
  unfold handleProduceResponse
  rw [readOk, ok_bind]
  by_cases fine : ec = 0
  · subst fine
    obtain rfl := Except.ok.inj reacted
    simp only [ne_eq, not_true_eq_false, if_false, acknowledge, front]
    split
    · exact ⟨_, rfl⟩
    · split <;> exact ⟨_, rfl⟩
  · rw [if_pos fine] at reacted
    simp only [ne_eq, fine, not_false_eq_true, if_true, returnRequest, reacted,
      ok_bind, front]
    exact ⟨_, rfl⟩

/-- A produce response to a request that was sent on the current connection
finds a request in transit, also after the reaction to its error code. -/
theorem produce_response_finds_request
    {crc32 : Bytes → UInt32}
    {start p middle : KafkaPartition}
    {history : List Call}
    {payload : Bytes}
    {surroundings : Surroundings}
    {response : ProduceResponse}
    {ec : Int}
    (unborn : Unborn start)
    (run : Run (perform crc32) (fun _ _ => True) start history p)
    (sent : 0 < p.exchange.produces)
    (readOk : readProduceResponse payload = .ok (response, ec))
    (reacted : (p.record (.read payload)).handleErrorCode ec
      surroundings.writes = .ok middle) :
    middle.inTransitProduceRequest ≠ [] ∧
      ∃ q, (p.record (.read payload)).handleProduceResponse payload
        surroundings = .ok q := by
  have covered : p.line.Covered :=
    line_invariant Line.Covered unborn.covered
      (fun _ _ _ before _ motion => motion.covered before) run
  have transit : middle.line.transit = p.line.transit :=
    (handleErrorCode_line reacted).keeps.2.2.2.2
  have positive : 0 < middle.inTransitProduceRequest.length := by
    change 0 < middle.line.transit
    rw [transit]
    exact Nat.lt_of_lt_of_le sent covered
  have nonempty := List.ne_nil_of_length_pos positive
  exact ⟨nonempty, handleProduceResponse_returns readOk reacted nonempty⟩

/-- A producer that has written a batch. -/
def batchCalls : List Call :=
  initCalls 5 sampleSurroundings ++
    [.startProduce 7 8 9, .event (.produce [1]), .event .batchTimer,
      .event (.writeReady .written)]

/-- A response which says that the leader has moved. -/
def movedResponse : Bytes :=
  [0, 0, 0, 0, 0, 0, 0, 1, 0, 1, 116, 0, 0, 0, 1, 0, 0, 0, 0, 0, 6,
    0, 0, 0, 0, 0, 0, 0, 0]

/-- A write that is reset, with another connection to be had. -/
def resetOnce : Surroundings := { writes := .reset (some 10) .written }

/-- The leader has moved, and the connection is reset and replaced while the
partition asks for it. -/
theorem produce_response_finds_request_reset :
    ∃ p middle response,
      Run (perform Crc32.checksum) (fun _ _ => True) (sampleUnborn .producer)
        batchCalls p ∧
      0 < p.exchange.produces ∧
      readProduceResponse movedResponse = .ok (response, 6) ∧
      (p.record (.read movedResponse)).handleErrorCode 6
        resetOnce.writes = .ok middle ∧
      middle.inTransitProduceRequest ≠ [] := by
  obtain ⟨p, run, checked⟩ := exists_run_of_follow (perform Crc32.checksum)
    (fun _ _ => True) (sampleUnborn .producer) batchCalls
    (fun p => 0 < p.exchange.produces ∧
      ((p.record (.read movedResponse)).handleErrorCode 6
        resetOnce.writes).toOption.any (fun _ => true) = true)
    (by decide +kernel)
  obtain ⟨sent, reacts⟩ := of_decide_eq_true checked
  obtain ⟨middle, reacted, -⟩ := exists_ok_of_any _ _ reacts
  obtain ⟨⟨response, ec⟩, readOk, code⟩ := exists_ok_of_any
    (readProduceResponse movedResponse) (fun result => result.2 = 6)
    (by decide +kernel)
  obtain rfl : ec = 6 := of_decide_eq_true code
  have found := produce_response_finds_request (sampleUnborn_unborn .producer)
    run sent readOk reacted
  exact ⟨p, middle, response, run, sent, readOk, reacted, found.1⟩

end KafkaPartition
end AsyncKafka
