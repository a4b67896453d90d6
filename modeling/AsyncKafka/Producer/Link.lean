import AsyncKafka.Producer.Queue

/-!
# What the broker owes

The trace of a partition tells which produce requests were written in full on
the current connection and still wait for their response, and which were
answered with success.  A broker answers the requests of a connection in order,
so a response belongs to the first request that waits.  What is known of a
connection ends with it.
-/

namespace AsyncKafka

open Wire Execution

/-- Whether the broker sends a response to a frame that reaches it whole. -/
def WriteBuffer.expectsResponse (buffer : WriteBuffer) : Bool :=
  match buffer.request with
  | some (.produce request) => request.responseExpected
  | _ => false

/-- The produce requests of the current connection that wait for a response,
and all those that were answered with success. -/
structure Link where
  awaiting : List WriteBuffer := []
  acknowledged : List WriteBuffer := []
  deriving DecidableEq, Repr

namespace Link

/-- Nothing waits any more once the connection is gone. -/
def dropped (link : Link) : Link := { link with awaiting := [] }

/-- A produce response with an error code answers the first request. -/
def answer (link : Link) (ec : Int) : Link :=
  match link.awaiting with
  | [] => link
  | answered :: awaiting =>
      if ec = 0 then
        { awaiting, acknowledged := link.acknowledged ++ [answered] }
      else { link with awaiting }

/-- A frame of which the kernel has accepted so many bytes. -/
def send (link : Link) (buffer : WriteBuffer) (accepted : Option Nat) : Link :=
  if buffer.expectsResponse && accepted == some buffer.second.length then
    { link with awaiting := link.awaiting ++ [buffer] }
  else link

/-- What an effect says about the requests of the connection. -/
def observe (link : Link) : Effect → Link
  | .close _ => link.dropped
  | .write buffer accepted => link.send buffer accepted
  | .read payload =>
      if KafkaPartition.correlationId payload = apiKeyProduceRequest then
        link.answer (KafkaPartition.reportedError (readProduceResponse payload))
      else link
  | _ => link

/-- Only produce requests are waited for. -/
theorem send_of_isOther
    (link : Link)
    {buffer : WriteBuffer}
    (other : buffer.IsOther)
    (accepted : Option Nat) :
    link.send buffer accepted = link := by
  have unexpected : buffer.expectsResponse = false := by
    unfold WriteBuffer.expectsResponse
    split
    · rename_i request produce
      exact absurd produce (other.2 request)
    · rfl
  simp [send, unexpected]

/-- A quiet effect changes nothing unless it closes the connection. -/
theorem observe_quiet
    (link : Link)
    {effect : Effect}
    (quiet : effect.isQuiet = true) :
    link.observe effect = if effect.isClose then link.dropped else link := by
  cases effect with
  | write buffer accepted =>
      have control : buffer.isControl = true := by
        simpa [Effect.isQuiet, Effect.isControl] using quiet
      simpa [observe, Effect.isClose] using
        send_of_isOther link (WriteBuffer.isOther_of_isControl control) accepted
  | read payload => simp [Effect.isQuiet, Effect.isControl] at quiet
  | _ => rfl

/-- Quiet effects without a close change nothing. -/
theorem foldl_observe_open
    {link : Link}
    {effects : List Effect}
    (quiet : ∀ effect ∈ effects, effect.isQuiet = true)
    (unclosed : ∀ effect ∈ effects, effect.isClose = false) :
    effects.foldl observe link = link := by
  induction effects with
  | nil => rfl
  | cons effect effects inductionHypothesis =>
      rw [List.foldl_cons, observe_quiet link (quiet effect (by simp)),
        unclosed effect (by simp), if_neg (by simp)]
      exact inductionHypothesis
        (fun other member => quiet other (by simp [member]))
        (fun other member => unclosed other (by simp [member]))

/-- Quiet effects change nothing or drop what waits. -/
theorem foldl_observe_quiet
    {link : Link}
    {effects : List Effect}
    (quiet : ∀ effect ∈ effects, effect.isQuiet = true) :
    effects.foldl observe link = link ∨
      effects.foldl observe link = link.dropped := by
  induction effects generalizing link with
  | nil => exact .inl rfl
  | cons effect effects inductionHypothesis =>
      have later : ∀ other ∈ effects, other.isQuiet = true :=
        fun other member => quiet other (by simp [member])
      rw [List.foldl_cons, observe_quiet link (quiet effect (by simp))]
      cases closes : effect.isClose with
      | false => exact inductionHypothesis later
      | true =>
          have rest : effects.foldl observe link.dropped = link.dropped ∨
              effects.foldl observe link.dropped = link.dropped :=
            inductionHypothesis later
          exact .inr (rest.elim id id)

end Link

namespace KafkaPartition

/-- The requests of the current connection, as the trace tells. -/
def link (p : KafkaPartition) : Link := p.trace.foldl Link.observe {}

theorem link_record (p : KafkaPartition) (effect : Effect) :
    (p.record effect).link = p.link.observe effect := by
  simp [link, record, List.foldl_append]

/-- Whether an event is a produce response. -/
def Event.isProduceResponse : Event → Bool
  | .readReady (.payload payload) _ =>
      correlationId payload == apiKeyProduceRequest
  | _ => false

/-- Bookkeeping without a close leaves the requests of the connection alone. -/
theorem Bookkeeping.link_of_unclosed
    {p q : KafkaPartition}
    {effects : List Effect}
    (kept : Bookkeeping p effects q)
    (unclosed : ∀ effect ∈ effects, effect.isClose = false) :
    q.link = p.link := by
  obtain ⟨⟨_, _, _, _, _, _, _, _, _, _, _, rfl⟩, quiet⟩ := kept
  simpa [link, List.foldl_append] using Link.foldl_observe_open quiet unclosed

theorem Bookkeeping.link_or_dropped
    {p q : KafkaPartition}
    {effects : List Effect}
    (kept : Bookkeeping p effects q) :
    q.link = p.link ∨ q.link = p.link.dropped := by
  obtain ⟨⟨_, _, _, _, _, _, _, _, _, _, _, rfl⟩, quiet⟩ := kept
  simpa [link, List.foldl_append] using Link.foldl_observe_quiet quiet

theorem Bookkeeping.inTransitProduceRequest
    {p q : KafkaPartition}
    {effects : List Effect}
    (kept : Bookkeeping p effects q) :
    q.inTransitProduceRequest = p.inTransitProduceRequest := by
  obtain ⟨⟨_, _, _, _, _, _, _, _, _, _, _, rfl⟩, -⟩ := kept
  rfl

/-- After an event the requests of the connection are the expected ones, or
nothing waits because the event has lost the connection. -/
def LinkAfter
    (p : KafkaPartition)
    (event : Event)
    (expected actual : Link) : Prop :=
  actual = expected ∨
    p.losesConnection event = true ∧ actual = expected.dropped

theorem Bookkeeping.linkAfter
    {p r q : KafkaPartition}
    {event : Event}
    {effects : List Effect}
    (kept : Bookkeeping r effects q)
    (keeps : KeepsConnection p event effects) :
    LinkAfter p event r.link q.link := by
  by_cases loses : p.losesConnection event = true
  · exact kept.link_or_dropped.imp_right fun dropped => ⟨loses, dropped⟩
  · exact .inl (kept.link_of_unclosed (keeps (by simpa using loses)))

/-- The three ways in which a move concerns the requests in transit: not at
all, by writing a frame, and by a produce response. -/
inductive Traffic (p : KafkaPartition) (event : Event) (q : KafkaPartition) :
    Prop
  | quiet :
      q.handedValues = p.handedValues →
      q.inTransitProduceRequest = p.inTransitProduceRequest →
      (q.link = p.link ∨ p.losesConnection event = true ∧
        event.isProduceResponse = false ∧ q.link = p.link.dropped) →
      Traffic p event q
  | written
      {outcome : WriteOutcome}
      {req : WriteBuffer}
      {rest : List WriteBuffer} :
      event = .writeReady outcome →
      p.writeBuffers = req :: rest →
      q.handedValues = p.handedValues ++ req.values →
      q.inTransitProduceRequest =
        (p.popWriteBuffer req rest).inTransitProduceRequest →
      LinkAfter p event (p.link.send req (outcome.accepted req)) q.link →
      Traffic p event q
  | answered
      {ec : Int}
      {req : Bytes} :
      event.isProduceResponse = true →
      (event.isProduceError = true ↔ ec ≠ 0) →
      q.handedValues = p.handedValues →
      p.inTransitProduceRequest = req :: q.inTransitProduceRequest →
      LinkAfter p event (p.link.answer ec) q.link →
      Traffic p event q

theorem link_deliver (p : KafkaPartition) (messages : MessageSet) :
    (p.deliver messages).link = p.link ∧
      (p.deliver messages).inTransitProduceRequest =
        p.inTransitProduceRequest := by
  unfold deliver
  dsimp only
  split
  · exact ⟨link_record _ _, rfl⟩
  · exact ⟨rfl, rfl⟩

theorem link_resetOffset (p : KafkaPartition) (offset : Int) :
    (p.resetOffset offset).link = p.link ∧
      (p.resetOffset offset).inTransitProduceRequest =
        p.inTransitProduceRequest := by
  rw [resetOffset_eq]
  exact ⟨rfl, rfl⟩

/-- The link after a response that is no produce response. -/
theorem link_record_read
    {p : KafkaPartition}
    {payload : Bytes}
    (other : correlationId payload ≠ apiKeyProduceRequest) :
    (p.record (.read payload)).link = p.link := by
  rw [link_record, Link.observe, if_neg other]

theorem Transition.traffic
    {crc32 : Bytes → UInt32}
    {p q : KafkaPartition}
    {event : Event}
    (moved : Transition crc32 p event q) :
    Traffic p event q := by
  -- A response of another kind leaves the requests alone or drops them.
  have other {payload : Bytes} {surroundings : Surroundings} {actual : Link}
      (kind : correlationId payload ≠ apiKeyProduceRequest)
      (after : LinkAfter p (.readReady (.payload payload) surroundings)
        (p.record (.read payload)).link actual) :
      actual = p.link ∨
        p.losesConnection (.readReady (.payload payload) surroundings) = true ∧
        Event.isProduceResponse (.readReady (.payload payload) surroundings) =
          false ∧
        actual = p.link.dropped := by
    rw [link_record_read kind] at after
    exact after.imp_right fun ⟨loses, dropped⟩ =>
      ⟨loses, by simpa [Event.isProduceResponse] using kind, dropped⟩
  cases moved with
  | accept bookkeeping queued =>
      refine .quiet bookkeeping.handedValues bookkeeping.inTransitProduceRequest
        (.inl (bookkeeping.link_of_unclosed ?_))
      intro effect member
      rw [queued effect member]
      rfl
  | drain _ bookkeeping =>
      exact .quiet bookkeeping.handedValues bookkeeping.inTransitProduceRequest
        (.inl (bookkeeping.link_of_unclosed (by simp)))
  | fetch bookkeeping =>
      exact .quiet bookkeeping.handedValues bookkeeping.inTransitProduceRequest
        (.inl (bookkeeping.link_of_unclosed (by simp)))
  | metadata bookkeeping =>
      exact .quiet bookkeeping.handedValues bookkeeping.inTransitProduceRequest
        (.inl (bookkeeping.link_of_unclosed (by simp)))
  | idle _ bookkeeping =>
      exact .quiet bookkeeping.handedValues bookkeeping.inTransitProduceRequest
        (.inl (bookkeeping.link_of_unclosed (by simp)))
  | @write outcome req rest effects _ front bookkeeping unreset _ =>
      refine .written rfl front ?_ bookkeeping.inTransitProduceRequest ?_
      · rw [bookkeeping.handedValues, handedValues_record_write]
        rfl
      · have keeps : KeepsConnection p (.writeReady outcome) effects := by
          intro kept
          have plain : outcome.isReset = false := by
            simpa [losesConnection, front] using kept
          rw [unreset plain]
          simp
        have after := bookkeeping.linkAfter keeps
        rwa [link_record] at after
  | lost kind bookkeeping =>
      refine .quiet bookkeeping.handedValues bookkeeping.inTransitProduceRequest
        (bookkeeping.link_or_dropped.imp_right fun dropped => ?_)
      rcases kind with rfl | rfl <;> exact ⟨rfl, rfl, dropped⟩
  | @produced payload surroundings response req rest effects _ produce readOk
      front result kinds =>
      subst result
      refine .answered (by simpa [Event.isProduceResponse] using produce)
        (Event.isProduceError_iff produce readOk) ?_ front (.inl ?_)
      · rcases kinds with rfl | ⟨offset, rfl⟩ <;>
          simp [handedValues, handedFrames, List.filterMap_append, Effect.frame?]
      · rcases kinds with rfl | ⟨offset, rfl⟩ <;>
          simp [link, List.foldl_append, Link.observe, produce, readOk]
  | @refused payload surroundings response ec req rest effects middle _ produce
      readOk erroneous front bookkeeping keeps result =>
      subst result
      refine .answered (by simpa [Event.isProduceResponse] using produce)
        (Event.isProduceError_iff produce readOk) ?_ front ?_
      · exact bookkeeping.handedValues.trans (handedValues_record_read p payload)
      · have after := bookkeeping.linkAfter keeps
        rwa [link_record, Link.observe, if_pos produce, readOk] at after
  | fetched fetch _ bookkeeping =>
      obtain ⟨handed, -, -⟩ := deliver_frames (p.record (.read _)) _
      obtain ⟨sameLink, sameTransit⟩ := link_deliver (p.record (.read _)) _
      refine .quiet (bookkeeping.handedValues.trans ?_)
        (bookkeeping.inTransitProduceRequest.trans sameTransit) (.inl ?_)
      · rw [handedValues, handed]
        exact handedValues_record_read p _
      · rw [bookkeeping.link_of_unclosed (by simp), sameLink,
          link_record_read (by rw [fetch]; decide)]
  | @repositioned _ _ offset _ middle kind _ bookkeeping keeps =>
      obtain ⟨handed, -, -⟩ := resetOffset_frames middle offset
      obtain ⟨sameLink, sameTransit⟩ := link_resetOffset middle offset
      refine .quiet ?_
        (sameTransit.trans bookkeeping.inTransitProduceRequest) ?_
      · rw [handedValues, handed]
        exact bookkeeping.handedValues.trans (handedValues_record_read p _)
      · rw [sameLink]
        exact other (by rw [kind]; decide) (bookkeeping.linkAfter keeps)
  | answered kind bookkeeping keeps =>
      exact .quiet (bookkeeping.handedValues.trans (handedValues_record_read p _))
        bookkeeping.inTransitProduceRequest
        (other kind (bookkeeping.linkAfter keeps))

end KafkaPartition
end AsyncKafka
