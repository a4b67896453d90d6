import AsyncKafka.Consumer.OffsetStore
import AsyncKafka.Library.HighWater

/-!
# Delivery from any broker

What a consumer delivers is in order and without repetition whatever a broker
sends, and whichever brokers it is connected to one after the other: responses
may repeat, overlap, go back or come unasked.  The one number
`m_iNextFetchOffset` is enough for that, as long as it is not set back by an
offset response and does not overflow.
-/

namespace AsyncKafka

open Wire ByteOrder Execution

namespace KafkaPartition

/-- The messages of a payload that is read as a fetch response without an error
code. -/
def fetchedMessages (payload : Bytes) : MessageSet :=
  if correlationId payload = apiKeyFetchRequest then
    match readFetchResponse payload with
    | .ok (response, 0) => response.messages
    | _ => []
  else []

/-- The messages that an event shows to a partition. -/
def shown : Event → MessageSet
  | .readReady (.payload payload) _ => fetchedMessages payload
  | _ => []

/-- The start offset that an event announces to a partition. -/
def announced (p : KafkaPartition) : Event → Option Int
  | .readReady (.payload payload) _ =>
      if correlationId payload = apiKeyOffsetRequest then
        p.announcedOffset payload
      else none
  | _ => none

/-- No message has the last offset that there is, and under the policy that
starts at the end no offset is announced that was passed already.  Otherwise
the broker sends what it likes. -/
structure KeepsForward (p : KafkaPartition) (event : Event) : Prop where
  bounded : ∀ message ∈ shown event, message.offset < 2 ^ 63 - 1
  passed : ∀ offset, p.announced event = some offset →
    p.config.cStartOffset = .fromEnd → p.nextFetchOffset ≤ offset

theorem fetchedMessages_eq
    {payload : Bytes}
    {response : FetchResponse}
    (fetch : correlationId payload = apiKeyFetchRequest)
    (readOk : readFetchResponse payload = .ok (response, 0)) :
    fetchedMessages payload = response.messages := by
  simp only [fetchedMessages, if_pos fetch, readOk]

/-- Only a fetch response without an error code shows messages. -/
theorem fetchedMessages_of_ne_nil
    {payload : Bytes}
    (nonempty : fetchedMessages payload ≠ []) :
    correlationId payload = apiKeyFetchRequest ∧
      ∃ response, readFetchResponse payload = .ok (response, 0) := by
  unfold fetchedMessages at nonempty
  split at nonempty
  · rename_i fetch
    refine ⟨fetch, ?_⟩
    split at nonempty
    · rename_i response readOk
      exact ⟨response, readOk⟩
    · exact absurd rfl nonempty
  · exact absurd rfl nonempty

/-- What an event does to the next offset and to what was delivered. -/
inductive OffsetMove (p : KafkaPartition) (event : Event) (q : KafkaPartition) :
    Prop
  /-- The filter takes what it is shown, which may be nothing. -/
  | collected :
      q.delivered = p.delivered ++
        (collectMessages (shown event) p.nextFetchOffset).1 →
      q.nextFetchOffset =
        (collectMessages (shown event) p.nextFetchOffset).2 →
      OffsetMove p event q
  /-- An offset response has an offset for this partition. -/
  | repositioned
      {offset : Int} :
      shown event = [] →
      p.announced event = some offset →
      q.delivered = p.delivered →
      q.nextFetchOffset = (p.resetOffset offset).nextFetchOffset →
      OffsetMove p event q

/-- A fetch response is taken by the filter. -/
theorem OffsetMove.fetched
    {p q : KafkaPartition}
    {payload : Bytes}
    {surroundings : Surroundings}
    {response : FetchResponse}
    (registered : p.onReceivedData = true)
    (fetch : correlationId payload = apiKeyFetchRequest)
    (readOk : readFetchResponse payload = .ok (response, 0))
    (kept : Bookkeeping ((p.record (.read payload)).deliver response.messages)
      [] q) :
    OffsetMove p (.readReady (.payload payload) surroundings) q := by
  have registeredNow : (p.record (.read payload)).onReceivedData = true :=
    registered
  have isShown : shown (.readReady (.payload payload) surroundings) =
      response.messages := fetchedMessages_eq fetch readOk
  apply OffsetMove.collected
  · rw [kept.delivered, delivered_deliver registeredNow, delivered_record_read,
      isShown]
    rfl
  · rw [kept.nextFetchOffset, (deliver_spec registeredNow _).2.1, isShown]
    rfl

/-- An event that shows nothing and leaves both alone. -/
theorem OffsetMove.stays
    {p q : KafkaPartition}
    {event : Event}
    (nothing : shown event = [])
    (sameDelivered : q.delivered = p.delivered)
    (sameOffset : q.nextFetchOffset = p.nextFetchOffset) :
    OffsetMove p event q := by
  apply OffsetMove.collected
  · simpa [nothing, collectMessages] using sameDelivered
  · simpa [nothing, collectMessages] using sameOffset

/-- Where repositioning leads depends on the policy and the next offset only. -/
theorem nextFetchOffset_resetOffset_congr
    {p q : KafkaPartition}
    (sameConfig : q.config = p.config)
    (sameOffset : q.nextFetchOffset = p.nextFetchOffset)
    (offset : Int) :
    (q.resetOffset offset).nextFetchOffset =
      (p.resetOffset offset).nextFetchOffset := by
  rw [resetOffset_eq, resetOffset_eq]
  dsimp only
  rw [sameConfig, sameOffset]

theorem delivered_resetOffset (p : KafkaPartition) (offset : Int) :
    (p.resetOffset offset).delivered = p.delivered := by
  rw [resetOffset_eq]
  rfl

/-- The move of an event that shows nothing. -/
theorem Transition.offsetMove
    {crc32 : Bytes → UInt32}
    {p q : KafkaPartition}
    {event : Event}
    (registered : p.onReceivedData = true)
    (nothing : shown event = [])
    (moved : Transition crc32 p event q) :
    OffsetMove p event q := by
  cases moved with
  | accept kept _ => exact .stays nothing kept.delivered kept.nextFetchOffset
  | drain _ kept => exact .stays nothing kept.delivered kept.nextFetchOffset
  | fetch kept => exact .stays nothing kept.delivered kept.nextFetchOffset
  | metadata kept => exact .stays nothing kept.delivered kept.nextFetchOffset
  | idle _ kept => exact .stays nothing kept.delivered kept.nextFetchOffset
  | write _ kept _ _ =>
      refine .stays nothing (kept.delivered.trans ?_) kept.nextFetchOffset
      simp [delivered, record, popWriteBuffer, List.flatMap_append,
        Effect.delivered]
  | lost _ kept => exact .stays nothing kept.delivered kept.nextFetchOffset
  | produced _ _ _ result kinds =>
      subst result
      refine .stays nothing ?_ rfl
      rcases kinds with rfl | ⟨offset, rfl⟩ <;>
        simp [delivered, List.flatMap_append, Effect.delivered]
  | refused _ _ _ _ kept _ result =>
      subst result
      exact .stays nothing (kept.delivered.trans (delivered_record_read p _))
        kept.nextFetchOffset
  | fetched fetch readOk kept => exact .fetched registered fetch readOk kept
  | @repositioned payload surroundings offset _ middle kind reported kept _ =>
      have isAnnounced :
          p.announced (.readReady (.payload payload) surroundings) =
            some offset := by
        rw [announced, if_pos kind, reported]
      refine .repositioned nothing isAnnounced ?_ ?_
      · rw [delivered_resetOffset, kept.delivered, delivered_record_read]
      · have sameConfig : middle.config = p.config :=
          congrArg Identity.config kept.identity
        exact nextFetchOffset_resetOffset_congr sameConfig kept.nextFetchOffset
          offset
  | answered _ kept _ =>
      exact .stays nothing (kept.delivered.trans (delivered_record_read p _))
        kept.nextFetchOffset

/-- A fetch response that shows messages is handled by the filter. -/
theorem onReadReady_fetched
    {p q : KafkaPartition}
    {payload : Bytes}
    {surroundings : Surroundings}
    {response : FetchResponse}
    (registered : p.onReceivedData = true)
    (fetch : correlationId payload = apiKeyFetchRequest)
    (readOk : readFetchResponse payload = .ok (response, 0))
    (returned : p.onReadReady (.payload payload) surroundings = .ok q) :
    OffsetMove p (.readReady (.payload payload) surroundings) q := by
  simp only [onReadReady] at returned
  split at returned
  · cases returned
  split at returned
  · cases returned
  rw [dispatchResponse, fetch, if_neg (by decide), if_pos rfl] at returned
  obtain ⟨found, ec, foundOk, handled⟩ := handleFetchResponse_spec returned
  obtain ⟨rfl, rfl⟩ : response = found ∧ 0 = ec := by
    simpa using readOk.symm.trans foundOk
  obtain ⟨erroneous, -⟩ | ⟨-, kept⟩ := handled
  · exact absurd rfl erroneous
  · exact .fetched registered fetch readOk (.of_connectionOnly kept)

theorem step_offsetMove
    {crc32 : Bytes → UInt32}
    {p q : KafkaPartition}
    {event : Event}
    (registered : p.onReceivedData = true)
    (returned : step crc32 p event = .ok q) :
    OffsetMove p event q := by
  by_cases nothing : shown event = []
  · exact (step_transition returned).offsetMove registered nothing
  · cases event with
    | readReady received surroundings =>
        cases received with
        | payload payload =>
            obtain ⟨fetch, response, readOk⟩ := fetchedMessages_of_ne_nil nothing
            exact onReadReady_fetched registered fetch readOk returned
        | _ => exact absurd rfl nothing
    | _ => exact absurd rfl nothing

/-- Below the last offset there is, the filter of `handleFetchResponse` keeps a
high-water mark. -/
theorem collectMessages_eq_take
    {messages : MessageSet}
    (bounded : ∀ message ∈ messages, message.offset < 2 ^ 63 - 1)
    {next : Int}
    (lower : -(2 ^ 63) ≤ next) :
    collectMessages messages next =
      ((HighWater.take MessageAndOffset.offset messages next).1.filterMap
          fun message => message.value,
        (HighWater.take MessageAndOffset.offset messages next).2) := by
  induction messages generalizing next with
  | nil => rfl
  | cons message messages inductionHypothesis =>
      have boundedLater : ∀ other ∈ messages, other.offset < 2 ^ 63 - 1 :=
        fun other member => bounded other (List.mem_cons_of_mem _ member)
      have upper := bounded message List.mem_cons_self
      by_cases taken : next ≤ message.offset
      · have wrapped : wrap 64 (message.offset + 1) = message.offset + 1 :=
          wrap_of_range (by decide) (by omega) (by omega)
        have later :
            collectMessages messages (message.offset + 1) = (_, _) :=
          inductionHypothesis boundedLater (by omega)
        simp only [collectMessages, HighWater.take, if_pos taken, wrapped, later]
        cases value : message.value <;> simp [value]
      · simp only [collectMessages, HighWater.take, if_neg taken]
        exact inductionHypothesis boundedLater lower

/-- What a consumer has delivered, in terms of the messages that it was shown. -/
structure Ascent
    (start : KafkaPartition)
    (history : List Event)
    (log : MessageSet)
    (p : KafkaPartition) : Prop where
  delivered : p.delivered =
    start.delivered ++ log.filterMap fun message => message.value
  ascends : HighWater.Ascends MessageAndOffset.offset start.nextFetchOffset log
    p.nextFetchOffset
  selected : log.Sublist (history.flatMap shown)
  passed : ∀ message ∈ history.flatMap shown, message.offset < p.nextFetchOffset

namespace Ascent

variable {start p q : KafkaPartition} {history : List Event} {event : Event}
  {log : MessageSet}

/-- What the filter takes continues the ascent. -/
theorem collected
    (ascent : Ascent start history log p)
    (lower : -(2 ^ 63) ≤ p.nextFetchOffset)
    (keeps : KeepsForward p event)
    (handed : q.delivered = p.delivered ++
      (collectMessages (shown event) p.nextFetchOffset).1)
    (advanced : q.nextFetchOffset =
      (collectMessages (shown event) p.nextFetchOffset).2) :
    Ascent start (history ++ [event])
      (log ++ (HighWater.take MessageAndOffset.offset (shown event)
        p.nextFetchOffset).1) q := by
  have isTaken := collectMessages_eq_take keeps.bounded lower
  rw [isTaken] at handed advanced
  have further := HighWater.take_ascends MessageAndOffset.offset (shown event)
    p.nextFetchOffset
  rw [← advanced] at further
  refine ⟨?_, ascent.ascends.append further, ?_, ?_⟩
  · rw [handed, ascent.delivered, List.filterMap_append, List.append_assoc]
  · rw [List.flatMap_append, List.flatMap_singleton]
    exact ascent.selected.append (HighWater.take_sublist _ _ _)
  · intro message member
    rw [List.flatMap_append, List.flatMap_singleton] at member
    rcases List.mem_append.mp member with earlier | now
    · exact lt_of_lt_of_le (ascent.passed message earlier) further.marks
    · rw [advanced]
      exact HighWater.lt_of_mem _ now _

/-- Repositioning does not go back. -/
theorem repositioned
    {offset : Int}
    (ascent : Ascent start history log p)
    (keeps : KeepsForward p event)
    (nothing : shown event = [])
    (isAnnounced : p.announced event = some offset)
    (same : q.delivered = p.delivered)
    (moved : q.nextFetchOffset = (p.resetOffset offset).nextFetchOffset) :
    Ascent start (history ++ [event]) log q := by
  have forward : p.nextFetchOffset ≤ q.nextFetchOffset := by
    rw [moved, resetOffset_eq]
    dsimp only
    split
    · rename_i policy
      exact keeps.passed offset isAnnounced policy
    · exact le_max_left _ _
  refine ⟨same.trans ascent.delivered, ?_, ?_, ?_⟩
  · simpa using ascent.ascends.append (.nil _ forward)
  · simpa [List.flatMap_append, nothing] using ascent.selected
  · intro message member
    have earlier : message ∈ history.flatMap shown := by
      simpa [List.flatMap_append, nothing] using member
    exact lt_of_lt_of_le (ascent.passed message earlier) forward

end Ascent

/-- Whatever brokers send, a consumer hands over the values of messages that it
was shown, in strictly ascending order of their offsets and from the start
offset on, and every message that it was shown lies below the next offset. -/
theorem consumer_ascends
    {crc32 : Bytes → UInt32}
    {start p : KafkaPartition}
    {history : List Event}
    (registered : start.onReceivedData = true)
    (inRange : OffsetInRange start)
    (run : Run (step crc32) KeepsForward start history p) :
    ∃ log, Ascent start history log p := by
  have always : p.onReceivedData = true ∧ OffsetInRange p ∧
      ∃ log, Ascent start history log p := by
    apply run.invariant fun history state => state.onReceivedData = true ∧
      OffsetInRange state ∧ ∃ log, Ascent start history log state
    · refine ⟨registered, inRange, [], by simp, .nil _ le_rfl, by simp, by simp⟩
    · rintro history state event next ⟨still, within, log, ascent⟩ keeps stepped
      have moved := step_transition stepped
      have stillNext : next.onReceivedData = true :=
        (congrArg Identity.onReceivedData moved.identity).trans still
      refine ⟨stillNext, moved.offsetInRange within, ?_⟩
      cases step_offsetMove still stepped with
      | collected handed advanced =>
          exact ⟨_, ascent.collected within.1 keeps handed advanced⟩
      | repositioned nothing isAnnounced same moved =>
          exact ⟨_, ascent.repositioned keeps nothing isAnnounced same moved⟩
  exact always.2.2

/-- The executable form of `KeepsForward`. -/
def keepsForward (p : KafkaPartition) (event : Event) : Bool :=
  ((shown event).all fun message => message.offset < 2 ^ 63 - 1) &&
    ((p.announced event).all fun offset =>
      p.config.cStartOffset ≠ .fromEnd || p.nextFetchOffset ≤ offset)

theorem keepsForward_sound
    {p : KafkaPartition}
    {event : Event}
    (checked : keepsForward p event = true) :
    KeepsForward p event := by
  simp only [keepsForward, Bool.and_eq_true, List.all_eq_true,
    decide_eq_true_eq] at checked
  refine ⟨checked.1, ?_⟩
  intro offset isAnnounced policy
  have either := checked.2
  rw [isAnnounced] at either
  simpa [policy] using either

/-- Three answers that nobody asked for, the last of which goes back. -/
theorem consumer_ascends_repeating :
    ∃ p log, Run (step Crc32.checksum) KeepsForward (sampleConsumer {})
        [.readReady (.payload (letterAnswer 2)) {},
          .readReady (.payload (letterAnswer 3)) {},
          .readReady (.payload (letterAnswer 2)) {}] p ∧
      p.delivered = [[97], [98], [99]] ∧
      Ascent (sampleConsumer {})
        [.readReady (.payload (letterAnswer 2)) {},
          .readReady (.payload (letterAnswer 3)) {},
          .readReady (.payload (letterAnswer 2)) {}] log p := by
  obtain ⟨p, run, reached⟩ := exists_run_of_follow (step Crc32.checksum)
    (fun p event => keepsForward p event = true) (sampleConsumer {})
    [.readReady (.payload (letterAnswer 2)) {},
      .readReady (.payload (letterAnswer 3)) {},
      .readReady (.payload (letterAnswer 2)) {}]
    (fun p => p.delivered == [[97], [98], [99]]) (by decide +kernel)
  have forward := run.mono fun _ _ checked => keepsForward_sound checked
  obtain ⟨log, ascent⟩ := consumer_ascends rfl ⟨by decide, by decide⟩ forward
  exact ⟨p, log, forward, by simpa using reached, ascent⟩

end KafkaPartition
end AsyncKafka
