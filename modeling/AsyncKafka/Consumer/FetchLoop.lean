import AsyncKafka.Partition.Life

/-!
# The fetch loop

The loop is kept going by a token that is a pending wakeup, a queued fetch
request or an unanswered one.  A fetch response, the end of a pause and every
replacement of the connection make a wakeup; a pause swallows one, and a lost
connection takes the unanswered requests with it.  The token never gets lost,
but a wakeup that is made while the old token is still there makes a second
one.
-/

namespace AsyncKafka

open Wire Execution

namespace Line

/-- Something keeps the fetch loop going. -/
def Alive (line : Line) : Prop :=
  line.woken = true ∨ (∃ req ∈ line.queue, req.isFetch = true) ∨
    0 < line.exchange.fetches

theorem Replaced.alive
    {line after : Line}
    (replaced : line.Replaced true after) :
    after.Alive := by
  obtain ⟨_, -, -, rfl⟩ := replaced
  exact .inl (Bool.or_true _)

/-- A response of another kind leaves the fetch requests alone. -/
theorem fetches_received
    {line : Line}
    {payload : Bytes}
    (other : KafkaPartition.correlationId payload ≠ apiKeyFetchRequest) :
    (line.received payload).exchange.fetches = line.exchange.fetches := by
  simp [received, Exchange.received, other]

theorem Alive.received
    {line : Line}
    {payload : Bytes}
    (alive : line.Alive)
    (other : KafkaPartition.correlationId payload ≠ apiKeyFetchRequest) :
    (line.received payload).Alive := by
  unfold Alive
  rw [fetches_received other]
  exact alive

theorem fetches_sent_control
    (line : Line)
    {req : WriteBuffer}
    (control : req.isControl = true)
    (accepted : Option Nat) :
    (line.sent req accepted).exchange.fetches = line.exchange.fetches := by
  rw [sent, Exchange.sent_control _ control]

end Line

namespace KafkaPartition

/-- Every write is accepted whole or reset, and after a reset there is a new
connection. -/
def WriteOutcome.isSound : WriteOutcome → Bool
  | .written => true
  | .short _ => false
  | .failed => false
  | .reset connect next => connect.isSome && next.isSound

/-- The writes of an event are sound, and a connection lost in reading is
replaced. -/
def Event.isSound : Event → Bool
  | .writeReady outcome => outcome.isSound
  | .readReady (.payload _) surroundings => surroundings.writes.isSound
  | .readReady .failed _ => true
  | .readReady .closed surroundings =>
      surroundings.connect.isSome && surroundings.writes.isSound
  | .readReady .reset surroundings =>
      surroundings.connect.isSome && surroundings.writes.isSound
  | _ => true

theorem WriteOutcome.reconnects_of_isSound
    {outcome : WriteOutcome}
    (sound : outcome.isSound = true)
    (reset : outcome.isReset = true) :
    outcome.reconnects = true := by
  cases outcome with
  | reset connect next =>
      cases connect with
      | none => simp [WriteOutcome.isSound] at sound
      | some fd => rfl
  | _ => cases reset

theorem WriteOutcome.eq_written_of_isSound
    {outcome : WriteOutcome}
    (sound : outcome.isSound = true)
    (kept : outcome.isReset = false) :
    outcome = .written := by
  cases outcome with
  | written => rfl
  | _ => simp_all [WriteOutcome.isSound, WriteOutcome.isReset]

end KafkaPartition

namespace Line

open KafkaPartition

/-- The reaction to an error keeps the loop of a consumer going. -/
theorem Reaction.alive
    {line after : Line}
    {ec : Int}
    {writes : WriteOutcome}
    (reaction : line.Reaction true ec writes after)
    (sound : writes.isSound = true)
    (alive : line.Alive) :
    after.Alive := by
  cases reaction with
  | ignored _ => exact alive
  | asked _ _ control =>
      unfold Alive
      rw [fetches_sent_control _ control]
      exact alive
  | lost _ reset replaced =>
      rw [WriteOutcome.reconnects_of_isSound sound reset] at replaced
      exact Replaced.alive replaced

end Line

namespace KafkaPartition

/-- An event keeps the loop of a consumer going, unless fetching is paused. -/
theorem Motion.alive
    {p : KafkaPartition}
    {event : Event}
    {after : Line}
    (motion : Motion p event after)
    (consumer : p.isConsumer = true)
    (sound : event.isSound = true)
    (alive : p.line.paused = false → p.line.Alive) :
    after.paused = false → after.Alive := by
  cases motion with
  | still => exact alive
  | pause => simp
  | resume _ =>
      intro _
      exact .inl rfl
  | drain _ _ =>
      intro unpaused
      refine (alive unpaused).imp_right (Or.imp_left ?_)
      rintro ⟨req, member, fetch⟩
      exact ⟨req, List.mem_append_left _ member, fetch⟩
  | metadata _ =>
      intro unpaused
      refine (alive unpaused).imp_right (Or.imp_left ?_)
      rintro ⟨req, member, fetch⟩
      exact ⟨req, List.mem_cons_of_mem _ member, fetch⟩
  | swallow _ paused =>
      intro unpaused
      rw [show p.fetchPaused = false from unpaused] at paused
      cases paused
  | @fetch req _ _ fetch =>
      intro _
      exact .inr (.inl ⟨req, by simp, fetch⟩)
  | idle _ => exact alive
  | @write outcome req rest front kept =>
      intro unpaused
      obtain rfl := WriteOutcome.eq_written_of_isSound sound kept
      rcases alive unpaused with woken | ⟨queued, member, fetch⟩ | unanswered
      · exact .inl woken
      · rw [show p.line.queue = req :: rest from front] at member
        rcases List.mem_cons.mp member with rfl | later
        · right; right
          simp [Line.sent, Exchange.sent, fetch, WriteBuffer.isWhole,
            WriteOutcome.accepted]
        · exact .inr (.inl ⟨queued, later, fetch⟩)
      · right; right
        simp only [Line.sent, Exchange.sent]
        split
        · exact Nat.succ_pos _
        · exact unanswered
  | reset _ reset replaced =>
      intro _
      rw [consumer, WriteOutcome.reconnects_of_isSound sound reset] at replaced
      exact replaced.alive
  | @lost received surroundings _ kind replaced =>
      intro _
      have connects : surroundings.connect.isSome = true := by
        rcases kind with rfl | rfl <;>
          exact (Bool.and_eq_true_iff.mp sound).1
      rw [consumer, connects] at replaced
      exact replaced.alive
  | moved _ _ replaced =>
      intro _
      rw [consumer] at replaced
      exact replaced.alive
  | produced produce _ =>
      intro unpaused
      exact (alive unpaused).received (by rw [produce]; decide)
  | refused produce _ _ reaction _ =>
      intro unpaused
      obtain ⟨-, -, samePause, -, -⟩ := reaction.keeps
      rw [consumer] at reaction
      have before := (alive (samePause.symm.trans unpaused)).received
        (by rw [produce]; decide)
      refine (reaction.alive sound before).imp_right (Or.imp_left ?_)
      rintro ⟨req, member, fetch⟩
      exact ⟨req, List.mem_append_left _ member, fetch⟩
  | fetched _ _ =>
      intro _
      rw [consumer]
      exact .inl (Bool.or_true _)
  | answered _ notFetch reaction =>
      intro unpaused
      obtain ⟨-, -, samePause, -, -⟩ := reaction.keeps
      rw [consumer] at reaction
      exact reaction.alive sound
        ((alive (samePause.symm.trans unpaused)).received notFetch)

theorem step_isConsumer
    {crc32 : Bytes → UInt32}
    {p q : KafkaPartition}
    {event : Event}
    (stepped : step crc32 p event = .ok q) :
    q.isConsumer = p.isConsumer :=
  congrArg (fun kind => kind == KafkaPartitionType.consumer)
    (congrArg Identity.partitionType (step_transition stepped).identity)

/-- From the start of fetching on, and as long as writes are accepted whole or
reset and lost connections are replaced, a consumer that is not paused has a
pending wakeup, a queued fetch request or an unanswered one. -/
theorem fetch_loop_never_stalls
    {crc32 : Bytes → UInt32}
    {unstarted start p : KafkaPartition}
    {eventFd timerFd : Int}
    {history : List Event}
    (consumer : unstarted.partitionType = .consumer)
    (started : unstarted.startFetch eventFd timerFd = .ok start)
    (run : Run (step crc32) (fun _ event => event.isSound = true)
      start history p)
    (unpaused : p.fetchPaused = false) :
    0 < p.fetchEvent.pending ∨
      (∃ req ∈ p.writeBuffers, req.isFetch = true) ∨
      0 < p.exchange.fetches := by
  have isConsumer : start.isConsumer = true := by
    have same := congrArg Identity.partitionType
      (startFetch_bookkeeping started).identity
    exact beq_iff_eq.mpr (same.trans consumer)
  have woken : start.line.woken = true := by
    rw [startFetch_line started]
    exact beq_iff_eq.mpr consumer
  have invariant : p.isConsumer = true ∧
      (p.line.paused = false → p.line.Alive) := by
    apply run.invariant (fun _ p => p.isConsumer = true ∧
      (p.line.paused = false → p.line.Alive))
    · exact ⟨isConsumer, fun _ => .inl woken⟩
    · rintro _ state event next ⟨kind, alive⟩ sound stepped
      exact ⟨(step_isConsumer stepped).trans kind,
        (step_motion stepped).alive kind sound alive⟩
  refine (invariant.2 unpaused).imp_left fun pending => ?_
  exact Nat.pos_of_ne_zero (bne_iff_ne.mp pending)

/-- A fetch request is written, the connection is lost before the answer, and
the wakeup that follows the reconnect keeps the loop going. -/
theorem fetch_loop_never_stalls_reconnect :
    ∃ p, Run (step Crc32.checksum) (fun _ event => event.isSound = true)
        (sampleConsumer {})
        [.fetchEvent, .writeReady .written,
          .readReady .closed { connect := some 10 }] p ∧
      p.fetchPaused = false ∧
      (0 < p.fetchEvent.pending ∨
        (∃ req ∈ p.writeBuffers, req.isFetch = true) ∨
        0 < p.exchange.fetches) := by
  obtain ⟨p, run, unpaused⟩ := exists_run_of_follow (step Crc32.checksum)
    (fun _ event => event.isSound = true) (sampleConsumer {})
    [.fetchEvent, .writeReady .written,
      .readReady .closed { connect := some 10 }]
    (fun p => p.fetchPaused = false) (by decide +kernel)
  obtain ⟨_, _, _, _, _, _, _, constructed, _, _, _, constructedOk, startedOk⟩ :=
    sampleConsumer_started {} (by decide +kernel)
  have consumer :
      KafkaPartition.partitionType { constructed with onReceivedData := true } =
        .consumer :=
    (construct_fresh constructedOk).2.1
  have paused := of_decide_eq_true unpaused
  exact ⟨p, run, paused, fetch_loop_never_stalls consumer startedOk run paused⟩

/-! ## When there is a single loop -/

/-- The tokens of the fetch loop: a pending wakeup, and the fetch requests that
are queued or unanswered. -/
def fetchTokens (p : KafkaPartition) : Nat :=
  (if 0 < p.fetchEvent.pending then 1 else 0) +
    p.writeBuffers.countP WriteBuffer.isFetch + p.exchange.fetches

/-- Whether an event is a fetch response. -/
def Event.isFetchResponse : Event → Bool
  | .readReady (.payload payload) _ =>
      correlationId payload == apiKeyFetchRequest
  | _ => false

/-- The broker answers only fetch requests that it was sent on the current
connection. -/
def AnswersFetches (p : KafkaPartition) (event : Event) : Prop :=
  event.isFetchResponse = true → 0 < p.exchange.fetches

/-- Whether an event wakes the fetch event for another reason than a fetch
response: the end of a pause, or a new connection. -/
def rewakes (p : KafkaPartition) : Event → Bool
  | .resumeFetch => p.fetchPaused
  | .readReady .closed surroundings => surroundings.connect.isSome
  | .readReady .reset surroundings => surroundings.connect.isSome
  | .readReady (.payload payload) surroundings =>
      if correlationId payload = apiKeyMetadataRequest then
        p.leaderMoves payload surroundings
      else
        errorNeedsRequest (responseError payload) &&
          surroundings.writes.reconnects
  | .writeReady outcome => outcome.reconnects && !p.writeBuffers.isEmpty
  | _ => false

/-- The fetch requests that an event leaves where they are: all of them at the
end of a pause, and those in the deque when the connection is replaced. -/
def remainingFetches (p : KafkaPartition) : Event → Nat
  | .resumeFetch =>
      p.writeBuffers.countP WriteBuffer.isFetch + p.exchange.fetches
  | .writeReady _ => p.writeBuffers.tail.countP WriteBuffer.isFetch
  | _ => p.writeBuffers.countP WriteBuffer.isFetch

/-- The fetch event is woken anew only when no fetch request remains. -/
def KeepsOneFetch (p : KafkaPartition) (event : Event) : Prop :=
  p.rewakes event = true → p.remainingFetches event = 0

instance (p : KafkaPartition) (event : Event) :
    Decidable (AnswersFetches p event) :=
  inferInstanceAs (Decidable (_ → _))

instance (p : KafkaPartition) (event : Event) :
    Decidable (KeepsOneFetch p event) :=
  inferInstanceAs (Decidable (_ → _))

end KafkaPartition

namespace Line

/-- The tokens of the fetch loop, as the line shows them. -/
def tokens (line : Line) : Nat :=
  line.woken.toNat + line.queue.countP WriteBuffer.isFetch +
    line.exchange.fetches

/-- Replacing the connection leaves the queued requests, and a wakeup if it
makes one. -/
theorem Replaced.tokens
    {line after : Line}
    {wakes : Bool}
    (replaced : line.Replaced wakes after) :
    after.tokens = (line.woken || wakes).toNat +
      line.queue.countP WriteBuffer.isFetch := by
  obtain ⟨_, -, -, rfl⟩ := replaced
  simp [Line.tokens]

end Line

namespace KafkaPartition

theorem fetchTokens_eq (p : KafkaPartition) : p.fetchTokens = p.line.tokens := by
  by_cases idle : p.fetchEvent.pending = 0
  · simp [fetchTokens, Line.tokens, line, idle]
  · have woken : (p.fetchEvent.pending != 0) = true := bne_iff_ne.mpr idle
    simp [fetchTokens, Line.tokens, line, woken, Nat.pos_of_ne_zero idle]

end KafkaPartition

namespace Line

open KafkaPartition

/-- Replacing the connection keeps a single token when no request is queued or
the fetch event is not woken. -/
theorem Replaced.tokens_le
    {line after : Line}
    {wakes : Bool}
    (replaced : line.Replaced wakes after)
    (single : line.tokens ≤ 1)
    (none : wakes = true → line.queue.countP WriteBuffer.isFetch = 0) :
    after.tokens ≤ 1 := by
  rw [replaced.tokens]
  cases wakes with
  | false =>
      unfold Line.tokens at single
      rw [Bool.or_false]
      omega
  | true => simp [none rfl]

/-- The reaction to an error keeps a single token when no request is queued or
no new connection is made. -/
theorem Reaction.tokens_le
    {line after : Line}
    {consumer : Bool}
    {ec : Int}
    {writes : WriteOutcome}
    (reaction : line.Reaction consumer ec writes after)
    (single : line.tokens ≤ 1)
    (none : (errorNeedsRequest ec && writes.reconnects) = true →
      line.queue.countP WriteBuffer.isFetch = 0) :
    after.tokens ≤ 1 := by
  cases reaction with
  | ignored _ => exact single
  | asked _ _ control =>
      unfold tokens
      rw [fetches_sent_control _ control]
      exact single
  | lost needs _ replaced =>
      apply replaced.tokens_le single
      intro wakes
      exact none (by rw [needs, (Bool.and_eq_true_iff.mp wakes).2]; rfl)

/-- The reaction to an error adds no unanswered request. -/
theorem Reaction.fetches_le
    {line after : Line}
    {consumer : Bool}
    {ec : Int}
    {writes : WriteOutcome}
    (reaction : line.Reaction consumer ec writes after) :
    after.exchange.fetches ≤ line.exchange.fetches := by
  cases reaction with
  | ignored _ => exact le_rfl
  | asked _ _ control => exact (fetches_sent_control _ control _).le
  | lost _ _ replaced =>
      obtain ⟨_, -, -, rfl⟩ := replaced
      exact Nat.zero_le _

/-- A response answers at most one token. -/
theorem tokens_received_le (line : Line) (payload : Bytes) :
    (line.received payload).tokens ≤ line.tokens := by
  simp only [tokens, received, Exchange.received]
  split <;> omega

end Line

namespace KafkaPartition

/-- Metadata responses report no error code. -/
theorem responseError_metadata
    {payload : Bytes}
    (metadata : correlationId payload = apiKeyMetadataRequest) :
    responseError payload = 0 := by
  simp [responseError, metadata, apiKeyMetadataRequest, apiKeyProduceRequest,
    apiKeyFetchRequest, apiKeyOffsetRequest]

/-- An event that wakes the fetch event anew only when no fetch request remains
keeps a single token. -/
theorem Motion.tokens_le
    {p : KafkaPartition}
    {event : Event}
    {after : Line}
    (motion : Motion p event after)
    (answers : AnswersFetches p event)
    (keeps : KeepsOneFetch p event)
    (single : p.line.tokens ≤ 1) :
    after.tokens ≤ 1 := by
  cases motion with
  | still => exact single
  | pause => exact single
  | resume paused =>
      have none : p.line.queue.countP WriteBuffer.isFetch +
          p.line.exchange.fetches = 0 := keeps paused
      change 1 + p.line.queue.countP WriteBuffer.isFetch +
        p.line.exchange.fetches ≤ 1
      omega
  | @drain _ frames _ others =>
      have none : frames.countP WriteBuffer.isFetch = 0 := by
        rw [List.countP_eq_zero]
        intro frame member
        simp [others frame member]
      simp only [Line.tokens, List.countP_append] at single ⊢
      rw [none]
      exact single
  | metadata control =>
      simp only [Line.tokens] at single ⊢
      rw [List.countP_cons_of_neg (by
        simp [WriteBuffer.isFetch_of_isControl control])]
      exact single
  | swallow woken _ =>
      simp only [Line.tokens, woken, Bool.toNat_true] at single
      simp only [Line.tokens, Bool.toNat_false]
      omega
  | fetch woken _ fetch =>
      simp only [Line.tokens, woken, Bool.toNat_true] at single
      simp only [Line.tokens, List.countP_append, Bool.toNat_false,
        List.countP_singleton, fetch, if_true]
      omega
  | idle _ => exact single
  | @write outcome req rest front _ =>
      simp only [Line.tokens, show p.line.queue = req :: rest from front] at single
      simp only [Line.tokens, Line.sent, Line.popped, Exchange.sent]
      cases fetch : req.isFetch with
      | false =>
          rw [List.countP_cons_of_neg (by simp [fetch])] at single
          simpa using single
      | true =>
          rw [List.countP_cons_of_pos fetch] at single
          split <;> omega
  | @reset outcome req rest _ front _ replaced =>
      apply replaced.tokens_le
      · refine le_trans ?_ single
        simp only [Line.tokens, Line.popped,
          show p.line.queue = req :: rest from front, List.countP_cons]
        omega
      · intro wakes
        have none := keeps (by
          simp [rewakes, front, (Bool.and_eq_true_iff.mp wakes).2])
        rw [remainingFetches, front] at none
        exact none
  | @lost received surroundings _ kind replaced =>
      apply replaced.tokens_le single
      intro wakes
      have connects := (Bool.and_eq_true_iff.mp wakes).2
      rcases kind with rfl | rfl <;> exact keeps connects
  | moved metadata moves replaced =>
      apply replaced.tokens_le (le_trans (Line.tokens_received_le _ _) single)
      intro _
      exact keeps (by simp [rewakes, metadata, moves])
  | @produced payload _ _ _ =>
      exact le_trans (Line.tokens_received_le p.line payload) single
  | @refused payload surroundings middle req produce _ _ reaction other =>
      have kept := reaction.tokens_le
        (le_trans (Line.tokens_received_le _ _) single) (fun reconnects =>
          keeps (by
            simpa [rewakes, produce, apiKeyProduceRequest,
              apiKeyMetadataRequest] using reconnects))
      simp only [Line.tokens, List.countP_append, List.countP_singleton, other]
        at kept ⊢
      simpa using kept
  | @fetched payload surroundings middle fetch reaction =>
      -- The answered request was the only token.
      have answered : 0 < p.line.exchange.fetches :=
        answers (by simpa [Event.isFetchResponse] using fetch)
      have noneLeft : middle.exchange.fetches ≤ p.line.exchange.fetches - 1 := by
        simpa [Line.received, Exchange.received, fetch] using reaction.fetches_le
      obtain ⟨-, -, -, sameQueue, -⟩ := reaction.keeps
      change middle.queue = p.line.queue at sameQueue
      simp only [Line.tokens] at single
      simp only [Line.tokens, Line.wake, sameQueue]
      have bound := Bool.toNat_le (middle.woken || p.isConsumer)
      omega
  | @answered payload surroundings _ _ _ reaction =>
      apply reaction.tokens_le (le_trans (Line.tokens_received_le _ _) single)
      intro reconnects
      refine keeps ?_
      by_cases metadata : correlationId payload = apiKeyMetadataRequest
      · rw [responseError_metadata metadata] at reconnects
        cases reconnects
      · simpa [rewakes, metadata] using reconnects

/-- There is a single fetch loop along every run in which the fetch event is
woken anew only when no fetch request remains, and in which the broker answers
only what it was sent. -/
theorem single_fetch_loop_of_keepsOneFetch
    {crc32 : Bytes → UInt32}
    {start p : KafkaPartition}
    {history : List Event}
    (started : StartedConsumer start)
    (run : Run (step crc32)
      (fun p event => AnswersFetches p event ∧ KeepsOneFetch p event)
      start history p) :
    p.fetchTokens ≤ 1 := by
  obtain ⟨fresh, -, -⟩ := started.fresh
  rw [fetchTokens_eq]
  apply run.invariant (fun _ p => p.line.tokens ≤ 1)
  · have noneQueued : start.writeBuffers.countP WriteBuffer.isFetch = 0 := by
      rw [List.countP_eq_zero]
      intro req member
      simp [WriteBuffer.isFetch_of_isControl (fresh.controlFrames req member)]
    rw [← fetchTokens_eq, fetchTokens, noneQueued, fresh.unanswered.1]
    split <;> omega
  · rintro _ state event next single ⟨answers, keeps⟩ stepped
    exact (step_motion stepped).tokens_le answers keeps single

/-- A fetch request is answered, fetching is paused and resumed while nothing is
queued, and the connection is lost while the request is unanswered. -/
theorem single_fetch_loop_of_keepsOneFetch_pause :
    ∃ p, Run (step Crc32.checksum)
        (fun p event => AnswersFetches p event ∧ KeepsOneFetch p event)
        (sampleConsumer {})
        [.fetchEvent, .writeReady .written,
          .readReady (.payload [0, 0, 0, 1, 0, 0, 0, 0]) {}, .pauseFetch,
          .resumeFetch, .fetchEvent, .writeReady .written,
          .readReady .closed { connect := some 10 }] p ∧
      p.fetchTokens ≤ 1 := by
  obtain ⟨p, run, -⟩ := exists_run_of_follow (step Crc32.checksum)
    (fun p event => AnswersFetches p event ∧ KeepsOneFetch p event)
    (sampleConsumer {})
    [.fetchEvent, .writeReady .written,
      .readReady (.payload [0, 0, 0, 1, 0, 0, 0, 0]) {}, .pauseFetch,
      .resumeFetch, .fetchEvent, .writeReady .written,
      .readReady .closed { connect := some 10 }]
    (fun _ => true) (by decide +kernel)
  exact ⟨p, run, single_fetch_loop_of_keepsOneFetch
    (sampleConsumer_started {} (by decide +kernel)) run⟩

/-- Fetching is paused and resumed while a request is unanswered: the pause has
swallowed no wakeup, and the end of it makes another one. -/
theorem second_fetch_loop_after_resume :
    ∃ p, StartedConsumer (sampleConsumer {}) ∧
      Run (step Crc32.checksum) AnswersFetches (sampleConsumer {})
        [.fetchEvent, .writeReady .written, .pauseFetch, .resumeFetch] p ∧
      p.fetchTokens = 2 := by
  obtain ⟨p, run, two⟩ := exists_run_of_follow (step Crc32.checksum)
    AnswersFetches (sampleConsumer {})
    [.fetchEvent, .writeReady .written, .pauseFetch, .resumeFetch]
    (fun p => p.fetchTokens = 2) (by decide +kernel)
  exact ⟨p, sampleConsumer_started {} (by decide +kernel), run, of_decide_eq_true two⟩

end KafkaPartition
end AsyncKafka
