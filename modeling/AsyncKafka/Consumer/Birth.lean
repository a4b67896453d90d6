import AsyncKafka.Consumer.FetchLoop
import AsyncKafka.Partition.Life
import AsyncKafka.Wire.Failures

/-!
# Wakeups before the start

The fetch event has no descriptor before `startFetch`, and a wakeup then fails
an assertion.  The constructor, the reconnect paths and `resumeFetch` do not
look whether it has one.  What can fail an assertion is listed here, function
by function; the rest of the argument is that the fetch event keeps its
descriptor from the first `startFetch` on.
-/

namespace AsyncKafka

open Wire Execution

/-- A wakeup fails only on a descriptor that is not open. -/
theorem WakeupEventSource.isOpen_of_wakeup_error
    {source : WakeupEventSource}
    {halt : Halt}
    (failed : source.wakeup = .error halt) :
    source.isOpen = false := by
  unfold wakeup at failed
  unfold isOpen
  split at failed
  · rename_i unknown
    rw [unknown]
    rfl
  · cases failed

namespace KafkaPartition

theorem wakeupFetch_error
    {p : KafkaPartition}
    {halt : Halt}
    (failed : p.wakeupFetch = .error halt) :
    p.line.born = false := by
  rcases bind_eq_error.mp failed with woken | ⟨fetchEvent, -, finished⟩
  · exact WakeupEventSource.isOpen_of_wakeup_error woken
  · cases finished

theorem wakeupFetchOfConsumer_error
    {p : KafkaPartition}
    {halt : Halt}
    (failed : p.wakeupFetchOfConsumer = .error halt) :
    p.line.born = false := by
  unfold wakeupFetchOfConsumer at failed
  split at failed
  · exact wakeupFetch_error failed
  · cases failed

/-- Looking for another broker fails no assertion. -/
theorem failover_error
    {p : KafkaPartition}
    {connect : Option Int}
    {halt : Halt}
    (failed : p.failover connect = .error halt) :
    halt = .undefinedBehaviour := by
  unfold failover at failed
  split at failed
  · exact (Except.error.inj failed).symm
  · split at failed <;> cases failed

/-- The write of a metadata request on a new connection, and the wakeup after
it. -/
theorem reconnected_asserts
    {reconnected : KafkaPartition}
    {writes : WriteOutcome}
    (writing : reconnected.createMetadataRequest.onWriteReady writes =
      .error .assertionFailed → reconnected.createMetadataRequest.line.born = false)
    (failed : (reconnected.createMetadataRequest.onWriteReady writes >>=
      wakeupFetchOfConsumer) = .error .assertionFailed) :
    reconnected.line.born = false := by
  have born : reconnected.createMetadataRequest.line.born =
      reconnected.line.born := by
    rw [line_createMetadataRequest]
  rw [← born]
  rcases bind_eq_error.mp failed with again | ⟨written, wrote, woken⟩
  · exact writing again
  · rw [← (onWriteReady_motion wrote).keeps.2]
    exact wakeupFetchOfConsumer_error woken

/-- Writing fails an assertion only after a reset that is followed by a new
connection. -/
theorem onWriteReady_asserts
    {p : KafkaPartition}
    {outcome : WriteOutcome}
    (failed : p.onWriteReady outcome = .error .assertionFailed) :
    p.line.born = false ∧ p.writeBuffers ≠ [] ∧ outcome.reconnects = true := by
  induction outcome generalizing p with
  | written | short | failed =>
      unfold onWriteReady at failed
      cases front : p.writeBuffers <;> simp [front] at failed
  | reset connect next inductionHypothesis =>
      unfold onWriteReady at failed
      cases front : p.writeBuffers with
      | nil => simp [front] at failed
      | cons req rest =>
          simp only [front] at failed
          rcases bind_eq_error.mp failed with
            lost | ⟨⟨reconnected, connected⟩, replaced, continued⟩
          · cases failover_error lost
          obtain ⟨rfl, line⟩ := failover_line replaced
          have born : reconnected.line.born = p.line.born := by
            rw [line, line_popWriteBuffer]
            rfl
          cases connect with
          | none => cases continued
          | some fd =>
              refine ⟨?_, List.cons_ne_nil req rest, rfl⟩
              rw [← born]
              exact reconnected_asserts
                (fun again => (inductionHypothesis again).1) continued

/-- The reaction to an error code fails an assertion only when its write is
reset and a new connection made. -/
theorem handleKafkaError_asserts
    {p : KafkaPartition}
    {ec : Int}
    {writes : WriteOutcome}
    (failed : p.handleKafkaError ec writes = .error .assertionFailed) :
    p.line.born = false ∧
      (errorNeedsRequest ec && writes.reconnects) = true := by
  unfold handleKafkaError at failed
  split at failed
  · rename_i code
    obtain ⟨born, -, reconnects⟩ := onWriteReady_asserts failed
    rw [line_createOffsetRequest] at born
    exact ⟨born, by simp [errorNeedsRequest, code, reconnects]⟩
  · split at failed
    · rename_i code
      obtain ⟨born, -, reconnects⟩ := onWriteReady_asserts failed
      rw [line_createMetadataRequest] at born
      refine ⟨born, ?_⟩
      rcases code with code | code <;>
        simp [errorNeedsRequest, code, reconnects]
    · cases failed

theorem readError_asserts
    {p : KafkaPartition}
    {surroundings : Surroundings}
    (failed : p.readError surroundings = .error .assertionFailed) :
    p.line.born = false ∧ surroundings.connect.isSome = true := by
  rcases bind_eq_error.mp failed with
    lost | ⟨⟨reconnected, connected⟩, replaced, continued⟩
  · cases failover_error lost
  obtain ⟨rfl, line⟩ := failover_line replaced
  have born : reconnected.line.born = p.line.born := by
    rw [line]
  cases connect : surroundings.connect with
  | none =>
      rw [connect] at continued
      cases continued
  | some fd =>
      rw [connect] at continued
      refine ⟨?_, rfl⟩
      rw [← born]
      exact reconnected_asserts (fun again => (onWriteReady_asserts again).1)
        continued

theorem handleProduceResponse_asserts
    {p : KafkaPartition}
    {payload : Bytes}
    {surroundings : Surroundings}
    (produce : correlationId payload = apiKeyProduceRequest)
    (failed : p.handleProduceResponse payload surroundings =
      .error .assertionFailed) :
    p.line.born = false ∧ (errorNeedsRequest (responseError payload) &&
      surroundings.writes.reconnects) = true := by
  rcases bind_eq_error.mp failed with
    unreadable | ⟨⟨response, ec⟩, readOk, continued⟩
  · cases readProduceResponse_failsOnly unreadable
  have code : responseError payload = ec := by
    simp [responseError, produce, readOk]
  by_cases fine : ec = 0
  · simp only [fine, ne_eq, not_true_eq_false, if_false, acknowledge] at continued
    split at continued
    · cases continued
    · split at continued
      · cases continued
      · split at continued <;> cases continued
  · simp only [fine, ne_eq, not_false_eq_true, if_true] at continued
    rcases bind_eq_error.mp continued with reacted | ⟨middle, -, requeued⟩
    · rw [code]
      exact handleKafkaError_asserts reacted
    · unfold returnRequest at requeued
      split at requeued <;> cases requeued

theorem handleFetchResponse_asserts
    {p : KafkaPartition}
    {payload : Bytes}
    {surroundings : Surroundings}
    (failed : p.handleFetchResponse payload surroundings =
      .error .assertionFailed) :
    p.line.born = false := by
  rcases bind_eq_error.mp failed with
    unreadable | ⟨⟨response, ec⟩, readOk, continued⟩
  · cases readFetchResponse_failsOnly unreadable
  by_cases fine : ec = 0
  · simp only [fine, ne_eq, not_true_eq_false, if_false] at continued
    rw [← line_deliver p response.messages]
    exact wakeupFetchOfConsumer_error continued
  · simp only [fine, ne_eq, not_false_eq_true, if_true] at continued
    rcases bind_eq_error.mp continued with reacted | ⟨middle, reacted, woken⟩
    · exact (handleKafkaError_asserts reacted).1
    · rw [← (handleKafkaError_line reacted).keeps.2.1]
      exact wakeupFetchOfConsumer_error woken

theorem handleMetadataResponse_asserts
    {p : KafkaPartition}
    {payload : Bytes}
    {surroundings : Surroundings}
    (failed : p.handleMetadataResponse payload surroundings =
      .error .assertionFailed) :
    p.line.born = false ∧ p.leaderMoves payload surroundings = true := by
  rcases bind_eq_error.mp failed with unreadable | ⟨⟨response, ec⟩, readOk, -⟩
  · cases readMetadataResponse_failsOnly unreadable
  obtain ⟨leader, handled⟩ := p.handleMetadataResponse_eq surroundings readOk
  rw [handled] at failed
  split at failed
  · rename_i moves
    refine ⟨?_, moves⟩
    have born := wakeupFetchOfConsumer_error failed
    have closed := line_closeSocket p leader
    unfold moveTo at born
    split at born
    · rwa [line_record, closed] at born
    · rwa [line_connectLeader, closed] at born
  · cases failed

theorem handleOffsetResponse_asserts
    {p : KafkaPartition}
    {payload : Bytes}
    {surroundings : Surroundings}
    (offset : correlationId payload = apiKeyOffsetRequest)
    (failed : p.handleOffsetResponse payload surroundings =
      .error .assertionFailed) :
    p.line.born = false ∧ (errorNeedsRequest (responseError payload) &&
      surroundings.writes.reconnects) = true := by
  rcases bind_eq_error.mp failed with
    unreadable | ⟨⟨response, ec⟩, readOk, continued⟩
  · cases readOffsetResponse_failsOnly unreadable
  have code : responseError payload = ec := by
    simp [responseError, offset, readOk, apiKeyOffsetRequest,
      apiKeyProduceRequest, apiKeyFetchRequest]
  rcases bind_eq_error.mp continued with reacted | ⟨middle, -, finished⟩
  · unfold handleErrorCode at reacted
    split at reacted
    · rw [code]
      exact handleKafkaError_asserts reacted
    · cases reacted
  · cases finished

/-- Whether a call wakes the fetch event, unless something stops it before. -/
def wakesFetch (p : KafkaPartition) : Call → Bool
  | .event event => event.isFetchResponse || p.rewakes event
  | _ => false

/-- Whether a call reads a response without a correlation identifier, which an
assertion of its own forbids. -/
def Call.readsNoIdentifier : Call → Bool
  | .event (.readReady (.payload payload) _) => correlationId payload == -1
  | _ => false

/-- Whether a call hands messages to the partition, which a consumer never
does. -/
def Call.produces : Call → Bool
  | .event (.produce _) => true
  | .event (.produceAll _) => true
  | _ => false

def Call.startsFetch : Call → Bool
  | .startFetch _ _ => true
  | _ => false

/-- The reaction to an error code wakes the fetch event if its write is reset
and a new connection made. -/
theorem wakesFetch_of_error
    {p : KafkaPartition}
    {payload : Bytes}
    {surroundings : Surroundings}
    (other : correlationId payload ≠ apiKeyMetadataRequest)
    (reconnects : (errorNeedsRequest (responseError payload) &&
      surroundings.writes.reconnects) = true) :
    p.wakesFetch (.event (.readReady (.payload payload) surroundings)) =
      true := by
  simp only [wakesFetch, rewakes, if_neg other, reconnects, Bool.or_true]

theorem onReadReady_asserts
    {p : KafkaPartition}
    {received : ReadOutcome}
    {surroundings : Surroundings}
    (failed : p.onReadReady received surroundings = .error .assertionFailed) :
    Call.readsNoIdentifier (.event (.readReady received surroundings)) = true ∨
      p.line.born = false ∧
        p.wakesFetch (.event (.readReady received surroundings)) = true := by
  cases received with
  | closed =>
      obtain ⟨born, connects⟩ := readError_asserts failed
      exact .inr ⟨born, by simp [wakesFetch, rewakes, connects]⟩
  | reset =>
      obtain ⟨born, connects⟩ := readError_asserts failed
      exact .inr ⟨born, by simp [wakesFetch, rewakes, connects]⟩
  | failed => cases failed
  | payload payload =>
      simp only [onReadReady] at failed
      split at failed
      · cases failed
      split at failed
      · rename_i missing
        exact .inl (by simp [Call.readsNoIdentifier, missing])
      right
      have born : (p.record (.read payload)).line.born = p.line.born := by
        rw [line_record_read]
        rfl
      unfold dispatchResponse at failed
      rw [← born]
      split at failed
      · rename_i produce
        obtain ⟨unborn, reconnects⟩ :=
          handleProduceResponse_asserts produce failed
        exact ⟨unborn, wakesFetch_of_error (by rw [produce]; decide) reconnects⟩
      split at failed
      · rename_i fetch
        refine ⟨handleFetchResponse_asserts failed, ?_⟩
        simp [wakesFetch, Event.isFetchResponse, fetch]
      split at failed
      · rename_i metadata
        obtain ⟨unborn, moves⟩ := handleMetadataResponse_asserts failed
        refine ⟨unborn, ?_⟩
        have sameMoves : p.leaderMoves payload surroundings = true := moves
        simp [wakesFetch, rewakes, metadata, sameMoves]
      split at failed
      · rename_i offset
        obtain ⟨unborn, reconnects⟩ := handleOffsetResponse_asserts offset failed
        exact ⟨unborn, wakesFetch_of_error (by rw [offset]; decide) reconnects⟩
      · cases failed

/-- A call fails an assertion only when it reads a response without identifier,
when it hands messages to the partition, or when it wakes a fetch event that
has not been initialised. -/
theorem perform_asserts
    {crc32 : Bytes → UInt32}
    {p : KafkaPartition}
    {call : Call}
    (failed : perform crc32 p call = .error .assertionFailed) :
    call.readsNoIdentifier = true ∨ call.produces = true ∨
      p.line.born = false ∧ p.wakesFetch call = true := by
  cases call with
  | connect _ | offsetRequest | callbacks _ _ _ => cases failed
  | armTimer fd =>
      rcases bind_eq_error.mp failed with armed | ⟨mdTimerEvent, -, finished⟩
      · exact absurd rfl (armTimer_error armed)
      · cases finished
  | startFetch eventFd timerFd =>
      rcases bind_eq_error.mp failed with armed | ⟨ocTimerEvent, -, failed⟩
      · exact absurd rfl (armTimer_error armed)
      have unborn := wakeupFetchOfConsumer_error failed
      exact absurd unborn (by
        simp [line, registerSource, WakeupEventSource.isOpen_init])
  | startProduce eventFd queueFd timerFd =>
      rcases bind_eq_error.mp failed with armed | ⟨pReqTimerEvent, -, failed⟩
      · exact absurd rfl (armTimer_error armed)
      rcases bind_eq_error.mp failed with woken | ⟨produceMsgQEvent, -, finished⟩
      · have closed := WakeupEventSource.isOpen_of_wakeup_error woken
        exact absurd closed (by
          simp [registerSource, WakeupEventSource.isOpen_init])
      · cases finished
  | event event =>
      cases event with
      | produce _ | produceAll _ => exact .inr (.inl rfl)
      | pauseFetch | batchTimer | metadataTimer | commitTimer => cases failed
      | resumeFetch =>
          simp only [perform, step, resumeFetch] at failed
          split at failed
          · rename_i paused
            have unborn := wakeupFetch_error failed
            exact .inr (.inr ⟨unborn, by
              simp [wakesFetch, rewakes, paused]⟩)
          · cases failed
      | produceEvent | produceMsgQEvent | fetchEvent =>
          simp only [perform, step] at failed
          split at failed <;> cases failed
      | readReady received surroundings =>
          rcases onReadReady_asserts failed with missing | wakes
          · exact .inl missing
          · exact .inr (.inr wakes)
      | writeReady outcome =>
          obtain ⟨unborn, waiting, reconnects⟩ := onWriteReady_asserts failed
          exact .inr (.inr ⟨unborn, by
            simp [wakesFetch, rewakes, reconnects, waiting]⟩)

/-- The fetch event keeps its descriptor, and `startFetch` makes one. -/
theorem CallMotion.born
    {p : KafkaPartition}
    {call : Call}
    {after : Line}
    (motion : CallMotion p call after)
    (ready : p.line.born = true) :
    after.born = true := by
  cases motion with
  | event motion => exact motion.keeps.2.trans ready
  | start => rfl
  | _ => exact ready

/-- Once `startFetch` has been called the fetch event has a descriptor. -/
theorem born_of_startsFetch
    {crc32 : Bytes → UInt32}
    {allowed : KafkaPartition → Call → Prop}
    {start p : KafkaPartition}
    {history : List Call}
    (run : Run (perform crc32) allowed start history p)
    (started : history.any Call.startsFetch = true) :
    p.line.born = true := by
  revert started
  apply run.invariant fun history p =>
    history.any Call.startsFetch = true → p.line.born = true
  · intro started
    cases started
  · intro history state call next before _ performed started
    rw [List.any_append, Bool.or_eq_true] at started
    rcases started with earlier | now
    · exact (perform_motion performed).born (before earlier)
    · cases call with
      | startFetch eventFd timerFd => rw [startFetch_line performed]
      | _ => cases now

/-- No call of a consumer wakes an event source that has not been initialised,
if nothing wakes the fetch event before the first `startFetch`: apart from the
one about the correlation identifier, no assertion fails. -/
theorem no_wakeup_before_init
    {crc32 : Bytes → UInt32}
    {start p : KafkaPartition}
    {history : List Call}
    {call : Call}
    (run : Run (perform crc32) (fun _ _ => True) start history p)
    (consuming : call.produces = false)
    (identified : call.readsNoIdentifier = false)
    (ready : history.any Call.startsFetch = true ∨
      p.wakesFetch call = false) :
    perform crc32 p call ≠ .error .assertionFailed := by
  intro failed
  rcases perform_asserts failed with missing | produces | ⟨unborn, wakes⟩
  · rw [identified] at missing
    cases missing
  · rw [consuming] at produces
    cases produces
  · rcases ready with started | silent
    · rw [born_of_startsFetch run started] at unborn
      cases unborn
    · rw [silent] at wakes
      cases wakes

/-- A started consumer is paused and resumed. -/
theorem no_wakeup_before_init_resume :
    ∃ p, Run (perform Crc32.checksum) (fun _ _ => True) (sampleUnborn .consumer)
        (initCalls 5 sampleSurroundings ++
          [.startFetch 7 8, .event .pauseFetch]) p ∧
      p.wakesFetch (.event .resumeFetch) = true ∧
      perform Crc32.checksum p (.event .resumeFetch) ≠
        .error .assertionFailed := by
  obtain ⟨p, run, wakes⟩ := exists_run_of_follow (perform Crc32.checksum)
    (fun _ _ => True) (sampleUnborn .consumer)
    (initCalls 5 sampleSurroundings ++ [.startFetch 7 8, .event .pauseFetch])
    (fun p => p.wakesFetch (.event .resumeFetch)) (by decide +kernel)
  exact ⟨p, run, wakes, no_wakeup_before_init run rfl rfl (.inl rfl)⟩

/-- A metadata response that names the second broker as the leader. -/
def movedMetadata : Bytes :=
  [0, 0, 0, 3, 0, 0, 0, 1, 0, 0, 0, 2, 0, 1, 98, 0, 0, 35, 133,
    0, 0, 0, 1, 0, 0, 0, 1, 116, 0, 0, 0, 1, 0, 0, 0, 0, 0, 0, 0, 0, 0, 2,
    0, 0, 0, 0, 0, 0, 0, 0]

/-- A construction in which the first answer names another leader. -/
def movedSurroundings : InitSurroundings :=
  { sampleSurroundings with
    metadataRead := .payload movedMetadata
    metadata := { connect := some 10, resolved := some [50] } }

/-- The constructor of a consumer wakes the fetch event, which has no
descriptor yet, when the first answer names another leader. -/
theorem constructor_wakes_before_init :
    construct .consumer [116] 0 sampleBrokers
        { id := 1, host := [97], ip := [49], port := 9092 } {} emptyDisk
        movedSurroundings = .error .assertionFailed ∧
      ∃ p, Run (perform Crc32.checksum) (fun _ _ => True)
          (sampleUnborn .consumer)
          [.connect 5, .event .metadataTimer, .event (.writeReady .written)] p ∧
        p.fetchEvent.wakeupFd = -1 ∧
        perform Crc32.checksum p
            (.event (.readReady movedSurroundings.metadataRead
              movedSurroundings.metadata)) = .error .assertionFailed ∧
        Call.readsNoIdentifier (.event (.readReady
          movedSurroundings.metadataRead movedSurroundings.metadata)) =
            false := by
  refine ⟨rfl, ?_⟩
  obtain ⟨p, run, checked⟩ := exists_run_of_follow (perform Crc32.checksum)
    (fun _ _ => True) (sampleUnborn .consumer)
    [.connect 5, .event .metadataTimer, .event (.writeReady .written)]
    (fun p => p.fetchEvent.wakeupFd = -1 ∧
      perform Crc32.checksum p (.event (.readReady
        movedSurroundings.metadataRead movedSurroundings.metadata)) =
          .error .assertionFailed) (by decide +kernel)
  obtain ⟨closed, failed⟩ := of_decide_eq_true checked
  exact ⟨p, run, closed, failed, by decide +kernel⟩

end KafkaPartition
end AsyncKafka
