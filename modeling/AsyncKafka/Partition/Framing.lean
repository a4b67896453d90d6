import AsyncKafka.Partition.Reading
import AsyncKafka.Partition.Start

/-!
# The frames of a connection

A broker sends each response with its length in front.  The bytes of a frame
that a call of `onReadReady` has consumed live in its local variables only.
Where every call consumes a whole frame or nothing, the payloads that are
handed to the handlers are those that were sent, in whatever pieces the kernel
delivers them, as long as no handler gives the socket up: a response that names
another leader is the last one that is read on its connection.
-/

namespace AsyncKafka

open Wire ByteOrder Execution

/-- A response as the broker sends it. -/
def frame (payload : Bytes) : Bytes := writeInt32 payload.length ++ payload

theorem length_frame (payload : Bytes) :
    (frame payload).length = 4 + payload.length := by
  simp [frame]

/-- The length that the frame announces. -/
theorem ofBigEndian_length
    {payload : Bytes}
    (bounded : payload.length < 2 ^ 31) :
    ofBigEndian (writeInt32 payload.length) = payload.length := by
  have spelled := ofBigEndian_writeSigned 4 payload.length
  unfold writeInt32
  norm_num at spelled
  omega

namespace ReadCall

/-- The kernel delivers a frame to the call, in any pieces: every `read`
returns data, and there are answers enough if each brings one byte only. -/
structure Delivers (call : ReadCall) (payload : Bytes) : Prop where
  allData : ∀ answer ∈ call.answers, answer.isData = true
  enough : (frame payload).length ≤ call.answers.length

/-- No `read` of the call finds the connection closed or reset by the other
end. -/
def Undisturbed (call : ReadCall) : Prop :=
  ∀ answer ∈ call.answers,
    answer ≠ .closed ∧ answer ≠ .failed econnreset

/-- A `read` fails only if it is the first one of the call. -/
def FailsFirst (call : ReadCall) : Prop :=
  ∀ answer ∈ call.answers.tail, answer.isFailed = false

instance (call : ReadCall) : Decidable call.Undisturbed :=
  inferInstanceAs (Decidable (∀ answer ∈ call.answers, _ ∧ _))

instance (call : ReadCall) : Decidable call.FailsFirst :=
  inferInstanceAs (Decidable (∀ answer ∈ call.answers.tail, _ = _))

/-- Where the first `read` does not fail, none does. -/
theorem allData_of_not_failed
    {call : ReadCall}
    (undisturbed : call.Undisturbed)
    (failsFirst : call.FailsFirst)
    (begins : ¬ ∃ code answers, call.answers = .failed code :: answers) :
    ∀ answer ∈ call.answers, answer.isData = true := by
  intro answer member
  cases answer with
  | data count => rfl
  | closed => exact absurd rfl (undisturbed .closed member).1
  | failed code =>
      obtain ⟨answers, surroundings⟩ := call
      cases answers with
      | nil => cases member
      | cons first answers =>
          rcases List.mem_cons.mp member with rfl | later
          · exact absurd ⟨code, answers, rfl⟩ begins
          · exact absurd (failsFirst (.failed code) later)
              (by simp [ReadAnswer.isFailed])

end ReadCall

namespace Channel

/-- As long as every `read` returns data, a frame is received whole and nothing
else is consumed, or the answers run out. -/
theorem receive_frame
    {payload : Bytes}
    (rest : Bytes)
    (errno : Int)
    {answers : List ReadAnswer}
    (positive : 0 < payload.length)
    (bounded : payload.length < 2 ^ 31)
    (allData : ∀ answer ∈ answers, answer.isData = true) :
    receive ⟨frame payload ++ rest, errno⟩ answers =
        .ok (.payload payload, ⟨rest, errno⟩) ∨
      answers.length < (frame payload).length ∧
        receive ⟨frame payload ++ rest, errno⟩ answers = .error .waiting := by
  have prefixLength : (writeInt32 payload.length).length = 4 :=
    length_writeInt32 _
  have stream : frame payload ++ rest =
      writeInt32 payload.length ++ (payload ++ rest) :=
    List.append_assoc _ _ _
  rw [stream, length_frame]
  unfold receive
  rcases readData_data (writeInt32 payload.length) (payload ++ rest) errno
    allData (by rw [prefixLength]; decide) with
    ⟨unread, suffix, used, announced⟩ | ⟨few, waits⟩
  · rw [prefixLength] at announced used
    rw [announced, ok_bind]
    dsimp only
    rw [if_neg (by decide), ofBigEndian_length bounded]
    rcases readData_data payload rest errno
      (fun answer member => allData answer (suffix.subset member)) bounded with
      ⟨_, -, -, collected⟩ | ⟨few, waits⟩
    · left
      rw [collected, ok_bind]
      dsimp only
      rw [if_neg (by omega)]
      rfl
    · right
      rw [waits]
      exact ⟨by omega, rfl⟩
  · right
    rw [prefixLength] at few waits
    rw [waits]
    exact ⟨by omega, rfl⟩

/-- A call whose first `read` fails consumes nothing. -/
theorem receive_failed
    (channel : Channel)
    {errno : Int}
    (answers : List ReadAnswer)
    (unreset : errno ≠ econnreset) :
    receive channel (.failed errno :: answers) =
      .ok (.failed, { channel with errno }) := by
  simp [receive, readData, readLoop, read, bind, Except.bind, wrap, readFailure,
    unreset, pure, Except.pure]

/-- A call waits when nothing has arrived. -/
theorem receive_empty
    {errno : Int}
    {answers : List ReadAnswer}
    (allData : ∀ answer ∈ answers, answer.isData = true) :
    receive ⟨[], errno⟩ answers = .error .waiting := by
  cases answers with
  | nil => rfl
  | cons answer answers =>
      cases answer with
      | data count => rfl
      | closed => exact absurd (allData .closed (by simp)) (by decide)
      | failed code =>
          exact absurd (allData (.failed code) (by simp))
            (by simp [ReadAnswer.isData])

end Channel

/-! ## Successive calls -/

namespace KafkaPartition

/-- A whole response with an identifier goes to the handler that its identifier
selects. -/
theorem onReadReady_payload
    (p : KafkaPartition)
    {payload : Bytes}
    (surroundings : Surroundings)
    (long : 4 ≤ payload.length)
    (identified : correlationId payload ≠ -1) :
    p.onReadReady (.payload payload) surroundings =
      (p.record (.read payload)).dispatchResponse payload surroundings := by
  simp only [onReadReady]
  rw [if_neg (by omega), if_neg identified]

/-- Hand a payload to its handler. -/
def dispatch (p : KafkaPartition) (payload : Bytes)
    (surroundings : Surroundings) : Except Stop KafkaPartition :=
  halting ((p.record (.read payload)).dispatchResponse payload surroundings)

/-- Hand payloads to the handlers, one after the other. -/
def dispatchAll (p : KafkaPartition)
    (payloads : List (Bytes × Surroundings)) : Except Stop KafkaPartition :=
  payloads.foldlM (fun p (payload, surroundings) =>
    p.dispatch payload surroundings) p

theorem dispatchAll_concat
    (p : KafkaPartition)
    (payloads : List (Bytes × Surroundings))
    (payload : Bytes)
    (surroundings : Surroundings) :
    p.dispatchAll (payloads ++ [(payload, surroundings)]) =
      p.dispatchAll payloads >>= fun q => q.dispatch payload surroundings := by
  unfold dispatchAll
  rw [List.foldlM_append]
  refine congrArg _ (funext fun q => ?_)
  rw [List.foldlM_cons]
  exact bind_pure _

/-- Nothing was done to the socket between two states. -/
def KeepsSocket (p q : KafkaPartition) : Prop :=
  ∀ effect ∈ q.trace.drop p.trace.length, effect.isSocket = false

instance (p q : KafkaPartition) : Decidable (p.KeepsSocket q) :=
  inferInstanceAs (Decidable (∀ effect ∈ _, _ = _))

/-- Every handler of the payloads keeps the socket. -/
def HandlersKeepSocket (p : KafkaPartition) :
    List (Bytes × Surroundings) → Prop
  | [] => True
  | (payload, surroundings) :: later =>
      ∀ q, p.dispatch payload surroundings = .ok q →
        p.KeepsSocket q ∧ q.HandlersKeepSocket later

end KafkaPartition

namespace Conversation

open KafkaPartition

/-- What is related to a list with a last element has a last element too. -/
theorem forall₂_concat
    {R : α → β → Prop}
    {values : List α}
    {others : List β}
    {other : β}
    (related : List.Forall₂ R values (others ++ [other])) :
    ∃ front last, values = front ++ [last] ∧ List.Forall₂ R front others ∧
      R last other := by
  have front := List.forall₂_take_append values others [other] related
  have back := List.forall₂_drop_append values others [other] related
  cases dropped : values.drop others.length with
  | nil =>
      rw [dropped] at back
      cases back
  | cons last more =>
      rw [dropped] at back
      cases back with
      | cons first rest =>
          cases rest
          exact ⟨_, last, by rw [← dropped, List.take_append_drop], front, first⟩

/-- A handler that keeps the socket leaves the connections alone. -/
theorem follow_of_keepsSocket
    {p q : KafkaPartition}
    (keeps : p.KeepsSocket q)
    (channel : Channel)
    (coming dispatched payloads : List Bytes) :
    follow ⟨p, channel, coming, dispatched⟩ q payloads =
      ⟨q, channel, coming, dispatched ++ payloads⟩ := by
  have unmoved (effects : List Effect)
      (others : ∀ effect ∈ effects, effect.isSocket = false) :
      effects.foldl Effect.follow (channel, coming) = (channel, coming) := by
    induction effects with
    | nil => rfl
    | cons effect effects inductionHypothesis =>
        have same : Effect.follow (channel, coming) effect =
            (channel, coming) := by
          have other := others effect List.mem_cons_self
          cases effect with
          | connect fd => cases other
          | close fd => cases other
          | write | read | shutdown | receivedData | produceResponse
            | msgQueued => rfl
        rw [List.foldl_cons, same]
        exact inductionHypothesis fun other member =>
          others other (List.mem_cons_of_mem _ member)
  unfold follow
  dsimp only
  rw [unmoved _ keeps]

/-- A call to which the kernel delivers a frame dispatches its payload and
leaves the stream behind the frame, in whatever pieces it arrives. -/
theorem onReadReady_frame
    (p : KafkaPartition)
    (rest : Bytes)
    (errno : Int)
    (coming dispatched : List Bytes)
    {payload : Bytes}
    {call : ReadCall}
    (delivers : call.Delivers payload)
    (long : 4 ≤ payload.length)
    (bounded : payload.length < 2 ^ 31)
    (identified : correlationId payload ≠ -1) :
    onReadReady ⟨p, ⟨frame payload ++ rest, errno⟩, coming, dispatched⟩ call =
      (p.dispatch payload call.surroundings).map fun q =>
        follow ⟨p, ⟨rest, errno⟩, coming, dispatched⟩ q [payload] := by
  have received : Channel.receive ⟨frame payload ++ rest, errno⟩ call.answers =
      .ok (.payload payload, ⟨rest, errno⟩) := by
    rcases Channel.receive_frame rest errno (by omega) bounded
      delivers.allData with received | ⟨few, -⟩
    · exact received
    · have enough := delivers.enough
      omega
  unfold onReadReady KafkaPartition.dispatch
  rw [received, ok_bind]
  dsimp only
  rw [onReadReady_payload p call.surroundings long identified]
  cases (p.record (.read payload)).dispatchResponse payload
      call.surroundings with
  | error halt => rfl
  | ok q => rfl

/-- Successive calls dispatch the frames of the stream, whatever the pieces in
which they arrive, as long as the handlers keep the socket. -/
theorem foldlM_onReadReady
    (p : KafkaPartition)
    {payloads : List Bytes}
    (coming dispatched : List Bytes)
    (rest : Bytes)
    (errno : Int)
    {calls : List ReadCall}
    (lengths : ∀ payload ∈ payloads,
      4 ≤ payload.length ∧ payload.length < 2 ^ 31)
    (identified : ∀ payload ∈ payloads, correlationId payload ≠ -1)
    (delivered : List.Forall₂ ReadCall.Delivers calls payloads)
    (keep : p.HandlersKeepSocket
      (payloads.zip (calls.map ReadCall.surroundings))) :
    calls.foldlM onReadReady
        ⟨p, ⟨payloads.flatMap frame ++ rest, errno⟩, coming, dispatched⟩ =
      (p.dispatchAll (payloads.zip (calls.map ReadCall.surroundings))).map
        fun q => ⟨q, ⟨rest, errno⟩, coming, dispatched ++ payloads⟩ := by
  induction delivered generalizing p dispatched with
  | nil => simp [dispatchAll, Except.map, pure, Except.pure]
  | @cons call payload calls payloads delivers _ inductionHypothesis =>
      obtain ⟨long, bounded⟩ := lengths payload List.mem_cons_self
      have first := onReadReady_frame p (payloads.flatMap frame ++ rest) errno
        coming dispatched delivers long bounded
        (identified payload List.mem_cons_self)
      rw [List.foldlM_cons, List.flatMap_cons, List.append_assoc, first]
      simp only [dispatchAll, List.map_cons, List.zip_cons_cons,
        List.foldlM_cons]
      cases handled : p.dispatch payload call.surroundings with
      | error stop => rfl
      | ok q =>
          obtain ⟨keeps, keepLater⟩ := keep q handled
          have later := inductionHypothesis q (dispatched ++ [payload])
            (fun other member => lengths other (List.mem_cons_of_mem _ member))
            (fun other member => identified other (List.mem_cons_of_mem _ member))
            keepLater
          rw [List.append_assoc, List.singleton_append] at later
          have stays := follow_of_keepsSocket keeps
            ⟨payloads.flatMap frame ++ rest, errno⟩ coming dispatched [payload]
          rw [← stays] at later
          exact later

/-- What successive calls do, the last of which may give the socket up, depends
on the frames and not on the pieces in which they arrive. -/
theorem foldlM_onReadReady_pieces
    (p : KafkaPartition)
    {payloads : List Bytes}
    (coming : List Bytes)
    (rest : Bytes)
    (errno : Int)
    {surroundings : List Surroundings}
    (lengths : ∀ payload ∈ payloads,
      4 ≤ payload.length ∧ payload.length < 2 ^ 31)
    (identified : ∀ payload ∈ payloads, correlationId payload ≠ -1)
    (enough : payloads.length = surroundings.length)
    (keep : p.HandlersKeepSocket (payloads.zip surroundings).dropLast) :
    ∃ result : Except Stop Conversation,
      result.map (fun conversation =>
          (conversation.partition, conversation.dispatched)) =
        (p.dispatchAll (payloads.zip surroundings)).map (fun q => (q, payloads)) ∧
      ∀ calls, List.Forall₂ ReadCall.Delivers calls payloads →
        calls.map ReadCall.surroundings = surroundings →
        calls.foldlM onReadReady
          ⟨p, ⟨payloads.flatMap frame ++ rest, errno⟩, coming, []⟩ = result := by
  rcases List.eq_nil_or_concat' payloads with rfl | ⟨earlier, payload, rfl⟩
  · refine ⟨.ok ⟨p, ⟨rest, errno⟩, coming, []⟩, rfl, ?_⟩
    intro calls delivered _
    cases delivered
    rfl
  obtain ⟨front, last, rfl⟩ := (List.eq_nil_or_concat' surroundings).resolve_left
    (by rintro rfl; simp at enough)
  simp only [List.length_append, List.length_singleton, Nat.add_right_cancel_iff]
    at enough
  rw [List.zip_append enough, List.zip_cons_cons, List.zip_nil_left] at keep ⊢
  rw [List.dropLast_concat] at keep
  obtain ⟨long, bounded⟩ := lengths payload (by simp)
  refine ⟨(do
    let q ← p.dispatchAll (earlier.zip front)
    (q.dispatch payload last).map fun r =>
      follow ⟨q, ⟨rest, errno⟩, coming, earlier⟩ r [payload]), ?_, ?_⟩
  · rw [dispatchAll_concat]
    cases p.dispatchAll (earlier.zip front) with
    | error stop => rfl
    | ok q =>
        rw [ok_bind, ok_bind]
        cases q.dispatch payload last with
        | error stop => rfl
        | ok r => rfl
  · intro calls delivered same
    obtain ⟨before, call, rfl, deliveredBefore, delivers⟩ :=
      forall₂_concat delivered
    rw [List.map_append] at same
    obtain ⟨sameFront, sameLast⟩ := List.append_inj' same rfl
    have sameLast := List.head_eq_of_cons_eq sameLast
    rw [← sameFront] at keep
    have first := foldlM_onReadReady p coming [] (frame payload ++ rest) errno
      (fun other member => lengths other (List.mem_append_left _ member))
      (fun other member => identified other (List.mem_append_left _ member))
      deliveredBefore keep
    rw [List.foldlM_append, List.flatMap_append, List.flatMap_singleton,
      List.append_assoc, first, sameFront]
    cases p.dispatchAll (earlier.zip front) with
    | error stop => rfl
    | ok q =>
        have called : [call].foldlM onReadReady
            ⟨q, ⟨frame payload ++ rest, errno⟩, coming, earlier⟩ =
              onReadReady ⟨q, ⟨frame payload ++ rest, errno⟩, coming, earlier⟩
                call := by
          rw [List.foldlM_cons]
          exact bind_pure _
        refine called.trans ((onReadReady_frame q rest errno coming earlier delivers
          long bounded (identified payload (by simp))).trans ?_)
        rw [sameLast]
        rfl

/-- As long as the handlers keep the socket, successive calls of `onReadReady`
consume exactly the frames that the kernel delivers to them and hand every
payload to the handler that its identifier selects.  The handler of the last
frame may give the socket up; if it keeps it too, the stream is left at the next
frame.  Two sequences of calls that differ in the pieces only do the same. -/
theorem onReadReady_framing
    {p : KafkaPartition}
    {payloads coming : List Bytes}
    {rest : Bytes}
    {errno : Int}
    {calls : List ReadCall}
    (lengths : ∀ payload ∈ payloads,
      4 ≤ payload.length ∧ payload.length < 2 ^ 31)
    (identified : ∀ payload ∈ payloads, correlationId payload ≠ -1)
    (delivered : List.Forall₂ ReadCall.Delivers calls payloads)
    (keep : p.HandlersKeepSocket
      (payloads.zip (calls.map ReadCall.surroundings)).dropLast) :
    (calls.foldlM onReadReady
          ⟨p, ⟨payloads.flatMap frame ++ rest, errno⟩, coming, []⟩).map
        (fun conversation => (conversation.partition, conversation.dispatched)) =
        (p.dispatchAll (payloads.zip (calls.map ReadCall.surroundings))).map
          (fun q => (q, payloads)) ∧
      (p.HandlersKeepSocket (payloads.zip (calls.map ReadCall.surroundings)) →
        calls.foldlM onReadReady
            ⟨p, ⟨payloads.flatMap frame ++ rest, errno⟩, coming, []⟩ =
          (p.dispatchAll (payloads.zip (calls.map ReadCall.surroundings))).map
            fun q => ⟨q, ⟨rest, errno⟩, coming, payloads⟩) ∧
      ∀ others : List ReadCall,
        List.Forall₂ ReadCall.Delivers others payloads →
        others.map ReadCall.surroundings = calls.map ReadCall.surroundings →
        others.foldlM onReadReady
            ⟨p, ⟨payloads.flatMap frame ++ rest, errno⟩, coming, []⟩ =
          calls.foldlM onReadReady
            ⟨p, ⟨payloads.flatMap frame ++ rest, errno⟩, coming, []⟩ := by
  have enough : payloads.length = (calls.map ReadCall.surroundings).length := by
    rw [List.length_map, delivered.length_eq]
  obtain ⟨result, handed, pieces⟩ := foldlM_onReadReady_pieces p coming rest errno
    lengths identified enough keep
  refine ⟨?_, foldlM_onReadReady p coming [] rest errno lengths identified
    delivered, ?_⟩
  · rw [pieces calls delivered rfl]
    exact handed
  · intro others otherDelivered sameSurroundings
    rw [pieces others otherDelivered sameSurroundings, pieces calls delivered rfl]

/-- A response to nothing in particular, and one about no topic. -/
def samplePayloads : List Bytes :=
  [[0, 0, 0, 9, 5], [0, 0, 0, 3, 0, 0, 0, 0, 0, 0, 0, 0]]

/-- The first frame arrives byte by byte, the second in two pieces. -/
def sampleCalls : List ReadCall :=
  [{ answers := List.replicate 9 (.data 1) },
    { answers := .data 4 :: List.replicate 15 (.data 100) }]

theorem onReadReady_framing_pieces :
    ∃ q, sampleCalls.foldlM onReadReady
        ⟨sampleConsumer {}, ⟨samplePayloads.flatMap frame ++ [0], 0⟩, [], []⟩ =
      .ok ⟨q, ⟨[0], 0⟩, [], samplePayloads⟩ := by
  have delivered : List.Forall₂ ReadCall.Delivers sampleCalls samplePayloads :=
    .cons ⟨by decide, by decide⟩ (.cons ⟨by decide, by decide⟩ .nil)
  obtain ⟨q, dispatched, kept⟩ := exists_ok_of_any
    ((sampleConsumer {}).dispatch [0, 0, 0, 9, 5] {})
    (fun q => (sampleConsumer {}).KeepsSocket q ∧
      (q.dispatch [0, 0, 0, 3, 0, 0, 0, 0, 0, 0, 0, 0] {}).toOption.any fun r =>
        decide (q.KeepsSocket r)) (by decide +kernel)
  obtain ⟨keeps, next⟩ := of_decide_eq_true kept
  obtain ⟨r, last, keepsLast⟩ := exists_ok_of_any _ _ next
  have keepsLast := of_decide_eq_true keepsLast
  have all : (sampleConsumer {}).HandlersKeepSocket
      (samplePayloads.zip (sampleCalls.map ReadCall.surroundings)) := by
    intro q' first
    obtain rfl := Except.ok.inj (dispatched.symm.trans first)
    refine ⟨keeps, fun r' second => ?_⟩
    obtain rfl := Except.ok.inj (last.symm.trans second)
    exact ⟨keepsLast, trivial⟩
  have butLast : (sampleConsumer {}).HandlersKeepSocket
      (samplePayloads.zip (sampleCalls.map ReadCall.surroundings)).dropLast :=
    fun q' first => ⟨(all q' first).1, trivial⟩
  refine ⟨r, ((onReadReady_framing (by decide) (by decide) delivered butLast).2.1
    all).trans ?_⟩
  have both : (sampleConsumer {}).dispatchAll
      (samplePayloads.zip (sampleCalls.map ReadCall.surroundings)) = .ok r := by
    have zipped : samplePayloads.zip (sampleCalls.map ReadCall.surroundings) =
        ([] ++ [([0, 0, 0, 9, 5], ({} : Surroundings))]) ++
          [([0, 0, 0, 3, 0, 0, 0, 0, 0, 0, 0, 0], ({} : Surroundings))] := rfl
    rw [zipped, dispatchAll_concat, dispatchAll_concat, dispatchAll,
      List.foldlM_nil, pure_bind, dispatched, ok_bind, last]
  rw [both]
  rfl

/-- A metadata response that names another broker as the leader, and a response
to nothing in particular. -/
def movedPayloads : List Bytes :=
  [[0, 0, 0, 3,
      0, 0, 0, 1, 0, 0, 0, 2, 0, 1, 98, 0, 0, 35, 133,
      0, 0, 0, 1, 0, 0, 0, 1, 116,
        0, 0, 0, 1, 0, 0, 0, 0, 0, 0, 0, 0, 0, 2, 0, 0, 0, 0, 0, 0, 0, 0],
    [0, 0, 0, 9, 5]]

/-- The client connects to the new leader during the first call. -/
def movedCalls : List ReadCall :=
  [{ answers := List.replicate 60 (.data 100)
     surroundings := { resolved := some [50], connect := some 9 } },
    { answers := List.replicate 9 (.data 100) }]

/-- The handler of the first frame closes the socket on which the second frame
has arrived, and the second call reads what the new leader sends. -/
theorem onReadReady_framing_moved :
    (∀ payload ∈ movedPayloads, 4 ≤ payload.length ∧
      payload.length < 2 ^ 31 ∧ correlationId payload ≠ -1) ∧
    List.Forall₂ ReadCall.Delivers movedCalls movedPayloads ∧
    ∃ conversation, movedCalls.foldlM onReadReady
        ⟨sampleConsumer {}, ⟨movedPayloads.flatMap frame, 0⟩,
          [frame [0, 0, 0, 9, 7]], []⟩ = .ok conversation ∧
      conversation.partition.sockFd = 9 ∧
      conversation.dispatched = movedPayloads.take 1 ++ [[0, 0, 0, 9, 7]] ∧
      conversation.dispatched ≠ movedPayloads := by
  refine ⟨by decide, .cons ⟨by decide, by decide⟩
    (.cons ⟨by decide, by decide⟩ .nil), ?_⟩
  obtain ⟨conversation, called, checked⟩ := exists_ok_of_any
    (movedCalls.foldlM onReadReady
      ⟨sampleConsumer {}, ⟨movedPayloads.flatMap frame, 0⟩,
        [frame [0, 0, 0, 9, 7]], []⟩)
    (fun conversation => conversation.partition.sockFd = 9 ∧
      conversation.dispatched = movedPayloads.take 1 ++ [[0, 0, 0, 9, 7]] ∧
      conversation.dispatched ≠ movedPayloads) (by decide +kernel)
  exact ⟨conversation, called, of_decide_eq_true checked⟩

/-- The connection is neither closed nor reset in a call: no `read` finds it so,
and the handler does not give it up. -/
def Undisturbed (conversation : Conversation) (call : ReadCall) : Prop :=
  call.Undisturbed ∧ ∀ next, conversation.onReadReady call = .ok next →
    conversation.partition.KeepsSocket next.partition

instance (conversation : Conversation) (call : ReadCall) :
    Decidable (conversation.Undisturbed call) :=
  decidable_of_iff
    (call.Undisturbed ∧ ∀ next ∈ (conversation.onReadReady call).toOption,
      conversation.partition.KeepsSocket next.partition)
    (by
      unfold Undisturbed
      cases conversation.onReadReady call <;> simp [Except.toOption])

/-- An undisturbed call that fails at its first `read` or not at all consumes
nothing, or exactly one frame. -/
theorem onReadReady_undisturbed
    {conversation next : Conversation}
    {call : ReadCall}
    {todo : List Bytes}
    (lengths : ∀ payload ∈ todo, 4 ≤ payload.length ∧ payload.length < 2 ^ 31)
    (stream : conversation.channel.stream = todo.flatMap frame)
    (undisturbed : conversation.Undisturbed call)
    (failsFirst : call.FailsFirst)
    (returned : conversation.onReadReady call = .ok next) :
    next.dispatched = conversation.dispatched ∧
        next.channel.stream = todo.flatMap frame ∨
      ∃ payload later, todo = payload :: later ∧
        next.dispatched = conversation.dispatched ++ [payload] ∧
        next.channel.stream = later.flatMap frame := by
  obtain ⟨undisturbed, keeps⟩ := undisturbed
  have keeps := keeps next returned
  obtain ⟨p, ⟨bytes, errno⟩, coming, dispatched⟩ := conversation
  change bytes = todo.flatMap frame at stream
  subst stream
  obtain ⟨⟨received, channel⟩, receivedOk, continued⟩ := bind_eq_ok.mp returned
  obtain ⟨q, -, finished⟩ := bind_eq_ok.mp continued
  obtain rfl := Except.ok.inj finished
  have stays := follow_of_keepsSocket keeps channel coming dispatched
    received.dispatched
  rw [show follow _ q received.dispatched = _ from stays]
  change Channel.receive ⟨todo.flatMap frame, errno⟩ call.answers = _ at receivedOk
  by_cases fails : ∃ code answers, call.answers = .failed code :: answers
  · obtain ⟨code, answers, failed⟩ := fails
    have unreset : code ≠ econnreset := by
      rintro rfl
      exact (undisturbed (.failed econnreset) (by simp [failed])).2 rfl
    rw [failed, Channel.receive_failed _ _ unreset] at receivedOk
    obtain ⟨rfl, rfl⟩ := Prod.mk.inj (Except.ok.inj receivedOk)
    exact .inl ⟨List.append_nil _, rfl⟩
  · have allData := ReadCall.allData_of_not_failed undisturbed failsFirst fails
    cases todo with
    | nil =>
        rw [List.flatMap_nil, Channel.receive_empty allData] at receivedOk
        cases receivedOk
    | cons payload later =>
        obtain ⟨long, bounded⟩ := lengths payload List.mem_cons_self
        rw [List.flatMap_cons] at receivedOk
        rcases Channel.receive_frame (later.flatMap frame) errno (by omega) bounded
          allData with whole | ⟨-, waits⟩
        · rw [whole] at receivedOk
          obtain ⟨rfl, rfl⟩ := Prod.mk.inj (Except.ok.inj receivedOk)
          exact .inr ⟨payload, later, rfl, rfl, rfl⟩
        · rw [waits] at receivedOk
          cases receivedOk

/-- On a connection that is neither closed nor reset, the payloads that were
dispatched are those of the first frames and what is left are the other frames,
if a `read` fails only before its call has consumed anything. -/
theorem dispatched_prefix_of_frames
    {p : KafkaPartition}
    {payloads coming : List Bytes}
    {errno : Int}
    {calls : List ReadCall}
    {conversation : Conversation}
    (lengths : ∀ payload ∈ payloads,
      4 ≤ payload.length ∧ payload.length < 2 ^ 31)
    (run : Run onReadReady
      (fun state call => state.Undisturbed call ∧ call.FailsFirst)
      ⟨p, ⟨payloads.flatMap frame, errno⟩, coming, []⟩ calls conversation) :
    ∃ todo, conversation.dispatched ++ todo = payloads ∧
      conversation.channel.stream = todo.flatMap frame := by
  apply run.invariant fun _ conversation =>
    ∃ todo, conversation.dispatched ++ todo = payloads ∧
      conversation.channel.stream = todo.flatMap frame
  · exact ⟨payloads, rfl, rfl⟩
  · rintro _ state call next ⟨todo, whole, stream⟩ ⟨undisturbed, failsFirst⟩
      returned
    have remaining : ∀ payload ∈ todo,
        4 ≤ payload.length ∧ payload.length < 2 ^ 31 := by
      intro payload member
      apply lengths
      rw [← whole]
      exact List.mem_append_right _ member
    rcases onReadReady_undisturbed remaining stream undisturbed failsFirst returned
      with ⟨same, rest⟩ | ⟨payload, later, rfl, more, rest⟩
    · exact ⟨todo, by rw [same]; exact whole, rest⟩
    · exact ⟨later, by rw [more]; simpa using whole, rest⟩

/-- The first call is interrupted before it has read anything. -/
theorem dispatched_prefix_of_frames_interrupted :
    ∃ conversation, Run onReadReady
        (fun state call => state.Undisturbed call ∧ call.FailsFirst)
        ⟨sampleConsumer {}, ⟨samplePayloads.flatMap frame, 0⟩, [], []⟩
        ({ answers := [.failed 4] } :: sampleCalls) conversation ∧
      ∃ todo, conversation.dispatched ++ todo = samplePayloads ∧
        conversation.channel.stream = todo.flatMap frame := by
  obtain ⟨conversation, run, -⟩ := exists_run_of_follow onReadReady
    (fun state call => state.Undisturbed call ∧ call.FailsFirst)
    ⟨sampleConsumer {}, ⟨samplePayloads.flatMap frame, 0⟩, [], []⟩
    ({ answers := [.failed 4] } :: sampleCalls) (fun _ => true)
    (by decide +kernel)
  exact ⟨conversation, run, dispatched_prefix_of_frames (by decide) run⟩

/-- A payload within which another frame can be read. -/
def nestedPayload : Bytes := [0, 0, 0, 9, 0, 0, 0, 4, 0, 0, 0, 9]

/-- A signal interrupts a call after the first four bytes of a payload.  They
are forgotten, and the next call takes the following four for a length. -/
theorem frame_within_frame :
    ∃ conversation, Run onReadReady (fun state call => state.Undisturbed call)
        ⟨sampleConsumer {}, ⟨[nestedPayload].flatMap frame, 0⟩, [], []⟩
        [{ answers := [.data 4, .data 4, .failed 4] },
          { answers := [.data 4, .data 4] }] conversation ∧
      ¬ conversation.dispatched <+: [nestedPayload] := by
  obtain ⟨conversation, run, nested⟩ := exists_run_of_follow onReadReady
    (fun state call => state.Undisturbed call)
    ⟨sampleConsumer {}, ⟨[nestedPayload].flatMap frame, 0⟩, [], []⟩
    [{ answers := [.data 4, .data 4, .failed 4] },
      { answers := [.data 4, .data 4] }]
    (fun conversation => conversation.dispatched = [[0, 0, 0, 9]])
    (by decide +kernel)
  refine ⟨conversation, run, ?_⟩
  rw [of_decide_eq_true nested]
  decide

end Conversation
end AsyncKafka
