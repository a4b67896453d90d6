import AsyncKafka.Partition.Handling
import AsyncKafka.Producer.Destruction

/-!
# The sockets of a partition

A partition opens and closes sockets in several places: in its constructor, in
both error paths with their nested reconnects, after a change of the leader and
in its destructor.  Read as an account, its trace shows that none of them is
ever left open or closed twice.
-/

namespace AsyncKafka

open Wire Execution

/-- The socket that is open after an effect, given the one that was open before
it.  There is no account of an effect that opens a second socket or closes
another one than the one that is open; closing `-1` is an error that the kernel
reports and nobody looks at. -/
def Effect.settle (held : Option Int) : Effect → Option (Option Int)
  | .connect fd => if held = none then some (some fd) else none
  | .close fd => if fd = held.getD (-1) then some none else none
  | _ => some held

namespace KafkaPartition

/-- The descriptor of an open socket. -/
def heldSocket (fd : Int) : Option Int := if fd = -1 then none else some fd

/-- The socket that a partition holds. -/
def held (p : KafkaPartition) : Option Int := heldSocket p.sockFd

/-- The account of all that a partition has done with sockets. -/
def socketAccount (p : KafkaPartition) : Option (Option Int) :=
  p.trace.foldlM Effect.settle none

theorem heldSocket_getD (fd : Int) : (heldSocket fd).getD (-1) = fd := by
  unfold heldSocket
  split
  · rename_i absent
    exact absent.symm
  · rfl

/-- Effects that neither open nor close a socket do not matter. -/
theorem foldlM_settle_filter (effects : List Effect) (start : Option Int) :
    effects.foldlM Effect.settle start =
      (effects.filter Effect.isSocket).foldlM Effect.settle start := by
  induction effects generalizing start with
  | nil => rfl
  | cons effect effects inductionHypothesis =>
      cases effect with
      | connect | close =>
          simp only [List.foldlM_cons, List.filter_cons, Effect.isSocket, if_true]
          refine congrArg _ (funext fun next => inductionHypothesis next)
      | write | read | shutdown | receivedData | produceResponse | msgQueued =>
          simp only [List.foldlM_cons, List.filter_cons, Effect.isSocket,
            Bool.false_eq_true, if_false, Effect.settle]
          exact inductionHypothesis start

/-- Orderly actions keep the account when no socket on offer is `-1`. -/
theorem settle_actions
    {offered : List Int}
    (descriptorsOffered : ∀ fd ∈ offered, 0 ≤ fd)
    {descriptors : Descriptors}
    {actions : List Action}
    (orderly : Action.Orderly offered descriptors actions) :
    (Action.effectsAll descriptors actions).foldlM Effect.settle
        (heldSocket (descriptors .socket)) =
      some (heldSocket (Action.applyAll descriptors actions .socket)) := by
  induction actions generalizing descriptors with
  | nil => rfl
  | cons action actions inductionHypothesis =>
      cases action with
      | watch aeventOut => exact inductionHypothesis orderly
      | close =>
          have later := inductionHypothesis orderly
          rw [Function.update_self] at later
          simp only [Action.effectsAll, Action.effects, List.singleton_append,
            List.foldlM_cons, Effect.settle, heldSocket_getD, if_true]
          exact later
      | connect fd =>
          have later := inductionHypothesis orderly.2
          have opened : heldSocket fd = some fd := by
            have valid := descriptorsOffered fd orderly.1.2
            exact if_neg (by omega)
          rw [Function.update_self, opened] at later
          simp only [Action.effectsAll, Action.effects, List.singleton_append,
            List.foldlM_cons, Effect.settle, orderly.1.1]
          exact later
      | arm eventData fd => exact orderly.elim

/-- Actions that settle keep the account of a partition. -/
theorem Acts.account
    {operation : KafkaPartition → Except Halt KafkaPartition}
    {p q : KafkaPartition}
    {actions : List Action}
    (acts : Acts operation p actions q)
    (settled :
      (Action.effectsAll p.descriptors actions).foldlM Effect.settle p.held =
        some (heldSocket (Action.applyAll p.descriptors actions .socket)))
    (before : p.socketAccount = some p.held) :
    q.socketAccount = some q.held := by
  unfold socketAccount at before ⊢
  rw [foldlM_settle_filter] at before ⊢
  change q.sockets.foldlM _ _ = _
  change p.sockets.foldlM _ _ = _ at before
  rw [acts.sockets, List.foldlM_append, before]
  rw [← acts.descriptors] at settled
  exact settled

/-- Calls in which the kernel returns descriptors; only the first one makes a
connection that does not replace another. -/
def Grants (p : KafkaPartition) : Call → Prop
  | .connect fd => p.sockFd = -1 ∧ 0 ≤ fd
  | .event dispatched => ∀ fd ∈ dispatched.offered, 0 ≤ fd
  | _ => True

instance (p : KafkaPartition) : (call : Call) → Decidable (p.Grants call)
  | .connect fd => instDecidableAnd (p := p.sockFd = -1) (q := 0 ≤ fd)
  | .event dispatched => List.decidableBAll (fun fd => 0 ≤ fd) dispatched.offered
  | .offsetRequest => .isTrue trivial
  | .armTimer _ => .isTrue trivial
  | .callbacks _ _ _ => .isTrue trivial
  | .startFetch _ _ => .isTrue trivial
  | .startProduce _ _ _ => .isTrue trivial

/-- The socket actions of a call that is no event. -/
theorem settle_consists
    {p : KafkaPartition}
    {call : Call}
    {actions : List Action}
    (consists : call.Consists p.descriptors actions)
    (grants : p.Grants call) :
    (Action.effectsAll p.descriptors actions).foldlM Effect.settle p.held =
      some (heldSocket (Action.applyAll p.descriptors actions .socket)) := by
  cases call with
  | connect fd =>
      obtain rfl := consists
      obtain ⟨absent, valid⟩ := grants
      have opened : heldSocket fd = some fd := if_neg (by omega)
      have closed : p.held = none := if_pos absent
      simp [Action.effectsAll, Action.effects, Action.applyAll, Action.apply,
        closed, opened, Effect.settle]
  | offsetRequest =>
      obtain rfl := consists
      rfl
  | armTimer fd =>
      obtain rfl := consists
      rfl
  | callbacks onReceivedData onProduceResponse onMsgQueued =>
      obtain rfl := consists
      rfl
  | startFetch eventFd timerFd =>
      obtain rfl := consists
      rfl
  | startProduce eventFd queueFd timerFd =>
      obtain rfl := consists
      rfl
  | event dispatched => exact settle_actions grants consists

/-- Every call keeps the account. -/
theorem perform_account
    {crc32 : Bytes → UInt32}
    {p q : KafkaPartition}
    {call : Call}
    (grants : p.Grants call)
    (performed : perform crc32 p call = .ok q)
    (before : p.socketAccount = some p.held) :
    q.socketAccount = some q.held := by
  obtain ⟨actions, consists, acts⟩ := perform_acts performed
  exact acts.account (settle_consists consists grants) before

/-- What the answers of one call offer comes from the stream of answers. -/
theorem offered_takeOutcome
    {answers : Nat → WriteAnswer}
    {fuel position next : Nat}
    {outcome : WriteOutcome}
    (taken : takeOutcome answers fuel position = some (outcome, next)) :
    ∀ fd ∈ outcome.offered, ∃ earlier, answers earlier = .reset (some fd) := by
  induction fuel generalizing position next outcome with
  | zero => cases taken
  | succ fuel inductionHypothesis =>
      intro fd member
      unfold takeOutcome at taken
      split at taken
      · obtain ⟨rfl, -⟩ := Prod.mk.inj (Option.some.inj taken)
        cases member
      · obtain ⟨rfl, -⟩ := Prod.mk.inj (Option.some.inj taken)
        cases member
      · obtain ⟨rfl, -⟩ := Prod.mk.inj (Option.some.inj taken)
        cases member
      · obtain ⟨rfl, -⟩ := Prod.mk.inj (Option.some.inj taken)
        cases member
      · rename_i offers answered
        obtain ⟨⟨later, after⟩, laterTaken, result⟩ :=
          Option.map_eq_some_iff.mp taken
        obtain ⟨rfl, -⟩ := Prod.mk.inj result
        rcases List.mem_append.mp member with first | inLater
        · obtain rfl : fd = offers := by simpa using first
          exact ⟨position, answered⟩
        · exact inductionHypothesis laterTaken fd inLater

/-- The loop of the destructor keeps the account. -/
theorem flush_account
    {answers : Nat → WriteAnswer}
    (granted : ∀ position fd, answers position = .reset (some fd) → 0 ≤ fd)
    {fuel position : Nat}
    {p q : KafkaPartition}
    (flushed : flush answers fuel position p = some (.ok q))
    (before : p.socketAccount = some p.held) :
    q.socketAccount = some q.held := by
  induction fuel generalizing position p with
  | zero => cases flushed
  | succ fuel inductionHypothesis =>
      unfold flush at flushed
      split at flushed
      · obtain rfl := Except.ok.inj (Option.some.inj flushed)
        exact before
      · split at flushed
        · cases flushed
        · rename_i outcome next taken
          split at flushed
          · cases flushed
          · rename_i written wrote
            obtain ⟨actions, orderly, acts⟩ := onWriteReady_acts wrote
            have valid : ∀ fd ∈ outcome.offered, 0 ≤ fd := by
              intro fd member
              obtain ⟨earlier, answered⟩ := offered_takeOutcome taken fd member
              exact granted earlier fd answered
            exact inductionHypothesis flushed
              (acts.account (settle_actions valid orderly) before)

/-- The destructor closes the socket that is open, if there is one. -/
theorem destroy_account
    {crc32 : Bytes → UInt32}
    {answers : Nat → WriteAnswer}
    (granted : ∀ position fd, answers position = .reset (some fd) → 0 ≤ fd)
    {fuel : Nat}
    {p q : KafkaPartition}
    (destroyed : p.destroy crc32 answers fuel = some (.ok q))
    (before : p.socketAccount = some p.held) :
    q.socketAccount = some none := by
  obtain ⟨result, flushed, finished⟩ := Option.map_eq_some_iff.mp destroyed
  cases result with
  | error halt => cases finished
  | ok last =>
      obtain rfl := Except.ok.inj finished
      have drains : ActsOrderly [] (fun p => .ok (p.createProduceRequest crc32))
          p (p.createProduceRequest crc32) := createProduceRequest_acts crc32 p
      obtain ⟨actions, orderly, acts⟩ := drains
      have drained := acts.account (settle_actions (by simp) orderly) before
      have settled := flush_account granted flushed drained
      unfold socketAccount at settled ⊢
      change (last.trace ++ [Effect.close last.sockFd]).foldlM _ _ = _
      rw [List.foldlM_append, settled]
      simp [held, Effect.settle, heldSocket_getD]

theorem Unborn.account
    {p : KafkaPartition}
    (unborn : Unborn p) :
    p.socketAccount = some p.held := by
  obtain ⟨_, _, _, _, _, _, _, _, rfl⟩ := unborn
  rfl

/-- From the constructor to the destructor the sockets balance: at every moment
the partition has at most one socket open, which is the one in `m_iSockFd`, no
socket is closed that is not open, and after the destructor none is left. -/
theorem sockets_balance
    {crc32 : Bytes → UInt32}
    {start p : KafkaPartition}
    {history : List Call}
    (unborn : Unborn start)
    (run : Run (perform crc32) Grants start history p) :
    p.socketAccount = some p.held ∧
      ∀ answers fuel q,
        (∀ position fd, answers position = .reset (some fd) → 0 ≤ fd) →
        p.destroy crc32 answers fuel = some (.ok q) →
        q.socketAccount = some none := by
  have balanced : p.socketAccount = some p.held := by
    apply run.invariant fun _ p => p.socketAccount = some p.held
    · exact unborn.account
    · intro _ state call next before grants performed
      exact perform_account grants performed before
  exact ⟨balanced, fun _ _ _ granted destroyed =>
    destroy_account granted destroyed balanced⟩

/-- A producer that loses its connection in writing, once more while it tells
the next broker what it wants to know, and then in reading. -/
def unluckyCalls : List Call :=
  [.connect 5, .event .metadataTimer,
    .event (.writeReady (.reset (some 6) (.reset (some 5) .written))),
    .event (.readReady .closed { connect := some 9 }), .startProduce 6 7 8]

/-- It has opened four sockets and closed three, and its destructor, which loses
the connection once more, closes all that is left. -/
theorem sockets_balance_unlucky :
    ∃ p q, Run (perform Crc32.checksum) Grants (sampleUnborn .producer)
        unluckyCalls p ∧
      p.sockets = [.connect 5, .close 5, .connect 6, .close 6, .connect 5,
        .close 5, .connect 9] ∧
      p.socketAccount = some (some 9) ∧
      p.destroy Crc32.checksum
        (fun position => if position = 0 then .reset (some 5) else .written) 9 =
          some (.ok q) ∧
      q.socketAccount = some none := by
  let answers := fun position => if position = 0 then
    WriteAnswer.reset (some 5) else .written
  obtain ⟨p, run, checked⟩ := exists_run_of_follow (perform Crc32.checksum)
    Grants (sampleUnborn .producer) unluckyCalls
    (fun p => p.sockets = [.connect 5, .close 5, .connect 6, .close 6,
        .connect 5, .close 5, .connect 9] ∧ p.held = some 9 ∧
      ((p.destroy Crc32.checksum answers 9).any
        fun result => result.toOption.isSome) = true)
    (by decide +kernel)
  obtain ⟨sockets, held, ends⟩ := of_decide_eq_true checked
  obtain ⟨balanced, settles⟩ :=
    sockets_balance (sampleUnborn_unborn .producer) run
  rw [held] at balanced
  have granted : ∀ position fd, answers position = .reset (some fd) →
      0 ≤ fd := by
    intro position fd answered
    simp only [answers] at answered
    split at answered
    · simp only [WriteAnswer.reset.injEq, Option.some.injEq] at answered
      omega
    · cases answered
  obtain ⟨result, destroyed, returned⟩ := (Option.any_eq_true _ _).mp ends
  cases result with
  | error halt => cases returned
  | ok q =>
      exact ⟨p, q, run, sockets, balanced, destroyed,
        settles answers 9 q granted destroyed⟩

end KafkaPartition
end AsyncKafka
