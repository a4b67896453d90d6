import AsyncKafka.Partition.Life
import AsyncKafka.Registrations

/-!
# What a partition does with descriptors

All that a partition does with descriptors is a sequence of four actions: it
registers its socket anew, closes it, takes over a new one, or arms a new event
source.  Each action is one call of the reactor.  `Acts` says of an operation
that it is such a sequence and does the same whatever the reactor holds; the
reactor and the kernel are then reasoned about through the actions alone.
-/

namespace AsyncKafka

open Wire ByteOrder Execution

/-- The descriptor of every event source, `-1` for none. -/
abbrev Descriptors := EventData → Int

/-- What a partition does with its descriptors. -/
inductive Action
  /-- The socket is registered anew, for reading and perhaps for writing. -/
  | watch (aeventOut : Bool)
  /-- The socket is unregistered and closed. -/
  | close
  /-- The socket that `connectServer` returned is registered. -/
  | connect (fd : Int)
  /-- A new descriptor of another event source is registered. -/
  | arm (eventData : EventData) (fd : Int)
  deriving DecidableEq, Repr

namespace Action

/-- The descriptors after an action. -/
def apply (descriptors : Descriptors) : Action → Descriptors
  | .watch _ => descriptors
  | .close => Function.update descriptors .socket (-1)
  | .connect fd => Function.update descriptors .socket fd
  | .arm eventData fd => Function.update descriptors eventData fd

/-- The call of the reactor that an action is. -/
def call (descriptors : Descriptors) : Action → ReactorCall EventData
  | .watch aeventOut =>
      .register (descriptors .socket) .socket ⟨true, aeventOut⟩ false true
  | .close => .unregister (descriptors .socket)
  | .connect fd => .register fd .socket ⟨true, true⟩ false false
  | .arm eventData fd => .register fd eventData ⟨true, false⟩ false false

/-- The effect of an action on the sockets of the process. -/
def effects (descriptors : Descriptors) : Action → List Effect
  | .close => [.close (descriptors .socket)]
  | .connect fd => [.connect fd]
  | _ => []

/-- The descriptors after some actions. -/
def applyAll (descriptors : Descriptors) (actions : List Action) :
    Descriptors :=
  actions.foldl apply descriptors

/-- The calls that some actions are. -/
def calls : Descriptors → List Action → List (ReactorCall EventData)
  | _, [] => []
  | descriptors, action :: actions =>
      action.call descriptors :: calls (action.apply descriptors) actions

/-- The effects of some actions. -/
def effectsAll : Descriptors → List Action → List Effect
  | _, [] => []
  | descriptors, action :: actions =>
      action.effects descriptors ++
        effectsAll (action.apply descriptors) actions

/-- Only a partition without a socket takes over a new one, and that is one of
the descriptors that the surroundings have to offer. -/
def Orderly (offered : List Int) : Descriptors → List Action → Prop
  | _, [] => True
  | descriptors, .watch _ :: actions => Orderly offered descriptors actions
  | descriptors, .close :: actions =>
      Orderly offered (Function.update descriptors .socket (-1)) actions
  | descriptors, .connect fd :: actions =>
      (descriptors .socket = -1 ∧ fd ∈ offered) ∧
        Orderly offered (Function.update descriptors .socket fd) actions
  | _, .arm _ _ :: _ => False

theorem calls_append
    (descriptors : Descriptors)
    (first second : List Action) :
    calls descriptors (first ++ second) =
      calls descriptors first ++ calls (applyAll descriptors first) second := by
  induction first generalizing descriptors with
  | nil => rfl
  | cons action first inductionHypothesis =>
      simp only [List.cons_append, calls, inductionHypothesis]
      rfl

theorem effectsAll_append
    (descriptors : Descriptors)
    (first second : List Action) :
    effectsAll descriptors (first ++ second) =
      effectsAll descriptors first ++
        effectsAll (applyAll descriptors first) second := by
  induction first generalizing descriptors with
  | nil => rfl
  | cons action first inductionHypothesis =>
      simp only [List.cons_append, effectsAll, inductionHypothesis,
        List.append_assoc]
      rfl

theorem Orderly.append
    {offered : List Int}
    {descriptors : Descriptors}
    {first second : List Action}
    (before : Orderly offered descriptors first)
    (after : Orderly offered (applyAll descriptors first) second) :
    Orderly offered descriptors (first ++ second) := by
  induction first generalizing descriptors with
  | nil => exact after
  | cons action first inductionHypothesis =>
      cases action with
      | watch aeventOut => exact inductionHypothesis before after
      | close => exact inductionHypothesis before after
      | connect fd => exact ⟨before.1, inductionHypothesis before.2 after⟩
      | arm eventData fd => exact before.elim

/-- With more descriptors on offer no action is ruled out. -/
theorem Orderly.mono
    {few many : List Int}
    (more : few ⊆ many)
    {descriptors : Descriptors}
    {actions : List Action}
    (orderly : Orderly few descriptors actions) :
    Orderly many descriptors actions := by
  induction actions generalizing descriptors with
  | nil => trivial
  | cons action actions inductionHypothesis =>
      cases action with
      | watch aeventOut => exact inductionHypothesis orderly
      | close => exact inductionHypothesis orderly
      | connect fd =>
          exact ⟨⟨orderly.1.1, more orderly.1.2⟩,
            inductionHypothesis orderly.2⟩
      | arm eventData fd => exact orderly.elim

end Action

namespace KafkaPartition

/-- `selectFd` of each event source. -/
def descriptors (p : KafkaPartition) : Descriptors
  | .socket => p.sockFd
  | .produceEvent => p.produceEvent.wakeupFd
  | .produceMsgQEvent => p.produceMsgQEvent.wakeupFd
  | .fetchEvent => p.fetchEvent.wakeupFd
  | .mdTimerEvent => p.mdTimerEvent.timerFd
  | .ocTimerEvent => p.ocTimerEvent.timerFd
  | .pReqTimerEvent => p.pReqTimerEvent.timerFd

/-- The partition with another reactor. -/
def withReactor (p : KafkaPartition) (reactor : LibeventReactor) :
    KafkaPartition :=
  { p with reactor }

/-- The sockets that a partition has opened and closed. -/
def sockets (p : KafkaPartition) : List Effect := p.trace.filter Effect.isSocket

/-- An operation takes `p` to `q` through some actions, with every reactor. -/
structure Acts
    (operation : KafkaPartition → Except Halt KafkaPartition)
    (p : KafkaPartition)
    (actions : List Action)
    (q : KafkaPartition) : Prop where
  descriptors : q.descriptors = Action.applyAll p.descriptors actions
  sockets : q.sockets = p.sockets ++ Action.effectsAll p.descriptors actions
  oblivious : ∀ reactor, operation (p.withReactor reactor) =
    .ok (q.withReactor
      ((Action.calls p.descriptors actions).foldl LibeventReactor.perform
        reactor))

/-- An operation takes `p` to `q` through orderly actions on the socket. -/
def ActsOrderly
    (offered : List Int)
    (operation : KafkaPartition → Except Halt KafkaPartition)
    (p q : KafkaPartition) : Prop :=
  ∃ actions, Action.Orderly offered p.descriptors actions ∧
    Acts operation p actions q

namespace Acts

/-- Operations in sequence act in sequence. -/
theorem bind
    {first second : KafkaPartition → Except Halt KafkaPartition}
    {p q r : KafkaPartition}
    {before after : List Action}
    (firstly : Acts first p before q)
    (secondly : Acts second q after r) :
    Acts (fun p => first p >>= second) p (before ++ after) r := by
  refine ⟨?_, ?_, fun reactor => ?_⟩
  · rw [secondly.descriptors, firstly.descriptors, Action.applyAll,
      Action.applyAll, ← List.foldl_append]
    rfl
  · rw [secondly.sockets, firstly.sockets, Action.effectsAll_append,
      List.append_assoc, firstly.descriptors]
  · rw [firstly.oblivious, ok_bind, secondly.oblivious, Action.calls_append,
      List.foldl_append, firstly.descriptors]

/-- What an operation does is what another one does that agrees with it. -/
theorem congr
    {operation other : KafkaPartition → Except Halt KafkaPartition}
    {p q : KafkaPartition}
    {actions : List Action}
    (same : ∀ reactor,
      operation (p.withReactor reactor) = other (p.withReactor reactor))
    (acts : Acts other p actions q) :
    Acts operation p actions q :=
  ⟨acts.descriptors, acts.sockets,
    fun reactor => (same reactor).trans (acts.oblivious reactor)⟩

/-- An operation that leaves descriptors, sockets and reactor alone. -/
theorem quiet
    {operation : KafkaPartition → Except Halt KafkaPartition}
    {p q : KafkaPartition}
    (descriptors : q.descriptors = p.descriptors)
    (sockets : q.sockets = p.sockets)
    (oblivious : ∀ reactor,
      operation (p.withReactor reactor) = .ok (q.withReactor reactor)) :
    Acts operation p [] q :=
  ⟨descriptors, by rw [sockets, Action.effectsAll, List.append_nil], oblivious⟩

/-- Registering the socket anew. -/
theorem watch (p : KafkaPartition) (aeventOut : Bool) :
    Acts (fun p => .ok (p.registerSocket ⟨true, aeventOut⟩ true)) p
      [.watch aeventOut] (p.registerSocket ⟨true, aeventOut⟩ true) :=
  ⟨rfl, (List.append_nil _).symm, fun _ => rfl⟩

/-- The descriptors without the socket. -/
theorem descriptors_setSocket (p : KafkaPartition) (fd : Int) :
    KafkaPartition.descriptors { p with sockFd := fd } =
      Function.update p.descriptors .socket fd := by
  funext eventData
  cases eventData <;> simp [KafkaPartition.descriptors, Function.update]

/-- Closing the socket and going over to another leader. -/
theorem close (p : KafkaPartition) (leader : KafkaBroker) :
    Acts (fun p => .ok { p.closeSocket with leader }) p [.close]
      { p.closeSocket with leader } := by
  refine ⟨descriptors_setSocket p (-1), ?_, fun _ => rfl⟩
  change (p.trace ++ [Effect.close p.sockFd]).filter Effect.isSocket = _
  rw [List.filter_append]
  rfl

/-- Taking over a new socket. -/
theorem connect (p : KafkaPartition) (fd : Int) :
    Acts (fun p => .ok (p.connectLeader fd)) p [.connect fd]
      (p.connectLeader fd) := by
  refine ⟨descriptors_setSocket p fd, ?_, fun _ => rfl⟩
  change (p.trace ++ [Effect.connect fd]).filter Effect.isSocket = _
  rw [List.filter_append]
  rfl

/-- Recording something else than the opening or closing of a socket. -/
theorem record
    (p : KafkaPartition)
    {effect : Effect}
    (other : effect.isSocket = false) :
    Acts (fun p => .ok (p.record effect)) p [] (p.record effect) := by
  refine .quiet rfl ?_ fun _ => rfl
  change (p.trace ++ [effect]).filter Effect.isSocket = _
  rw [List.filter_append]
  simp [other, KafkaPartition.sockets]

end Acts

namespace ActsOrderly

variable {offered : List Int}
  {operation first second : KafkaPartition → Except Halt KafkaPartition}
  {p q r : KafkaPartition}

theorem bind
    (before : ActsOrderly offered first p q)
    (after : ActsOrderly offered second q r) :
    ActsOrderly offered (fun p => first p >>= second) p r := by
  obtain ⟨actions, orderly, acts⟩ := before
  obtain ⟨more, orderlyMore, actsMore⟩ := after
  refine ⟨actions ++ more, orderly.append ?_, acts.bind actsMore⟩
  rw [← acts.descriptors]
  exact orderlyMore

theorem mono
    {fewer : List Int}
    (more : fewer ⊆ offered)
    (acts : ActsOrderly fewer operation p q) :
    ActsOrderly offered operation p q := by
  obtain ⟨actions, orderly, acts⟩ := acts
  exact ⟨actions, orderly.mono more, acts⟩

theorem congr
    {other : KafkaPartition → Except Halt KafkaPartition}
    (same : ∀ reactor,
      operation (p.withReactor reactor) = other (p.withReactor reactor))
    (acts : ActsOrderly offered other p q) :
    ActsOrderly offered operation p q := by
  obtain ⟨actions, orderly, acts⟩ := acts
  exact ⟨actions, orderly, acts.congr same⟩

theorem quiet (acts : Acts operation p [] q) :
    ActsOrderly offered operation p q :=
  ⟨[], trivial, acts⟩

theorem watch (p : KafkaPartition) (aeventOut : Bool) :
    ActsOrderly offered
      (fun p => .ok (p.registerSocket ⟨true, aeventOut⟩ true)) p
      (p.registerSocket ⟨true, aeventOut⟩ true) :=
  ⟨[.watch aeventOut], trivial, .watch p aeventOut⟩

/-- Closing the socket, going over to another leader and taking over the socket
of the connection to it. -/
theorem reconnect
    (p : KafkaPartition)
    (leader : KafkaBroker)
    {fd : Int}
    (offers : fd ∈ offered) :
    ActsOrderly offered
      (fun p => .ok ({ p.closeSocket with leader }.connectLeader fd)) p
      ({ p.closeSocket with leader }.connectLeader fd) := by
  refine ⟨[.close, .connect fd], ⟨⟨?_, offers⟩, trivial⟩,
    (Acts.close p leader).bind (.connect _ fd)⟩
  rw [Function.update_self]

/-- Closing the socket without being able to replace it. -/
theorem disconnect (p : KafkaPartition) (leader : KafkaBroker) :
    ActsOrderly offered
      (fun p => .ok ({ p.closeSocket with leader }.record .shutdown)) p
      ({ p.closeSocket with leader }.record .shutdown) :=
  ⟨[.close], trivial, (Acts.close p leader).bind (.record _ rfl)⟩

end ActsOrderly

end KafkaPartition
end AsyncKafka
