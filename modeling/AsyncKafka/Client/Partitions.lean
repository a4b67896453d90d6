import AsyncKafka.Client.Reactor

/-!
# The partitions of a client

All partitions of a client, with the reactor that they share, as one machine:
in each step one of them takes a call.  The first result is that they do not
notice each other, the second that the reactor dispatches every event to the
partition whose descriptor is ready.
-/

namespace AsyncKafka

open Wire Execution Sharing

/-- A partition reaches the reactor through its reference `m_reactor`. -/
def reactorAccess : Access KafkaPartition LibeventReactor where
  get := KafkaPartition.reactor
  put := KafkaPartition.withReactor
  put_get _ := rfl
  put_put _ _ _ := rfl

def reactorCustody (κ : Type) : Custody κ LibeventReactor (SharedReactor κ) where
  load := SharedReactor.reactor
  store := SharedReactor.store

/-- The partitions of a client with the reactor that they share. -/
abbrev Partitions (κ : Type) := Joint κ KafkaPartition (SharedReactor κ)

namespace KafkaPartition

/-- No call does anything that depends on the reactor. -/
theorem perform_oblivious (crc32 : Bytes → UInt32) :
    Oblivious reactorAccess (perform crc32) := by
  intro p reactor call q performed
  obtain ⟨actions, -, acts⟩ := perform_acts performed
  exact ⟨_, acts.oblivious reactor⟩

/-- The reactor after an operation that consists of actions. -/
theorem Acts.reactor
    {operation : KafkaPartition → Except Halt KafkaPartition}
    {p q : KafkaPartition}
    {actions : List Action}
    (acts : Acts operation p actions q)
    (performed : operation p = .ok q) :
    q.reactor =
      (Action.calls p.descriptors actions).foldl LibeventReactor.perform
        p.reactor := by
  have again := acts.oblivious p.reactor
  change operation p = _ at again
  rw [performed] at again
  exact congrArg KafkaPartition.reactor (Except.ok.inj again)

end KafkaPartition

namespace Partitions

variable {κ : Type} [DecidableEq κ]

/-- One of the partitions takes a call. -/
def step (crc32 : Bytes → UInt32) :
    Partitions κ → κ × KafkaPartition.Call → Except Halt (Partitions κ) :=
  Joint.step reactorAccess (reactorCustody κ) (KafkaPartition.perform crc32)

/-- The descriptors of all partitions. -/
def descriptors (partitions : Partitions κ) : AllDescriptors κ :=
  fun name => (partitions.machines name).descriptors

/-- In every run each partition of a client is, but for the reactor, in the
state to which its own calls lead a partition that has a reactor of its own, and
the next call of it returns if and only if it returns there. -/
theorem partitions_run_alone
    {crc32 : Bytes → UInt32}
    {allowed : Partitions κ → κ × KafkaPartition.Call → Prop}
    {permitted : KafkaPartition → KafkaPartition.Call → Prop}
    (permits : ∀ partitions input, allowed partitions input →
      permitted (partitions.machines input.1) input.2)
    (blind : ∀ p reactor call,
      permitted (KafkaPartition.withReactor p reactor) call → permitted p call)
    {start partitions : Partitions κ}
    {history : List (κ × KafkaPartition.Call)}
    (run : Run (step crc32) allowed start history partitions)
    (name : κ) :
    ∃ p, Run (KafkaPartition.perform crc32) permitted (start.machines name)
        (inputsOf name history) p ∧
      partitions.machines name =
        p.withReactor (partitions.machines name).reactor ∧
      ∀ call, (∃ next, step crc32 partitions (name, call) = .ok next) ↔
        ∃ q, KafkaPartition.perform crc32 p call = .ok q := by
  have oblivious := KafkaPartition.perform_oblivious crc32
  obtain ⟨p, reactor, alone, same⟩ :=
    run_alone oblivious permits blind run name
  refine ⟨p, alone, by rw [same]; rfl, fun call => ?_⟩
  constructor
  · rintro ⟨next, stepped⟩
    obtain ⟨q, performed, -⟩ := Joint.step_cases stepped
    dsimp only at performed
    rw [same, reactorAccess.put_put] at performed
    obtain ⟨after, solo, -⟩ := oblivious.alone performed
    exact ⟨after, solo⟩
  · rintro ⟨q, performed⟩
    obtain ⟨after, beside⟩ := oblivious p partitions.shared.reactor call q performed
    have taken : KafkaPartition.perform crc32
        (reactorAccess.put (partitions.machines name)
          partitions.shared.reactor) call =
        .ok (reactorAccess.put q after) := by
      rw [same, reactorAccess.put_put]
      exact beside
    exact ⟨_, bind_eq_ok.mpr ⟨_, taken, rfl⟩⟩

/-- A producer for two partitions before its constructor. -/
def twoUnborn : Partitions (Fin 2) :=
  { shared := {}, machines := fun _ => KafkaPartition.sampleUnborn .producer }

/-- Both partitions are connected and started, and the first one loses its
connection and is given the number of the closed socket again. -/
def twoCalls : List (Fin 2 × KafkaPartition.Call) :=
  [(0, .connect 3), (1, .connect 4), (0, .startProduce 5 6 7),
    (1, .startProduce 8 9 10), (0, .event .metadataTimer),
    (1, .event (.produce [1])),
    (0, .event (.writeReady (.reset (some 3) .written))),
    (1, .event .batchTimer)]

/-- What the second partition does is what a producer does alone that takes
four calls. -/
theorem second_runs_alone :
    ∃ partitions p,
      Run (step Crc32.checksum)
        (fun partitions input =>
          (partitions.machines input.1).partitionType = .producer)
        twoUnborn twoCalls partitions ∧
      Run (KafkaPartition.perform Crc32.checksum)
        (fun p _ => p.partitionType = .producer)
        (KafkaPartition.sampleUnborn .producer)
        [.connect 4, .startProduce 8 9 10, .event (.produce [1]),
          .event .batchTimer] p ∧
      partitions.machines 1 =
        p.withReactor (partitions.machines 1).reactor := by
  obtain ⟨partitions, run, -⟩ := exists_run_of_follow (step Crc32.checksum)
    (fun partitions input =>
      (partitions.machines input.1).partitionType = .producer)
    twoUnborn twoCalls (fun _ => true) (by decide +kernel)
  let permitted (p : KafkaPartition) (_ : KafkaPartition.Call) : Prop :=
    p.partitionType = .producer
  have blind : ∀ p reactor call,
      permitted (KafkaPartition.withReactor p reactor) call →
        permitted p call := fun _ _ _ producer => producer
  obtain ⟨p, alone, same, -⟩ :=
    partitions_run_alone (fun _ _ producer => producer) blind run 1
  exact ⟨partitions, p, run, alone, same⟩

/-- The kernel returns only descriptors that are not open. -/
def Grants (partitions : Partitions κ) (input : κ × KafkaPartition.Call) : Prop :=
  partitions.descriptors.Grants input.1 input.2

instance
    [Fintype κ]
    (partitions : Partitions κ)
    (input : κ × KafkaPartition.Call) : Decidable (partitions.Grants input) :=
  inferInstanceAs (Decidable (partitions.descriptors.Grants input.1 input.2))

/-- The partitions before their constructors, with a reactor that is new. -/
structure Unborn (partitions : Partitions κ) : Prop where
  shared : partitions.shared = {}
  machines : ∀ name, KafkaPartition.Unborn (partitions.machines name)

/-- Without event sources nothing is registered. -/
theorem Unborn.wired
    {partitions : Partitions κ}
    (unborn : Unborn partitions) :
    Wired partitions.shared partitions.descriptors := by
  have none (name : κ) (eventData : EventData) :
      partitions.descriptors name eventData = -1 := by
    obtain ⟨_, _, _, _, _, _, _, _, same⟩ := unborn.machines name
    unfold descriptors
    rw [same]
    cases eventData <;> rfl
  rw [unborn.shared]
  refine ⟨⟨[], .start⟩, rfl, fun name eventData => .inl (none name eventData),
    ?_, ?_, ?_⟩
  · intro name eventData opened
    rw [none] at opened
    omega
  · intro fd event _ found
    cases found
  · intro name eventData opened
    rw [none] at opened
    omega

/-- Every step with descriptors that the kernel grants keeps events and event
sources together. -/
theorem step_wired
    {crc32 : Bytes → UInt32}
    {partitions after : Partitions κ}
    {input : κ × KafkaPartition.Call}
    (wired : Wired partitions.shared partitions.descriptors)
    (grants : partitions.Grants input)
    (stepped : step crc32 partitions input = .ok after) :
    Wired after.shared after.descriptors := by
  obtain ⟨name, call⟩ := input
  obtain ⟨q, performed, shared, machines⟩ := Joint.step_cases stepped
  obtain ⟨actions, consists, acts⟩ := KafkaPartition.perform_acts performed
  have next := wired.consists grants consists
  have descriptors : after.descriptors = AllDescriptors.replace
      partitions.descriptors name
      (Action.applyAll (partitions.descriptors name) actions) := by
    funext other
    unfold Partitions.descriptors AllDescriptors.replace
    rw [machines]
    by_cases own : other = name
    · subst own
      rw [Function.update_self, Function.update_self]
      exact acts.descriptors
    · rw [Function.update_of_ne own, Function.update_of_ne own]
  have sharedAfter : after.shared =
      (Action.calls (partitions.descriptors name) actions).foldl
        (SharedReactor.performAs name) partitions.shared := by
    rw [shared, ← SharedReactor.store_foldl wired.owned]
    exact congrArg _ (acts.reactor performed)
  rw [descriptors, sharedAfter]
  exact next

/-- In every run with an honest kernel events and event sources belong
together. -/
theorem run_wired
    {crc32 : Bytes → UInt32}
    {start partitions : Partitions κ}
    {history : List (κ × KafkaPartition.Call)}
    (unborn : Unborn start)
    (run : Run (step crc32) Grants start history partitions) :
    Wired partitions.shared partitions.descriptors := by
  apply run.invariant fun _ partitions =>
    Wired partitions.shared partitions.descriptors
  · exact unborn.wired
  · intro _ partitions input after before grants stepped
    exact step_wired before grants stepped

theorem twoUnborn_unborn : Unborn twoUnborn :=
  ⟨rfl, fun _ => KafkaPartition.sampleUnborn_unborn .producer⟩

/-- What the client counts on.  The table of the reactor is exact, no two event
sources have one descriptor, every event that can become ready belongs to the
one partition that has its descriptor, and every open event source is read. -/
structure Served (partitions : Partitions κ) : Prop where
  exact : partitions.shared.reactor.Exact
  single : ∀ name eventData, 0 ≤ partitions.descriptors name eventData →
    partitions.descriptors.FreeFor name eventData
      (partitions.descriptors name eventData)
  owned : ∀ event ∈ partitions.shared.reactor.live, 0 ≤ event.fd →
    ∃ name, partitions.shared.owner event = some name ∧
      partitions.descriptors name event.eventData = event.fd
  read : ∀ name eventData, 0 ≤ partitions.descriptors name eventData →
    ∃ event ∈ partitions.shared.reactor.live,
      event.fd = partitions.descriptors name eventData ∧
      partitions.shared.owner event = some name ∧
      event.eventData = eventData ∧ event.evRead = true

/-- An event of the reactor is in the table under its descriptor. -/
theorem lookup_of_live
    {calls : List (ReactorCall EventData)}
    {reactor : LibeventReactor}
    (kept : LibeventReactor.Kept calls reactor)
    {event : LibEvent}
    (live : event ∈ reactor.live) :
    reactor.events.lookup event.fd = some event := by
  rw [kept.live] at live
  obtain ⟨entry, member, rfl⟩ := List.mem_map.mp live
  rw [kept.keys entry member]
  exact (Table.lookup_eq_some_iff_mem kept.distinct).mpr member

/-- In every run of the partitions of a client, whatever the order of their
calls, the reactor serves all of them, as long as the kernel returns no
descriptor that is open. -/
theorem reactor_serves_partitions
    {crc32 : Bytes → UInt32}
    {start partitions : Partitions κ}
    {history : List (κ × KafkaPartition.Call)}
    (unborn : Unborn start)
    (run : Run (step crc32) Grants start history partitions) :
    Served partitions := by
  have wired := run_wired unborn run
  obtain ⟨calls, kept⟩ := wired.kept
  refine ⟨kept.accounts.exact, wired.single, ?_, ?_⟩
  · intro event live valid
    obtain ⟨name, owns, held, -⟩ :=
      wired.routed event.fd event valid (lookup_of_live kept live)
    exact ⟨name, owns, held⟩
  · intro name eventData opened
    obtain ⟨event, found, owns, same, reads, -⟩ :=
      wired.watched name eventData opened
    have member := (Table.lookup_eq_some_iff_mem kept.distinct).mp found
    refine ⟨event, ?_, kept.keys _ member, owns, same, reads⟩
    rw [kept.live]
    exact List.mem_map.mpr ⟨_, member, rfl⟩

/-- Eight events for the two sockets and the six other sources. -/
theorem reactor_serves_two :
    ∃ partitions,
      Run (step Crc32.checksum) Grants twoUnborn twoCalls partitions ∧
        partitions.shared.reactor.live.length = 8 ∧ Served partitions := by
  obtain ⟨partitions, run, checked⟩ := exists_run_of_follow
    (step Crc32.checksum) Grants twoUnborn twoCalls
    (fun partitions => partitions.shared.reactor.live.length = 8)
    (by decide +kernel)
  exact ⟨partitions, run, of_decide_eq_true checked,
    reactor_serves_partitions twoUnborn_unborn run⟩

end Partitions

/-- What the loop of libevent reports about a descriptor, with what the
surroundings answer to the callback. -/
structure Report where
  what : EventFlags
  received : KafkaPartition.ReadOutcome := .failed
  surroundings : KafkaPartition.Surroundings := {}
  outcome : KafkaPartition.WriteOutcome := .written
  deriving DecidableEq, Repr

/-- libevent reports at least one of the flags that an event was created for,
and no other. -/
structure Report.Possible (report : Report) (event : LibEvent) : Prop where
  some : report.what.aeventIn = true ∨ report.what.aeventOut = true
  reads : report.what.aeventIn = true → event.evRead = true
  writes : report.what.aeventOut = true → event.evWrite = true

namespace KafkaPartition

/-- The callback of the socket. -/
def handleEvent (p : KafkaPartition) (fd : Int) (report : Report) :
    Except Halt KafkaPartition :=
  if fd ≠ p.sockFd then .ok p
  else if report.what.aeventIn then
    p.onReadReady report.received report.surroundings
  else if report.what.aeventOut then p.onWriteReady report.outcome
  else .ok p

/-- The callback of a wakeup or a timer.  It reads its own descriptor, whatever
the descriptor is that was reported. -/
def handleSource
    (crc32 : Bytes → UInt32)
    (p : KafkaPartition)
    (event : Event)
    (report : Report) : Except Halt KafkaPartition :=
  if report.what.aeventIn then step crc32 p event else .ok p

/-- The callbacks of all event sources. -/
def callback (crc32 : Bytes → UInt32) (p : KafkaPartition) :
    EventData × Int × Report → Except Halt KafkaPartition
  | (.socket, fd, report) => p.handleEvent fd report
  | (.produceEvent, _, report) => p.handleSource crc32 .produceEvent report
  | (.produceMsgQEvent, _, report) =>
      p.handleSource crc32 .produceMsgQEvent report
  | (.fetchEvent, _, report) => p.handleSource crc32 .fetchEvent report
  | (.mdTimerEvent, _, report) => p.handleSource crc32 .metadataTimer report
  | (.ocTimerEvent, _, report) => p.handleSource crc32 .commitTimer report
  | (.pReqTimerEvent, _, report) => p.handleSource crc32 .batchTimer report

end KafkaPartition

/-- The event that a report is for the source it concerns. -/
def Report.event (report : Report) : EventData → KafkaPartition.Event
  | .socket =>
      if report.what.aeventIn then
        .readReady report.received report.surroundings
      else .writeReady report.outcome
  | .produceEvent => .produceEvent
  | .produceMsgQEvent => .produceMsgQEvent
  | .fetchEvent => .fetchEvent
  | .mdTimerEvent => .metadataTimer
  | .ocTimerEvent => .commitTimer
  | .pReqTimerEvent => .batchTimer

namespace Partitions

variable {κ : Type} [DecidableEq κ]

/-- Call back the object that an event carries. -/
def dispatchEvents
    (crc32 : Bytes → UInt32)
    (partitions : Partitions κ)
    (event : LibEvent)
    (report : Report) : Except Halt (Partitions κ) :=
  match partitions.shared.owner event with
  | none => .error .undefinedBehaviour
  | some name =>
      Joint.step reactorAccess (reactorCustody κ)
        (KafkaPartition.callback crc32) partitions
        (name, event.eventData, event.fd, report)

/-- A callback with the descriptor of its source is the event of the source. -/
theorem callback_own
    {crc32 : Bytes → UInt32}
    {p : KafkaPartition}
    {eventData : EventData}
    {report : Report}
    (reported : report.what.aeventIn = true ∨ report.what.aeventOut = true)
    (socketOnly : report.what.aeventOut = true → eventData = .socket) :
    p.callback crc32 (eventData, p.descriptors eventData, report) =
      KafkaPartition.perform crc32 p (.event (report.event eventData)) := by
  have reads (other : eventData ≠ .socket) : report.what.aeventIn = true :=
    reported.resolve_right fun writes => other (socketOnly writes)
  cases eventData with
  | socket =>
      have own : p.descriptors .socket = p.sockFd := rfl
      simp only [KafkaPartition.callback, KafkaPartition.handleEvent, own, ne_eq,
        not_true_eq_false, if_false, Report.event]
      cases readable : report.what.aeventIn with
      | true => rfl
      | false =>
          have writes := reported.resolve_left (by simp [readable])
          simp only [Bool.false_eq_true, if_false, writes, if_true]
          rfl
  | produceEvent => exact if_pos (reads (by decide))
  | produceMsgQEvent => exact if_pos (reads (by decide))
  | fetchEvent => exact if_pos (reads (by decide))
  | mdTimerEvent => exact if_pos (reads (by decide))
  | ocTimerEvent => exact if_pos (reads (by decide))
  | pReqTimerEvent => exact if_pos (reads (by decide))

/-- In every run with an honest kernel every event that can become ready is
dispatched to the partition that has its descriptor, and there to the handler
of the source: no report is dropped by the guard of `handleEvent`, and none
reaches another partition. -/
theorem dispatch_reaches_owner
    {crc32 : Bytes → UInt32}
    {start partitions : Partitions κ}
    {history : List (κ × KafkaPartition.Call)}
    (unborn : Unborn start)
    (run : Run (step crc32) Grants start history partitions)
    {event : LibEvent}
    (live : event ∈ partitions.shared.reactor.live)
    (valid : 0 ≤ event.fd)
    {report : Report}
    (possible : report.Possible event) :
    ∃ name,
      partitions.descriptors name event.eventData = event.fd ∧
      partitions.dispatchEvents crc32 event report =
        step crc32 partitions (name, .event (report.event event.eventData)) := by
  have wired := run_wired unborn run
  obtain ⟨calls, kept⟩ := wired.kept
  obtain ⟨name, owns, held, socketOnly⟩ :=
    wired.routed event.fd event valid (lookup_of_live kept live)
  refine ⟨name, held, ?_⟩
  unfold dispatchEvents step Joint.step
  rw [owns]
  dsimp only
  rw [← held]
  exact congrArg (· >>= _) (callback_own possible.some fun writes =>
    socketOnly (possible.writes writes))

/-- The socket of the second partition can be written to. -/
theorem dispatch_reaches_second :
    ∃ partitions event,
      Run (step Crc32.checksum) Grants twoUnborn twoCalls partitions ∧
      event ∈ partitions.shared.reactor.live ∧ event.fd = 4 ∧
      ∃ name, partitions.descriptors name event.eventData = event.fd ∧
        partitions.dispatchEvents Crc32.checksum event { what := ⟨false, true⟩ } =
          step Crc32.checksum partitions
            (name, .event
              (Report.event { what := ⟨false, true⟩ } event.eventData)) := by
  obtain ⟨partitions, run, checked⟩ := exists_run_of_follow
    (step Crc32.checksum) Grants twoUnborn twoCalls
    (fun partitions => partitions.shared.reactor.live.any fun event =>
      event.fd = 4 ∧ event.evWrite = true) (by decide +kernel)
  obtain ⟨event, live, found⟩ := List.any_eq_true.mp checked
  obtain ⟨four, writes⟩ := of_decide_eq_true found
  have possible : Report.Possible { what := ⟨false, true⟩ } event :=
    ⟨.inr rfl, fun reads => (Bool.false_ne_true reads).elim, fun _ => writes⟩
  exact ⟨partitions, event, run, live, four,
    dispatch_reaches_owner twoUnborn_unborn run live (by omega) possible⟩

end Partitions

end AsyncKafka
