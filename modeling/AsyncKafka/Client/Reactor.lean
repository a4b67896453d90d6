import AsyncKafka.Library.Sharing
import AsyncKafka.Partition.Handling
import Mathlib.Data.Fintype.Prod

/-!
# One reactor for all partitions

The partitions of a client hold a reference to the reactor of the client, and
what they do is interleaved by the dispatching of events and by the calls of
the application.  Two things could go wrong between them.  A partition could
depend on what the others have left in the reactor; it does not, so that
whatever holds of a partition that has a reactor of its own holds of every
partition of a client.  And the reactor could mix up their descriptors; with a
kernel that returns no descriptor which is open, it does not do that either.
-/

namespace AsyncKafka

open Wire Execution

/-- The reactor of a client.  The object that an event carries belongs to a
partition, which is listed here for every event created so far. -/
structure SharedReactor (κ : Type) where
  reactor : LibeventReactor := {}
  owners : List κ := []

namespace SharedReactor

variable {κ : Type}

/-- The partition whose object an event carries. -/
def owner (shared : SharedReactor κ) (event : LibEvent) : Option κ :=
  shared.owners[event.id]?

/-- What is shared after a partition has worked on the reactor: the events that
it has created carry objects of its own. -/
def store
    (name : κ)
    (shared : SharedReactor κ)
    (reactor : LibeventReactor) : SharedReactor κ :=
  { reactor
    owners := shared.owners ++
      List.replicate (reactor.created - shared.owners.length) name }

/-- A call of the reactor on behalf of a partition. -/
def performAs
    (name : κ)
    (shared : SharedReactor κ)
    (call : ReactorCall EventData) : SharedReactor κ :=
  shared.store name (shared.reactor.perform call)

/-- Every event has an owner. -/
def Owned (shared : SharedReactor κ) : Prop :=
  shared.owners.length = shared.reactor.created

theorem created_perform (reactor : LibeventReactor δ) (call : ReactorCall δ) :
    reactor.created ≤ (reactor.perform call).created := by
  cases call with
  | unregister fd => exact le_rfl
  | register fd eventData eventFlags oneshot modify =>
      unfold LibeventReactor.perform LibeventReactor.registerFdCallback
      dsimp only
      split
      · split <;> exact Nat.le_succ _
      · exact le_rfl

theorem created_foldl
    (reactor : LibeventReactor δ)
    (calls : List (ReactorCall δ)) :
    reactor.created ≤ (calls.foldl LibeventReactor.perform reactor).created := by
  induction calls generalizing reactor with
  | nil => exact le_rfl
  | cons call calls inductionHypothesis =>
      exact (created_perform reactor call).trans (inductionHypothesis _)

theorem Owned.performAs
    {shared : SharedReactor κ}
    (owned : shared.Owned)
    (name : κ)
    (call : ReactorCall EventData) :
    (shared.performAs name call).Owned := by
  have grows := created_perform shared.reactor call
  have before : shared.owners.length = shared.reactor.created := owned
  change (shared.owners ++ List.replicate _ name).length = _
  rw [List.length_append, List.length_replicate, before]
  change _ = (shared.reactor.perform call).created
  omega

/-- Storing what several calls have left is storing after each of them. -/
theorem store_foldl
    {shared : SharedReactor κ}
    (owned : shared.Owned)
    (name : κ)
    (calls : List (ReactorCall EventData)) :
    shared.store name (calls.foldl LibeventReactor.perform shared.reactor) =
      calls.foldl (SharedReactor.performAs name) shared := by
  induction calls generalizing shared with
  | nil =>
      have before : shared.owners.length = shared.reactor.created := owned
      obtain ⟨reactor, owners⟩ := shared
      simp only [store, List.foldl_nil]
      rw [before, Nat.sub_self, List.replicate_zero, List.append_nil]
  | cons call calls inductionHypothesis =>
      rw [List.foldl_cons, List.foldl_cons,
        ← inductionHypothesis (owned.performAs name call)]
      have before : shared.owners.length = shared.reactor.created := owned
      have first := created_perform shared.reactor call
      have later := created_foldl (shared.reactor.perform call) calls
      simp only [store, SharedReactor.performAs, List.append_assoc,
        List.replicate_append_replicate, List.length_append,
        List.length_replicate]
      congr 3
      omega

end SharedReactor

namespace LibeventReactor.Kept

variable {calls : List (ReactorCall δ)} {reactor : LibeventReactor δ}

/-- What the table holds after a registration that replaces what it finds. -/
theorem lookup_register
    (kept : Kept calls reactor)
    {fd : Int}
    {modify : Bool}
    (replaces : modify = true ∨ reactor.events.lookup fd = none)
    (eventData : δ)
    (eventFlags : EventFlags)
    (oneshot : Bool)
    (other : Int) :
    (reactor.registerFdCallback fd eventData eventFlags oneshot
        modify).events.lookup other =
      if other = fd then some (newEvent reactor fd eventData eventFlags oneshot)
      else reactor.events.lookup other := by
  have added (events : List (Int × LibEvent δ))
      (absent : events.lookup fd = none) (event : LibEvent δ) :
      (insertEvent events fd event).lookup other =
        if other = fd then some event else events.lookup other := by
    simp only [insertEvent, absent, List.lookup_append, List.lookup_cons,
      List.lookup_nil]
    by_cases same : other = fd
    · subst same
      simp [absent]
    · simp [same, beq_eq_false_iff_ne.mpr same]
  cases modify with
  | false =>
      have absent := replaces.resolve_left Bool.false_ne_true
      simp only [registerFdCallback, kept.base, if_true, Bool.false_eq_true,
        if_false]
      exact added _ absent _
  | true =>
      have absent : (reactor.unregisterFdCallback fd).events.lookup fd = none :=
        (Table.lookup_drop _ _ _).trans (if_pos rfl)
      simp only [registerFdCallback, kept.base, if_true]
      refine (added _ absent _).trans ?_
      by_cases same : other = fd
      · rw [if_pos same, if_pos same]
        rfl
      · rw [if_neg same, if_neg same]
        exact (Table.lookup_drop _ _ _).trans (if_neg same)

/-- A registration that replaces what it finds creates one event. -/
theorem created_register
    (kept : Kept calls reactor)
    (fd : Int)
    (eventData : δ)
    (eventFlags : EventFlags)
    (oneshot modify : Bool) :
    (reactor.registerFdCallback fd eventData eventFlags oneshot modify).created =
      reactor.created + 1 := by
  simp only [registerFdCallback, kept.base, if_true]
  split <;> rfl

end LibeventReactor.Kept

/-! ## Every event at the source it was created for -/

/-- The descriptors of all partitions of a client. -/
abbrev AllDescriptors (κ : Type) := κ → Descriptors

/-- No event source other than the given one has the descriptor. -/
def AllDescriptors.FreeFor
    {κ : Type}
    (descriptors : AllDescriptors κ)
    (name : κ)
    (eventData : EventData)
    (fd : Int) : Prop :=
  ∀ other otherData, (other, otherData) ≠ (name, eventData) →
    descriptors other otherData ≠ fd

/-- The descriptors with those of one partition replaced. -/
def AllDescriptors.replace
    {κ : Type}
    [DecidableEq κ]
    (descriptors : AllDescriptors κ)
    (name : κ)
    (own : Descriptors) : AllDescriptors κ :=
  Function.update descriptors name own

namespace AllDescriptors

variable {κ : Type} [DecidableEq κ] (descriptors : AllDescriptors κ) (name : κ)

theorem replace_own (own : Descriptors) :
    descriptors.replace name own name = own :=
  Function.update_self _ _ _

theorem replace_replace (first second : Descriptors) :
    (descriptors.replace name first).replace name second =
      descriptors.replace name second :=
  Function.update_idem _ _ _

theorem replace_eq_self : descriptors.replace name (descriptors name) = descriptors :=
  Function.update_eq_self _ _

/-- Replacing one descriptor of one partition leaves all others. -/
theorem replace_others
    (eventData : EventData)
    (fd : Int)
    {other : κ}
    {otherData : EventData}
    (different : (other, otherData) ≠ (name, eventData)) :
    descriptors.replace name (Function.update (descriptors name) eventData fd)
        other otherData =
      descriptors other otherData := by
  unfold replace
  by_cases same : other = name
  · subst same
    have otherSource : otherData ≠ eventData := fun equal =>
      different (by rw [equal])
    rw [Function.update_self, Function.update_of_ne otherSource]
  · rw [Function.update_of_ne same]

end AllDescriptors

/-- The events of the reactor and the event sources of the partitions belong
together.  A descriptor has one event source, the event that the table holds
for a descriptor is that of its source, and every open source has one, by which
it is read as often as there is something to read. -/
structure Wired
    {κ : Type}
    (shared : SharedReactor κ)
    (descriptors : AllDescriptors κ) : Prop where
  kept : ∃ calls, LibeventReactor.Kept calls shared.reactor
  owned : shared.Owned
  valid : ∀ name eventData,
    descriptors name eventData = -1 ∨ 0 ≤ descriptors name eventData
  single : ∀ name eventData, 0 ≤ descriptors name eventData →
    descriptors.FreeFor name eventData (descriptors name eventData)
  routed : ∀ fd event, 0 ≤ fd →
    shared.reactor.events.lookup fd = some event →
    ∃ name, shared.owner event = some name ∧
      descriptors name event.eventData = fd ∧
      (event.evWrite = true → event.eventData = .socket)
  watched : ∀ name eventData, 0 ≤ descriptors name eventData →
    ∃ event,
      shared.reactor.events.lookup (descriptors name eventData) = some event ∧
      shared.owner event = some name ∧ event.eventData = eventData ∧
      event.evRead = true ∧ event.evPersist = true

namespace Wired

variable {κ : Type} {shared : SharedReactor κ}
  {descriptors after : AllDescriptors κ}

/-- The owner of an event that the table holds is not changed by later calls. -/
theorem owner_performAs
    (wired : Wired shared descriptors)
    {fd : Int}
    {event : LibEvent}
    (found : shared.reactor.events.lookup fd = some event)
    (name : κ)
    (call : ReactorCall EventData) :
    (shared.performAs name call).owner event = shared.owner event := by
  obtain ⟨calls, kept⟩ := wired.kept
  have member := (Table.lookup_eq_some_iff_mem kept.distinct).mp found
  have created := kept.created _ member
  have before : shared.owners.length = shared.reactor.created := wired.owned
  exact List.getElem?_append_left (by rw [before]; exact created)

/-- The owner of a new event is the partition that has registered it. -/
theorem owner_new
    (wired : Wired shared descriptors)
    (name : κ)
    (fd : Int)
    (eventData : EventData)
    (eventFlags : EventFlags)
    (oneshot modify : Bool) :
    (shared.performAs name
        (.register fd eventData eventFlags oneshot modify)).owner
      (LibeventReactor.Kept.newEvent shared.reactor fd eventData eventFlags
        oneshot) = some name := by
  obtain ⟨calls, kept⟩ := wired.kept
  have before : shared.owners.length = shared.reactor.created := wired.owned
  have one := kept.created_register fd eventData eventFlags oneshot modify
  change (shared.owners ++ List.replicate
    ((shared.reactor.registerFdCallback fd eventData eventFlags oneshot
      modify).created - shared.owners.length) name)[shared.reactor.created]? = _
  rw [one, before, Nat.add_sub_cancel_left, List.replicate_one, ← before]
  simp

/-- Registering the descriptor of a source keeps everything together, when the
source had this descriptor before or none. -/
theorem register
    (wired : Wired shared descriptors)
    {name : κ}
    {eventData : EventData}
    {fd : Int}
    {aeventOut modify : Bool}
    (validFd : fd = -1 ∨ 0 ≤ fd)
    (writes : aeventOut = true → eventData = .socket)
    (replaces :
      modify = true ∨ shared.reactor.events.lookup fd = none)
    (hadOrNone : descriptors name eventData = fd ∨
      descriptors name eventData = -1)
    (free : 0 ≤ fd → descriptors.FreeFor name eventData fd)
    (has : after name eventData = fd)
    (others : ∀ other otherData, (other, otherData) ≠ (name, eventData) →
      after other otherData = descriptors other otherData) :
    Wired
      (shared.performAs name
        (.register fd eventData ⟨true, aeventOut⟩ false modify)) after := by
  obtain ⟨calls, kept⟩ := wired.kept
  have lookup := kept.lookup_register replaces eventData ⟨true, aeventOut⟩ false
  let call : ReactorCall EventData :=
    .register fd eventData ⟨true, aeventOut⟩ false modify
  have performed : LibeventReactor.Kept (calls ++ [call])
      (shared.reactor.perform call) := kept.perform replaces
  refine ⟨⟨_, performed⟩, wired.owned.performAs name _, ?_, ?_, ?_, ?_⟩
  · intro other otherData
    by_cases own : (other, otherData) = (name, eventData)
    · obtain ⟨rfl, rfl⟩ := Prod.mk.inj own
      rw [has]
      exact validFd
    · rw [others _ _ own]
      exact wired.valid other otherData
  · intro other otherData opened third thirdData different
    by_cases own : (other, otherData) = (name, eventData)
    · obtain ⟨rfl, rfl⟩ := Prod.mk.inj own
      rw [has] at opened ⊢
      rw [others _ _ different]
      exact free opened _ _ different
    · rw [others _ _ own] at opened ⊢
      by_cases target : (third, thirdData) = (name, eventData)
      · obtain ⟨rfl, rfl⟩ := Prod.mk.inj target
        rw [has]
        intro same
        exact free (same ▸ opened) _ _ own same.symm
      · rw [others _ _ target]
        exact wired.single _ _ opened _ _ different
  · intro other event opened found
    change (shared.reactor.registerFdCallback fd eventData ⟨true, aeventOut⟩
      false modify).events.lookup other = some event at found
    rw [lookup] at found
    split at found
    · rename_i same
      obtain rfl := Option.some.inj found
      exact ⟨name, wired.owner_new name fd eventData _ false modify,
        has.trans same.symm, writes⟩
    · rename_i different
      obtain ⟨owner, owns, held, onlySocket⟩ :=
        wired.routed other event opened found
      refine ⟨owner, (wired.owner_performAs found name _).trans owns, ?_,
        onlySocket⟩
      rw [others _ _ ?_, held]
      intro own
      obtain ⟨rfl, sameData⟩ := Prod.mk.inj own
      rw [sameData] at held
      rcases hadOrNone with had | none
      · exact different (held.symm.trans had)
      · omega
  · intro other otherData opened
    by_cases own : (other, otherData) = (name, eventData)
    · obtain ⟨rfl, rfl⟩ := Prod.mk.inj own
      rw [has] at opened ⊢
      exact ⟨_, (lookup fd).trans (if_pos rfl),
        wired.owner_new other fd otherData _ false modify, rfl, rfl, rfl⟩
    · rw [others _ _ own] at opened ⊢
      obtain ⟨event, found, owns, facts⟩ := wired.watched other otherData opened
      have different : descriptors other otherData ≠ fd := fun same =>
        free (same ▸ opened) _ _ own same
      exact ⟨event, (lookup _).trans ((if_neg different).trans found),
        (wired.owner_performAs found name _).trans owns, facts⟩

/-- Unregistering the socket of a partition that gives it up keeps everything
together. -/
theorem unregister
    (wired : Wired shared descriptors)
    {name : κ}
    (closed : after name .socket = -1)
    (others : ∀ other otherData, (other, otherData) ≠ (name, .socket) →
      after other otherData = descriptors other otherData) :
    Wired (shared.performAs name (.unregister (descriptors name .socket)))
      after := by
  obtain ⟨calls, kept⟩ := wired.kept
  have lookup (other : Int) :
      (shared.reactor.unregisterFdCallback
        (descriptors name .socket)).events.lookup other =
        if other = descriptors name .socket then none
        else shared.reactor.events.lookup other := Table.lookup_drop _ _ _
  have opened_ne {other : κ} {otherData : EventData}
      (opened : 0 ≤ after other otherData) :
      (other, otherData) ≠ (name, .socket) := by
    intro own
    obtain ⟨rfl, rfl⟩ := Prod.mk.inj own
    omega
  refine ⟨⟨_, kept.unregister _⟩, wired.owned.performAs name _, ?_, ?_, ?_, ?_⟩
  · intro other otherData
    by_cases own : (other, otherData) = (name, .socket)
    · obtain ⟨rfl, rfl⟩ := Prod.mk.inj own
      exact .inl closed
    · rw [others _ _ own]
      exact wired.valid other otherData
  · intro other otherData opened third thirdData different
    have own := opened_ne opened
    rw [others _ _ own] at opened ⊢
    by_cases target : (third, thirdData) = (name, .socket)
    · obtain ⟨rfl, rfl⟩ := Prod.mk.inj target
      rw [closed]
      omega
    · rw [others _ _ target]
      exact wired.single _ _ opened _ _ different
  · intro other event opened found
    change (shared.reactor.unregisterFdCallback
      (descriptors name .socket)).events.lookup other = some event at found
    rw [lookup] at found
    split at found
    · cases found
    · rename_i different
      obtain ⟨owner, owns, held, onlySocket⟩ :=
        wired.routed other event opened found
      refine ⟨owner, (wired.owner_performAs found name _).trans owns, ?_,
        onlySocket⟩
      rw [others _ _ ?_, held]
      intro own
      obtain ⟨rfl, sameData⟩ := Prod.mk.inj own
      rw [sameData] at held
      exact different held.symm
  · intro other otherData opened
    have own := opened_ne opened
    rw [others _ _ own] at opened ⊢
    obtain ⟨event, found, owns, facts⟩ := wired.watched other otherData opened
    have different : descriptors other otherData ≠ descriptors name .socket :=
      fun same => wired.single other otherData opened _ _ own.symm same.symm
    exact ⟨event, (lookup _).trans ((if_neg different).trans found),
      (wired.owner_performAs found name _).trans owns, facts⟩

/-- A descriptor that no source has is not in the table. -/
theorem absent
    (wired : Wired shared descriptors)
    {fd : Int}
    (valid : 0 ≤ fd)
    (unused : ∀ other otherData, descriptors other otherData ≠ fd) :
    shared.reactor.events.lookup fd = none := by
  cases found : shared.reactor.events.lookup fd with
  | none => rfl
  | some event =>
      obtain ⟨name, -, held, -⟩ := wired.routed fd event valid found
      exact absurd held (unused name _)

/-- Registering the socket anew. -/
theorem watch
    (wired : Wired shared descriptors)
    (name : κ)
    (aeventOut : Bool) :
    Wired
      (shared.performAs name
        ((Action.watch aeventOut).call (descriptors name))) descriptors :=
  wired.register (wired.valid name .socket) (fun _ => rfl) (.inl rfl) (.inl rfl)
    (wired.single name .socket) rfl fun _ _ _ => rfl

variable [DecidableEq κ]

/-- Closing the socket. -/
theorem close (wired : Wired shared descriptors) (name : κ) :
    Wired (shared.performAs name (Action.close.call (descriptors name)))
      (descriptors.replace name (Action.close.apply (descriptors name))) := by
  refine wired.unregister ?_ fun _ _ => descriptors.replace_others name _ _
  rw [descriptors.replace_own]
  exact Function.update_self EventData.socket (-1) (descriptors name)

/-- Giving a source that has no descriptor one that no source has. -/
theorem openSource
    (wired : Wired shared descriptors)
    {name : κ}
    {eventData : EventData}
    {fd : Int}
    (aeventOut : Bool)
    (writes : aeventOut = true → eventData = .socket)
    (closed : descriptors name eventData = -1)
    (valid : 0 ≤ fd)
    (free : descriptors.FreeFor name eventData fd) :
    Wired
      (shared.performAs name
        (.register fd eventData ⟨true, aeventOut⟩ false false))
      (descriptors.replace name
        (Function.update (descriptors name) eventData fd)) := by
  have unused (other : κ) (otherData : EventData) :
      descriptors other otherData ≠ fd := by
    by_cases own : (other, otherData) = (name, eventData)
    · obtain ⟨rfl, rfl⟩ := Prod.mk.inj own
      omega
    · exact free other otherData own
  refine wired.register (.inr valid) writes (.inr (wired.absent valid unused))
    (.inr closed) (fun _ => free) ?_ fun _ _ =>
      descriptors.replace_others name _ _
  rw [descriptors.replace_own, Function.update_self]

end Wired

/-! ## What the kernel grants -/

namespace AllDescriptors

variable {κ : Type} [DecidableEq κ]

/-- A source without a descriptor is given one that no source has. -/
structure Opens
    (descriptors : AllDescriptors κ)
    (name : κ)
    (eventData : EventData)
    (fd : Int) : Prop where
  closed : descriptors name eventData = -1
  valid : 0 ≤ fd
  free : descriptors.FreeFor name eventData fd

instance : Fintype EventData where
  elems := {.socket, .produceEvent, .produceMsgQEvent, .fetchEvent,
    .mdTimerEvent, .ocTimerEvent, .pReqTimerEvent}
  complete := by
    intro eventData
    cases eventData <;> simp

instance
    [Fintype κ]
    (descriptors : AllDescriptors κ)
    (name : κ)
    (eventData : EventData)
    (fd : Int) : Decidable (descriptors.FreeFor name eventData fd) :=
  inferInstanceAs (Decidable (∀ other otherData,
    (other, otherData) ≠ (name, eventData) → descriptors other otherData ≠ fd))

instance
    [Fintype κ]
    (descriptors : AllDescriptors κ)
    (name : κ)
    (eventData : EventData)
    (fd : Int) : Decidable (descriptors.Opens name eventData fd) :=
  decidable_of_iff
    (descriptors name eventData = -1 ∧ 0 ≤ fd ∧
      descriptors.FreeFor name eventData fd)
    ⟨fun ⟨closed, valid, free⟩ => ⟨closed, valid, free⟩,
      fun ⟨closed, valid, free⟩ => ⟨closed, valid, free⟩⟩

/-- The kernel returns no descriptor that is open, and an event source other
than the socket is given one only once.  A socket may get the number of the one
that it replaces, which is closed by then. -/
def Grants (descriptors : AllDescriptors κ) (name : κ) :
    KafkaPartition.Call → Prop
  | .connect fd => descriptors.Opens name .socket fd
  | .armTimer fd => descriptors.Opens name .mdTimerEvent fd
  | .startFetch eventFd timerFd =>
      descriptors.Opens name .fetchEvent eventFd ∧
        descriptors.Opens name .ocTimerEvent timerFd ∧ eventFd ≠ timerFd
  | .startProduce eventFd queueFd timerFd =>
      descriptors.Opens name .produceEvent eventFd ∧
        descriptors.Opens name .produceMsgQEvent queueFd ∧
        descriptors.Opens name .pReqTimerEvent timerFd ∧
        eventFd ≠ queueFd ∧ eventFd ≠ timerFd ∧ queueFd ≠ timerFd
  | .event dispatched =>
      ∀ fd ∈ dispatched.offered, 0 ≤ fd ∧ descriptors.FreeFor name .socket fd
  | .offsetRequest => True
  | .callbacks _ _ _ => True

instance
    [Fintype κ]
    (descriptors : AllDescriptors κ)
    (name : κ)
    (call : KafkaPartition.Call) : Decidable (descriptors.Grants name call) := by
  cases call <;> unfold Grants <;> infer_instance

variable {descriptors : AllDescriptors κ} {name : κ}

/-- What is free for a source does not depend on what the source has. -/
theorem FreeFor.replace
    {eventData : EventData}
    {fd : Int}
    (free : descriptors.FreeFor name eventData fd)
    (own : Int) :
    AllDescriptors.FreeFor
      (descriptors.replace name
        (Function.update (descriptors name) eventData own))
      name eventData fd := by
  intro other otherData different
  rw [descriptors.replace_others name eventData own different]
  exact free other otherData different

/-- Two sources are opened one after the other. -/
theorem Opens.next
    {first second : EventData}
    {fd later : Int}
    (firstOpens : descriptors.Opens name first fd)
    (secondOpens : descriptors.Opens name second later)
    (different : second ≠ first)
    (otherFd : fd ≠ later) :
    AllDescriptors.Opens
      (descriptors.replace name (Function.update (descriptors name) first fd))
      name second later := by
  refine ⟨?_, secondOpens.valid, fun other otherData notSecond => ?_⟩
  · rw [descriptors.replace_own, Function.update_of_ne different]
    exact secondOpens.closed
  · by_cases isFirst : (other, otherData) = (name, first)
    · obtain ⟨rfl, rfl⟩ := Prod.mk.inj isFirst
      rw [descriptors.replace_own, Function.update_self]
      exact otherFd
    · rw [descriptors.replace_others name first fd isFirst]
      exact secondOpens.free other otherData notSecond

end AllDescriptors

namespace Wired

variable {κ : Type} [DecidableEq κ] {shared : SharedReactor κ}
  {descriptors : AllDescriptors κ} {name : κ}

/-- Orderly actions on a socket with free descriptors on offer. -/
theorem orderly
    (wired : Wired shared descriptors)
    {offered : List Int}
    (free : ∀ fd ∈ offered, 0 ≤ fd ∧ descriptors.FreeFor name .socket fd)
    {actions : List Action}
    (follows : Action.Orderly offered (descriptors name) actions) :
    Wired
      ((Action.calls (descriptors name) actions).foldl
        (SharedReactor.performAs name) shared)
      (descriptors.replace name
        (Action.applyAll (descriptors name) actions)) := by
  induction actions generalizing shared descriptors with
  | nil =>
      change Wired shared (descriptors.replace name (descriptors name))
      rw [descriptors.replace_eq_self]
      exact wired
  | cons action actions inductionHypothesis =>
      cases action with
      | watch aeventOut =>
          exact inductionHypothesis (wired.watch name aeventOut) free follows
      | close =>
          have freeLater : ∀ fd ∈ offered, 0 ≤ fd ∧
              AllDescriptors.FreeFor (descriptors.replace name
                (Action.close.apply (descriptors name))) name .socket fd :=
            fun fd member => ⟨(free fd member).1, (free fd member).2.replace _⟩
          have later := inductionHypothesis (wired.close name) freeLater
            (by rw [descriptors.replace_own]; exact follows)
          rw [descriptors.replace_own, descriptors.replace_replace] at later
          exact later
      | connect fd =>
          obtain ⟨⟨absent, offers⟩, follows⟩ := follows
          obtain ⟨valid, unused⟩ := free fd offers
          have freeLater : ∀ later ∈ offered, 0 ≤ later ∧
              AllDescriptors.FreeFor (descriptors.replace name
                (Function.update (descriptors name) .socket fd)) name .socket
                later :=
            fun later member =>
              ⟨(free later member).1, (free later member).2.replace _⟩
          have later := inductionHypothesis
            (wired.openSource true (fun _ => rfl) absent valid unused) freeLater
            (by rw [descriptors.replace_own]; exact follows)
          rw [descriptors.replace_own, descriptors.replace_replace] at later
          exact later
      | arm eventData fd => exact follows.elim

/-- Arming a source. -/
theorem arm
    (wired : Wired shared descriptors)
    {eventData : EventData}
    {fd : Int}
    (opens : descriptors.Opens name eventData fd) :
    Wired
      (shared.performAs name
        ((Action.arm eventData fd).call (descriptors name)))
      (descriptors.replace name
        (Function.update (descriptors name) eventData fd)) :=
  wired.openSource false (by simp) opens.closed opens.valid opens.free

/-- The actions of a call with descriptors that the kernel grants. -/
theorem consists
    (wired : Wired shared descriptors)
    {call : KafkaPartition.Call}
    (grants : descriptors.Grants name call)
    {actions : List Action}
    (consists : call.Consists (descriptors name) actions) :
    Wired
      ((Action.calls (descriptors name) actions).foldl
        (SharedReactor.performAs name) shared)
      (descriptors.replace name
        (Action.applyAll (descriptors name) actions)) := by
  cases call with
  | connect fd =>
      obtain rfl := consists
      exact wired.openSource true (fun _ => rfl) grants.closed grants.valid
        grants.free
  | offsetRequest =>
      obtain rfl := consists
      change Wired _ (descriptors.replace name (descriptors name))
      rw [descriptors.replace_eq_self]
      exact wired.watch name true
  | armTimer fd =>
      obtain rfl := consists
      exact wired.arm grants
  | callbacks onReceivedData onProduceResponse onMsgQueued =>
      obtain rfl := consists
      change Wired shared (descriptors.replace name (descriptors name))
      rw [descriptors.replace_eq_self]
      exact wired
  | startFetch eventFd timerFd =>
      obtain rfl := consists
      obtain ⟨event, timer, different⟩ := grants
      have armed := (wired.arm event).arm (event.next timer (by decide) different)
      rw [descriptors.replace_own, descriptors.replace_replace] at armed
      exact armed
  | startProduce eventFd queueFd timerFd =>
      obtain rfl := consists
      obtain ⟨event, queue, timer, notQueue, notTimer, otherTimer⟩ := grants
      have queueNext := event.next queue (by decide) notQueue
      have timerNext := event.next timer (by decide) notTimer
      have armed := ((wired.arm event).arm queueNext).arm
        (queueNext.next timerNext (by decide) otherTimer)
      simp only [AllDescriptors.replace_own, AllDescriptors.replace_replace]
        at armed
      exact armed
  | event dispatched => exact wired.orderly grants consists

end Wired

end AsyncKafka
