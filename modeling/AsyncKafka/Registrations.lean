import AsyncKafka.Library.Table
import AsyncKafka.Reactor
import Mathlib.Data.List.Induction

/-!
# The table of the reactor

The reactor keeps its events in a map and frees an event only through the map.
An event that was created and could not be entered is out of reach: it stays
alive, goes on calling back, and is never freed.  The table is exact as long as
no descriptor is registered anew while the map still holds an event for it.
-/

namespace AsyncKafka

/-- A call of the reactor that changes its events. -/
inductive ReactorCall (δ : Type)
  | register
      (fd : Int)
      (eventData : δ)
      (eventFlags : EventFlags)
      (oneshot modify : Bool)
  | unregister (fd : Int)
  deriving DecidableEq, Repr

/-- What a registration asks for. -/
structure Registration (δ : Type) where
  eventData : δ
  eventFlags : EventFlags
  oneshot : Bool
  deriving DecidableEq, Repr

/-- The registration that an event was created for. -/
def LibEvent.registration (event : LibEvent δ) : Registration δ :=
  { eventData := event.eventData
    eventFlags := ⟨event.evRead, event.evWrite⟩
    oneshot := !event.evPersist }

namespace ReactorCall

/-- The registration of a descriptor after one more call. -/
def latest (fd : Int) (before : Option (Registration δ)) :
    ReactorCall δ → Option (Registration δ)
  | .register other eventData eventFlags oneshot _ =>
      if other = fd then some { eventData, eventFlags, oneshot } else before
  | .unregister other => if other = fd then none else before

/-- The most recent registration of a descriptor, unless it was unregistered
since. -/
def inForce (calls : List (ReactorCall δ)) (fd : Int) :
    Option (Registration δ) :=
  calls.foldl (latest fd) none

theorem inForce_append
    (calls : List (ReactorCall δ))
    (call : ReactorCall δ)
    (fd : Int) :
    inForce (calls ++ [call]) fd = call.latest fd (inForce calls fd) := by
  simp [inForce]

end ReactorCall

namespace LibeventReactor

/-- The effect of one call. -/
def perform (reactor : LibeventReactor δ) : ReactorCall δ → LibeventReactor δ
  | .register fd eventData eventFlags oneshot modify =>
      reactor.registerFdCallback fd eventData eventFlags oneshot modify
  | .unregister fd => reactor.unregisterFdCallback fd

/-- A new reactor with a base after some calls. -/
def after (calls : List (ReactorCall δ)) : LibeventReactor δ :=
  calls.foldl perform {}

theorem after_append (calls : List (ReactorCall δ)) (call : ReactorCall δ) :
    after (calls ++ [call]) = (after calls).perform call := by
  simp [after]

/-- The destructor, which frees every event of the table. -/
def destroy (reactor : LibeventReactor δ) : LibeventReactor δ :=
  { reactor with
    live := reactor.live.filter fun event =>
      !reactor.events.any fun entry => entry.2.id == event.id
    events := [] }

/-- The events created and not yet freed are the values of the table, and no
two of them have the same descriptor. -/
structure Exact (reactor : LibeventReactor δ) : Prop where
  values : reactor.live.Perm (reactor.events.map Prod.snd)
  single : (reactor.live.map LibEvent.fd).Nodup

/-- The table is exact, and with it the reactor does what its callers count on:
a descriptor that was unregistered has no event, the most recent registration
of a descriptor is the one in force, and the destructor frees everything. -/
structure Accounts (calls : List (ReactorCall δ)) (reactor : LibeventReactor δ) :
    Prop where
  exact : reactor.Exact
  unregistered : ∀ fd,
    ∀ event ∈ (reactor.unregisterFdCallback fd).live, event.fd ≠ fd
  inForce : ∀ fd,
    (reactor.live.filter fun event => event.fd = fd).map LibEvent.registration =
      (ReactorCall.inForce calls fd).toList
  freed : reactor.destroy.live = []

/-- Whether a call leaves the table exact: a registration either replaces what
the table holds for the descriptor or finds nothing there. -/
def Replaces (reactor : LibeventReactor δ) : ReactorCall δ → Prop
  | .register fd _ _ _ modify => modify = true ∨ reactor.events.lookup fd = none
  | .unregister _ => True

/-- The table lists the live events in the order of their creation, each under
its own descriptor, and what the table holds for a descriptor is the
registration in force. -/
structure Kept (calls : List (ReactorCall δ)) (reactor : LibeventReactor δ) :
    Prop where
  base : reactor.base = true
  live : reactor.live = reactor.events.map Prod.snd
  keys : ∀ entry ∈ reactor.events, entry.2.fd = entry.1
  distinct : (reactor.events.map Prod.fst).Nodup
  objects : (reactor.events.map fun entry => entry.2.id).Nodup
  created : ∀ entry ∈ reactor.events, entry.2.id < reactor.created
  latest : ∀ fd,
    (reactor.events.lookup fd).map LibEvent.registration =
      ReactorCall.inForce calls fd

namespace Kept

variable {calls : List (ReactorCall δ)} {reactor : LibeventReactor δ}

theorem start : Kept [] ({} : LibeventReactor δ) :=
  ⟨rfl, rfl, by simp, by simp, by simp, by simp, fun _ => rfl⟩

/-- An entry has the object of another entry only when it has its key. -/
theorem id_ne_iff
    (kept : Kept calls reactor)
    {fd : Int}
    {event : LibEvent δ}
    (found : reactor.events.lookup fd = some event)
    {entry : Int × LibEvent δ}
    (member : entry ∈ reactor.events) :
    entry.2.id ≠ event.id ↔ entry.1 ≠ fd := by
  have held : (fd, event) ∈ reactor.events :=
    (Table.lookup_eq_some_iff_mem kept.distinct).mp found
  constructor
  · intro otherObject sameKey
    have same : entry = (fd, event) :=
      List.inj_on_of_nodup_map kept.distinct member held sameKey
    exact otherObject (by rw [same])
  · intro otherKey sameObject
    have same : entry = (fd, event) :=
      List.inj_on_of_nodup_map kept.objects member held sameObject
    exact otherKey (by rw [same])

/-- Unregistering frees the event of the descriptor and drops its entry. -/
theorem live_unregister (kept : Kept calls reactor) (fd : Int) :
    (reactor.unregisterFdCallback fd).live =
      (reactor.unregisterFdCallback fd).events.map Prod.snd := by
  unfold unregisterFdCallback
  rw [kept.live]
  dsimp only
  cases found : reactor.events.lookup fd with
  | none =>
      have absent : reactor.events.filter (fun entry => entry.1 != fd) =
          reactor.events := by
        refine List.filter_eq_self.mpr fun entry member => ?_
        have other := List.lookup_eq_none_iff.mp found entry member
        rw [bne_iff_ne] at other ⊢
        exact Ne.symm other
      rw [absent]
  | some event =>
      dsimp only
      rw [List.filter_map]
      congr 1
      refine List.filter_congr fun entry member => ?_
      rw [Bool.eq_iff_iff, Function.comp_apply, bne_iff_ne, bne_iff_ne]
      exact kept.id_ne_iff found member

/-- Unregistering keeps the table. -/
theorem unregister (kept : Kept calls reactor) (fd : Int) :
    Kept (calls ++ [.unregister fd]) (reactor.unregisterFdCallback fd) := by
  have fewer : (reactor.unregisterFdCallback fd).events.Sublist reactor.events :=
    List.filter_sublist
  refine ⟨kept.base, kept.live_unregister fd,
    fun entry member => kept.keys entry (fewer.subset member),
    kept.distinct.sublist (fewer.map _), kept.objects.sublist (fewer.map _),
    fun entry member => kept.created entry (fewer.subset member),
    fun other => ?_⟩
  change ((reactor.events.filter fun entry => entry.1 != fd).lookup other).map _ = _
  rw [Table.lookup_drop, ReactorCall.inForce_append, ReactorCall.latest,
    ← kept.latest other]
  by_cases same : other = fd
  · simp [same]
  · rw [if_neg same, if_neg (Ne.symm same)]

/-- The event that a registration creates. -/
def newEvent
    (reactor : LibeventReactor δ)
    (fd : Int)
    (eventData : δ)
    (eventFlags : EventFlags)
    (oneshot : Bool) : LibEvent δ :=
  { id := reactor.created
    fd
    evRead := eventFlags.aeventIn
    evWrite := eventFlags.aeventOut
    evPersist := !oneshot
    eventData }

/-- A registration of a descriptor that the table does not hold enters it. -/
theorem register
    (kept : Kept calls reactor)
    {fd : Int}
    (absent : reactor.events.lookup fd = none)
    (eventData : δ)
    (eventFlags : EventFlags)
    (oneshot : Bool) :
    Kept (calls ++ [.register fd eventData eventFlags oneshot false])
      (reactor.registerFdCallback fd eventData eventFlags oneshot false) := by
  let event := newEvent reactor fd eventData eventFlags oneshot
  have registered :
      reactor.registerFdCallback fd eventData eventFlags oneshot false =
        { reactor with
          live := reactor.live ++ [event]
          created := reactor.created + 1
          events := reactor.events ++ [(fd, event)] } := by
    simp [registerFdCallback, kept.base, insertEvent, absent, event, newEvent]
  have newKey : fd ∉ reactor.events.map Prod.fst := by
    intro member
    obtain ⟨entry, held, rfl⟩ := List.mem_map.mp member
    simpa using List.lookup_eq_none_iff.mp absent entry held
  have newObject :
      reactor.created ∉ reactor.events.map fun entry => entry.2.id := by
    intro member
    obtain ⟨entry, held, equal⟩ := List.mem_map.mp member
    exact absurd (kept.created entry held) (by omega)
  rw [registered]
  refine ⟨kept.base, by simp [kept.live], ?_, ?_, ?_, ?_, fun other => ?_⟩
  · intro entry member
    rcases List.mem_append.mp member with earlier | added
    · exact kept.keys entry earlier
    · rw [List.mem_singleton.mp added]
      rfl
  · rw [List.map_append]
    exact kept.distinct.append (by simp) (by simpa using newKey)
  · rw [List.map_append]
    exact kept.objects.append (by simp)
      (by simpa [event, newEvent] using newObject)
  · intro entry member
    rcases List.mem_append.mp member with earlier | added
    · exact Nat.lt_succ_of_lt (kept.created entry earlier)
    · rw [List.mem_singleton.mp added]
      exact Nat.lt_succ_self _
  · change ((reactor.events ++ [(fd, event)]).lookup other).map _ = _
    rw [List.lookup_append, ReactorCall.inForce_append, ReactorCall.latest,
      ← kept.latest other]
    by_cases same : fd = other
    · subst same
      simp [absent, event, newEvent, LibEvent.registration]
    · have elsewhere : List.lookup other [(fd, event)] = none := by
        rw [List.lookup_cons, beq_eq_false_iff_ne.mpr (Ne.symm same)]
        rfl
      rw [elsewhere, Option.or_none, if_neg same]

/-- A registration that replaces is an unregistration and a registration. -/
theorem replace
    (kept : Kept calls reactor)
    (fd : Int)
    (eventData : δ)
    (eventFlags : EventFlags)
    (oneshot : Bool) :
    Kept (calls ++ [.register fd eventData eventFlags oneshot true])
      (reactor.registerFdCallback fd eventData eventFlags oneshot true) := by
  have dropped := kept.unregister fd
  have absent : (reactor.unregisterFdCallback fd).events.lookup fd = none :=
    (Table.lookup_drop _ _ _).trans (if_pos rfl)
  have entered := dropped.register absent eventData eventFlags oneshot
  have same : reactor.registerFdCallback fd eventData eventFlags oneshot true =
      (reactor.unregisterFdCallback fd).registerFdCallback fd eventData
        eventFlags oneshot false := by
    simp [registerFdCallback, kept.base, dropped.base]
  rw [same]
  refine ⟨entered.base, entered.live, entered.keys, entered.distinct,
    entered.objects, entered.created, fun other => ?_⟩
  rw [entered.latest other]
  simp only [ReactorCall.inForce_append, ReactorCall.latest]
  split <;> rfl

theorem perform
    (kept : Kept calls reactor)
    {call : ReactorCall δ}
    (replaces : reactor.Replaces call) :
    Kept (calls ++ [call]) (reactor.perform call) := by
  cases call with
  | register fd eventData eventFlags oneshot modify =>
      cases modify with
      | true => exact kept.replace fd eventData eventFlags oneshot
      | false =>
          have absent := replaces.resolve_left Bool.false_ne_true
          exact kept.register absent eventData eventFlags oneshot
  | unregister fd => exact kept.unregister fd

/-- The live events of a descriptor are the one in the table. -/
theorem live_filter (kept : Kept calls reactor) (fd : Int) :
    (reactor.live.filter fun event => event.fd = fd) =
      (reactor.events.lookup fd).toList := by
  rw [kept.live, List.filter_map, ← Table.filter_key kept.distinct]
  congr 1
  refine List.filter_congr fun entry member => ?_
  rw [Function.comp_apply, kept.keys entry member]

theorem accounts (kept : Kept calls reactor) : Accounts calls reactor := by
  have descriptors :
      reactor.live.map LibEvent.fd = reactor.events.map Prod.fst := by
    rw [kept.live, List.map_map]
    exact List.map_congr_left kept.keys
  refine ⟨⟨by rw [kept.live], ?_⟩, fun fd event member => ?_, fun fd => ?_, ?_⟩
  · rw [descriptors]
    exact kept.distinct
  · rw [kept.live_unregister] at member
    obtain ⟨entry, held, rfl⟩ := List.mem_map.mp member
    obtain ⟨earlier, other⟩ := List.mem_filter.mp held
    rw [kept.keys entry earlier]
    exact bne_iff_ne.mp other
  · rw [kept.live_filter, ← kept.latest fd]
    cases reactor.events.lookup fd <;> rfl
  · change reactor.live.filter _ = []
    refine List.filter_eq_nil_iff.mpr fun event member => ?_
    rw [kept.live] at member
    obtain ⟨entry, held, rfl⟩ := List.mem_map.mp member
    simp only [Bool.not_eq_true', Bool.not_eq_false]
    exact List.any_eq_true.mpr ⟨entry, held, by simp⟩

end Kept

/-- Calls that replace what they find keep the table. -/
theorem kept_after
    {calls : List (ReactorCall δ)}
    (replaces : ∀ before call, before ++ [call] <+: calls →
      (after before).Replaces call) :
    Kept calls (after calls) := by
  induction calls using List.reverseRecOn with
  | nil => exact .start
  | append_singleton calls call inductionHypothesis =>
      have kept := inductionHypothesis fun before other isBeginning =>
        replaces before other (isBeginning.trans (List.prefix_append _ _))
      rw [after_append]
      exact kept.perform (replaces calls call (List.prefix_refl _))

/-- A registration beside an entry of the table creates an event that the table
does not hold. -/
theorem not_exact_of_not_replaces
    {reactor : LibeventReactor δ}
    (base : reactor.base = true)
    (exact : reactor.Exact)
    {call : ReactorCall δ}
    (beside : ¬ reactor.Replaces call) :
    ¬ (reactor.perform call).Exact := by
  cases call with
  | unregister fd => exact absurd trivial beside
  | register fd eventData eventFlags oneshot modify =>
      obtain ⟨inserting, present⟩ := not_or.mp beside
      rw [Bool.not_eq_true] at inserting
      obtain ⟨event, found⟩ := Option.ne_none_iff_exists'.mp present
      intro after
      have before := exact.values.length_eq
      have grown := after.values.length_eq
      simp only [perform, registerFdCallback, base, if_true, inserting,
        Bool.false_eq_true, if_false, insertEvent, found, List.length_append,
        List.length_singleton, List.length_map] at before grown
      omega

theorem base_after (calls : List (ReactorCall δ)) :
    (after calls).base = true := by
  induction calls using List.reverseRecOn with
  | nil => rfl
  | append_singleton calls call inductionHypothesis =>
      rw [after_append]
      cases call with
      | unregister fd => exact inductionHypothesis
      | register fd eventData eventFlags oneshot modify =>
          simp only [perform, registerFdCallback, inductionHypothesis, if_true]
          split <;> exact inductionHypothesis

/-- After every call of a sequence the table is exact and the reactor does what
its callers count on, if and only if no call registers a descriptor anew,
without replacing, while the table still holds an event for it. -/
theorem accounts_iff (calls : List (ReactorCall δ)) :
    (∀ before, before <+: calls → Accounts before (after before)) ↔
      ∀ before call, before ++ [call] <+: calls →
        (after before).Replaces call := by
  constructor
  · intro accounts before call isBeginning
    by_contra beside
    have exactBefore := (accounts before
      ((List.prefix_append _ _).trans isBeginning)).exact
    have exactAfter := (accounts _ isBeginning).exact
    rw [after_append] at exactAfter
    exact not_exact_of_not_replaces (base_after before) exactBefore beside
      exactAfter
  · intro replaces before isBeginning
    exact (kept_after fun earlier call shorter =>
      replaces earlier call (shorter.trans isBeginning)).accounts

/-- A descriptor that is registered twice, the second time for another object. -/
def registeredTwice : List (ReactorCall EventData) :=
  [.register 5 .socket ⟨true, true⟩ false false,
    .register 5 .fetchEvent ⟨true, false⟩ false false]

/-- The second event is not in the table.  The first registration stays in
force, unregistering the descriptor leaves the second event, and the destructor
does not free it. -/
theorem leaked_event :
    ¬ (after registeredTwice).Exact ∧
      ((after registeredTwice).events.lookup 5).map LibEvent.eventData =
        some .socket ∧
      ((after registeredTwice).unregisterFdCallback 5).live.map
        LibEvent.eventData = [.fetchEvent] ∧
      (after registeredTwice).destroy.live.map LibEvent.eventData =
        [.fetchEvent] := by
  refine ⟨fun exact => ?_, by decide, by decide, by decide⟩
  have sameLength := exact.values.length_eq
  revert sameLength
  decide

end LibeventReactor
end AsyncKafka
