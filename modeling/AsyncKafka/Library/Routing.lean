import AsyncKafka.Library.Execution

/-!
# Queues side by side

Several queues stand side by side, and whatever comes in goes to one of them.
Along a run, what came in is spread over the queues: each of them has been given
its share in order, and nothing was given to two of them or to none.

A cursor deals fairly: it moves by one place at every turn and starts again
behind the last place, and the places before it have had one turn more than the
others.
-/

namespace Routing

open Execution

/-- The share of one queue in what was routed. -/
def share (routes : List (Nat × α)) (index : Nat) : List α :=
  (routes.filter fun route => route.1 == index).map Prod.snd

@[simp] theorem share_nil (index : Nat) :
    share ([] : List (Nat × α)) index = [] := rfl

theorem share_append (first second : List (Nat × α)) (index : Nat) :
    share (first ++ second) index = share first index ++ share second index := by
  rw [share, List.filter_append, List.map_append]
  rfl

/-- Everything goes to the queue that it is routed to. -/
theorem share_self (values : List α) (index : Nat) :
    share (values.map (Prod.mk index)) index = values := by
  induction values with
  | nil => rfl
  | cons value values inductionHypothesis =>
      unfold share at inductionHypothesis ⊢
      simp only [List.map_cons, List.filter_cons, beq_self_eq_true, if_true,
        inductionHypothesis]

/-- Nothing goes to another queue. -/
theorem share_of_ne
    {index other : Nat}
    (different : index ≠ other)
    (values : List α) :
    share (values.map (Prod.mk index)) other = [] := by
  induction values with
  | nil => rfl
  | cons value values inductionHypothesis =>
      unfold share at inductionHypothesis ⊢
      rw [List.map_cons, List.filter_cons_of_neg, inductionHypothesis]
      simpa using different

/-- A queue that takes some values takes them alone. -/
theorem content_set
    {members : List μ}
    {content : μ → List α}
    {index : Nat}
    {before after : μ}
    {values : List α}
    (found : members[index]? = some before)
    (taken : content after = content before ++ values)
    (other : Nat) :
    (members.set index after)[other]?.map content =
      members[other]?.map fun member =>
        content member ++ share (values.map (Prod.mk index)) other := by
  by_cases same : index = other
  · subst same
    have inside : index < members.length :=
      (List.getElem?_eq_some_iff.mp found).1
    rw [List.getElem?_set_self inside, found, Option.map_some, Option.map_some,
      share_self, taken]
  · rw [List.getElem?_set_ne same, share_of_ne same]
    simp only [List.append_nil]

/-- Along a run in which every step gives what comes in to one of the queues,
all that came in is spread over the queues, and over these alone. -/
theorem routed_of_run
    {step : σ → ι → Except ε σ}
    {allowed : σ → ι → Prop}
    {start : σ}
    (invariant : σ → Prop)
    (members : σ → List μ)
    (content : μ → List α)
    (input : ι → List α)
    (initially : invariant start)
    (gives : ∀ state event next, invariant state → allowed state event →
      step state event = .ok next → invariant next ∧
        ((input event = [] ∧ members next = members state) ∨
          ∃ (index : Nat) (before after : μ),
            (members state)[index]? = some before ∧
            members next = (members state).set index after ∧
            content after = content before ++ input event))
    {history : List ι}
    {state : σ}
    (run : Run step allowed start history state) :
    invariant state ∧ (members state).length = (members start).length ∧
      ∃ routes : List (Nat × α),
        (∀ route ∈ routes, route.1 < (members start).length) ∧
        routes.map Prod.snd = history.flatMap input ∧
        ∀ index : Nat, (members state)[index]?.map content =
          (members start)[index]?.map fun member =>
            content member ++ share routes index := by
  induction run with
  | nil =>
      refine ⟨initially, rfl, [], by simp, rfl, fun index => ?_⟩
      simp only [share_nil, List.append_nil]
  | @snoc history state next event _ permitted stepped inductionHypothesis =>
      obtain ⟨held, length, routes, inside, all, shares⟩ := inductionHypothesis
      obtain ⟨holds, given⟩ := gives _ _ _ held permitted stepped
      refine ⟨holds, ?_⟩
      rcases given with ⟨nothing, same⟩ | ⟨index, before, after, found, set, taken⟩
      · refine ⟨by rw [same, length], routes, inside, ?_, fun index => ?_⟩
        · rw [all, List.flatMap_append, List.flatMap_singleton, nothing,
            List.append_nil]
        · rw [same, shares]
      · have present : index < (members start).length := by
          rw [← length]
          exact (List.getElem?_eq_some_iff.mp found).1
        refine ⟨by rw [set, List.length_set, length],
          routes ++ (input event).map (Prod.mk index), ?_, ?_, fun other => ?_⟩
        · intro route member
          rcases List.mem_append.mp member with earlier | now
          · exact inside route earlier
          · obtain ⟨value, -, rfl⟩ := List.mem_map.mp now
            exact present
        · rw [List.map_append, all, List.flatMap_append, List.flatMap_singleton,
            List.map_map]
          simp [Function.comp_def]
        · rw [set, content_set found taken, share_append]
          have earlier := congrArg (Option.map (· ++
            share ((input event).map (Prod.mk index)) other)) (shares other)
          rw [Option.map_map, Option.map_map] at earlier
          simpa only [Function.comp_def, List.append_assoc] using earlier

end Routing

namespace RoundRobin

/-- The turns of the places, when the cursor stands at one of them. -/
def Balanced (turns : Nat → Nat) (size cursor : Nat) : Prop :=
  ∃ rounds, ∀ place < size,
    turns place = rounds + if place < cursor then 1 else 0

theorem Balanced.start {turns : Nat → Nat} (none : ∀ place, turns place = 0)
    (size : Nat) :
    Balanced turns size 0 :=
  ⟨0, fun place _ => by simp [none place]⟩

/-- No place is ahead of another by more than one turn. -/
theorem Balanced.fair
    {turns : Nat → Nat}
    {size cursor first second : Nat}
    (balanced : Balanced turns size cursor)
    (firstIn : first < size)
    (secondIn : second < size) :
    turns first ≤ turns second + 1 := by
  obtain ⟨rounds, each⟩ := balanced
  rw [each first firstIn, each second secondIn]
  split <;> split <;> omega

/-- A turn of the place at the cursor keeps the balance. -/
theorem Balanced.advance
    {turns later : Nat → Nat}
    {size cursor : Nat}
    (balanced : Balanced turns size cursor)
    (inside : cursor < size)
    (turn : ∀ place, later place =
      turns place + if place = cursor then 1 else 0) :
    Balanced later size ((cursor + 1) % size) := by
  obtain ⟨rounds, each⟩ := balanced
  by_cases last : cursor + 1 = size
  · -- Every place has had its turn, and the cursor starts again.
    refine ⟨rounds + 1, fun place within => ?_⟩
    rw [turn, each place within, last, Nat.mod_self]
    split <;> split <;> simp <;> omega
  · refine ⟨rounds, fun place within => ?_⟩
    rw [turn, each place within, Nat.mod_eq_of_lt (by omega)]
    split <;> split <;> split <;> omega

end RoundRobin
