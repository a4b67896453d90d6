import AsyncKafka.Library.Execution
import Mathlib.Logic.Function.Basic

/-!
# Machines that share a resource

Machines of one kind run side by side.  Each has a state of its own, and all of
them work on one resource, which a machine finds in its state when it takes a
step and leaves there for the next one.  A machine is oblivious when nothing
but the resource depends on the resource.  Such machines do not notice each
other: in every interleaving each of them goes through the states of a run of
its own.
-/

namespace Sharing

open Execution

/-- Access to the resource within the state of a machine. -/
structure Access (σ ρ : Type) where
  get : σ → ρ
  put : σ → ρ → σ
  put_get : ∀ state, put state (get state) = state
  put_put : ∀ state first second, put (put state first) second = put state second

/-- Nothing but the resource after a step depends on the resource before it. -/
def Oblivious (access : Access σ ρ) (step : σ → ι → Except ε σ) : Prop :=
  ∀ state resource input next, step state input = .ok next →
    ∃ after, step (access.put state resource) input =
      .ok (access.put next after)

/-- Machines side by side with what they share. -/
structure Joint (κ σ τ : Type) where
  shared : τ
  machines : κ → σ

/-- How a machine finds the resource in what is shared, and how what it leaves
there is recorded, under its name. -/
structure Custody (κ ρ τ : Type) where
  load : τ → ρ
  store : κ → τ → ρ → τ

variable {κ σ ρ τ ι ε : Type} [DecidableEq κ]

/-- One of the machines takes a step. -/
def Joint.step
    (access : Access σ ρ)
    (custody : Custody κ ρ τ)
    (step : σ → ι → Except ε σ)
    (joint : Joint κ σ τ)
    (input : κ × ι) : Except ε (Joint κ σ τ) := do
  let machine := access.put (joint.machines input.1) (custody.load joint.shared)
  let next ← step machine input.2
  return {
    shared := custody.store input.1 joint.shared (access.get next)
    machines := Function.update joint.machines input.1 next }

/-- The inputs that one of the machines has taken. -/
def inputsOf (name : κ) (history : List (κ × ι)) : List ι :=
  history.filterMap fun input => if input.1 = name then some input.2 else none

theorem inputsOf_append (name : κ) (history : List (κ × ι)) (input : κ × ι) :
    inputsOf name (history ++ [input]) =
      inputsOf name history ++ if input.1 = name then [input.2] else [] := by
  by_cases same : input.1 = name <;> simp [inputsOf, same]

/-- What a step of the joint machine consists of. -/
theorem Joint.step_cases
    {access : Access σ ρ}
    {custody : Custody κ ρ τ}
    {step : σ → ι → Except ε σ}
    {joint after : Joint κ σ τ}
    {input : κ × ι}
    (stepped : joint.step access custody step input = .ok after) :
    ∃ next,
      step (access.put (joint.machines input.1) (custody.load joint.shared))
        input.2 = .ok next ∧
      after.shared =
        custody.store input.1 joint.shared (access.get next) ∧
      after.machines = Function.update joint.machines input.1 next := by
  obtain ⟨next, taken, finished⟩ := bind_eq_ok.mp stepped
  obtain rfl := Except.ok.inj finished
  exact ⟨next, taken, rfl, rfl⟩

/-- An oblivious machine that takes a step beside others takes it alone as
well, whatever resource it has there. -/
theorem Oblivious.alone
    {access : Access σ ρ}
    {step : σ → ι → Except ε σ}
    (oblivious : Oblivious access step)
    {state next : σ}
    {resource : ρ}
    {input : ι}
    (stepped : step (access.put state resource) input = .ok next) :
    ∃ after, step state input = .ok after ∧
      next = access.put after (access.get next) := by
  obtain ⟨left, taken⟩ :=
    oblivious _ (access.get state) input next stepped
  rw [access.put_put, access.put_get] at taken
  exact ⟨access.put next left, taken, by rw [access.put_put, access.put_get]⟩

/-- In every interleaving each machine is, up to the resource, in the state to
which its own inputs lead it alone, under every condition that does not
look at the resource. -/
theorem run_alone
    {access : Access σ ρ}
    {custody : Custody κ ρ τ}
    {step : σ → ι → Except ε σ}
    (oblivious : Oblivious access step)
    {allowed : Joint κ σ τ → κ × ι → Prop}
    {permitted : σ → ι → Prop}
    (permits : ∀ joint input, allowed joint input →
      permitted (joint.machines input.1) input.2)
    (blind : ∀ state resource input,
      permitted (access.put state resource) input → permitted state input)
    {start joint : Joint κ σ τ}
    {history : List (κ × ι)}
    (run : Run (Joint.step access custody step) allowed start history joint)
    (name : κ) :
    ∃ state resource,
      Run step permitted (start.machines name) (inputsOf name history) state ∧
      joint.machines name = access.put state resource := by
  apply run.invariant fun history joint => ∃ state resource,
    Run step permitted (start.machines name) (inputsOf name history) state ∧
    joint.machines name = access.put state resource
  · exact ⟨start.machines name, access.get _, .nil, (access.put_get _).symm⟩
  · intro history joint input after ⟨state, resource, before, same⟩ may stepped
    obtain ⟨next, taken, -, machines⟩ := Joint.step_cases stepped
    rw [machines, inputsOf_append]
    by_cases own : input.1 = name
    · subst own
      rw [same, access.put_put] at taken
      obtain ⟨alone, solo, agrees⟩ := oblivious.alone taken
      have may := permits _ _ may
      rw [same] at may
      refine ⟨alone, access.get next, ?_, ?_⟩
      · rw [if_pos rfl]
        exact .snoc before (blind _ _ _ may) solo
      · rw [Function.update_self]
        exact agrees
    · refine ⟨state, resource, ?_, ?_⟩
      · rw [if_neg own, List.append_nil]
        exact before
      · rw [Function.update_of_ne (Ne.symm own)]
        exact same

end Sharing
