import Mathlib.Data.List.Basic

/-!
# Fallible steps and their runs

A machine is a step function that takes a state and an input and either halts
or returns the next state.  A run is a finite sequence of inputs, each of them
allowed in the state in which it arrives, along which no step halts.  The run
keeps its inputs, so that an invariant may relate a state to the history that
led to it.
-/

namespace Execution

/-- A sequential composition returns exactly when both of its parts do. -/
theorem bind_eq_ok
    {first : Except ε α}
    {second : α → Except ε β}
    {result : β} :
    (first >>= second) = .ok result ↔
      ∃ value, first = .ok value ∧ second value = .ok result := by
  cases first <;> simp [bind, Except.bind]

/-- A sequential composition fails in its first part or, after that has
returned, in its second part. -/
theorem bind_eq_error
    {first : Except ε α}
    {second : α → Except ε β}
    {error : ε} :
    (first >>= second) = .error error ↔
      first = .error error ∨
        ∃ value, first = .ok value ∧ second value = .error error := by
  cases first <;> simp [bind, Except.bind]

/-- Sequencing after a step that returned continues with its value. -/
theorem ok_bind
    (value : α)
    (second : α → Except ε β) :
    ((.ok value : Except ε α) >>= second) = second value := rfl

/-- A computation that returns yields the value that is taken out of it. -/
theorem eq_ok_of_isOk
    {result : Except ε α}
    (returns : result.isOk = true)
    (otherwise : α) :
    result = .ok (result.toOption.getD otherwise) := by
  cases result with
  | error halt => cases returns
  | ok value => rfl

/-- A change of the state that commutes with every step commutes with a whole
fold. -/
theorem foldlM_commutes
    {step : σ → ι → Except ε σ}
    {change : σ → σ}
    (commutes : ∀ state input,
      step (change state) input = (step state input).map change)
    (inputs : List ι)
    (state : σ) :
    inputs.foldlM step (change state) =
      (inputs.foldlM step state).map change := by
  induction inputs generalizing state with
  | nil => rfl
  | cons input inputs inductionHypothesis =>
      rw [List.foldlM_cons, List.foldlM_cons, commutes]
      cases step state input with
      | error halt => rfl
      | ok next => exact inductionHypothesis next

/-- Finite runs of a fallible step function from a fixed start state.  The
inputs are listed in the order in which they were taken. -/
inductive Run
    (step : σ → ι → Except ε σ)
    (allowed : σ → ι → Prop)
    (start : σ) : List ι → σ → Prop
  | nil : Run step allowed start [] start
  | snoc
      {history : List ι}
      {state next : σ}
      {input : ι} :
      Run step allowed start history state →
      allowed state input →
      step state input = .ok next →
      Run step allowed start (history ++ [input]) next

namespace Run

/-- A property of history and state that holds at the start and is carried by
every allowed step holds at the end of every run. -/
theorem invariant
    {step : σ → ι → Except ε σ}
    {allowed : σ → ι → Prop}
    {start : σ}
    (property : List ι → σ → Prop)
    (initially : property [] start)
    (preserved : ∀ history state input next,
      property history state → allowed state input →
      step state input = .ok next → property (history ++ [input]) next)
    {history : List ι}
    {state : σ}
    (run : Run step allowed start history state) :
    property history state := by
  induction run with
  | nil => exact initially
  | snoc _ permitted stepped inductionHypothesis =>
      exact preserved _ _ _ _ inductionHypothesis permitted stepped

/-- A run under a stronger permission is a run under a weaker one. -/
theorem mono
    {step : σ → ι → Except ε σ}
    {narrow wide : σ → ι → Prop}
    {start : σ}
    (widens : ∀ state input, narrow state input → wide state input)
    {history : List ι}
    {state : σ}
    (run : Run step narrow start history state) :
    Run step wide start history state := by
  induction run with
  | nil => exact .nil
  | snoc _ permitted stepped inductionHypothesis =>
      exact .snoc inductionHypothesis (widens _ _ permitted) stepped

/-- Two runs in sequence form a run. -/
theorem trans
    {step : σ → ι → Except ε σ}
    {allowed : σ → ι → Prop}
    {start middle last : σ}
    {first second : List ι}
    (before : Run step allowed start first middle)
    (after : Run step allowed middle second last) :
    Run step allowed start (first ++ second) last := by
  induction after with
  | nil => simpa using before
  | snoc _ permitted stepped inductionHypothesis =>
      rw [← List.append_assoc]
      exact .snoc inductionHypothesis permitted stepped

/-- Folding a step over inputs is a run without conditions. -/
theorem of_foldlM
    {step : σ → ι → Except ε σ}
    {start last : σ}
    {inputs : List ι}
    (folded : inputs.foldlM step start = .ok last) :
    Run step (fun _ _ => True) start inputs last := by
  induction inputs generalizing start with
  | nil =>
      obtain rfl := Except.ok.inj folded
      exact .nil
  | cons input inputs inductionHypothesis =>
      rw [List.foldlM_cons] at folded
      obtain ⟨next, stepped, later⟩ := bind_eq_ok.mp folded
      have first : Run step (fun _ _ => True) start ([] ++ [input]) next :=
        .snoc .nil trivial stepped
      exact first.trans (inductionHypothesis later)

end Run

/-- Take a list of inputs from a state, as long as they are allowed and no step
halts. -/
def follow
    (step : σ → ι → Except ε σ)
    (allowed : σ → ι → Prop)
    [∀ state input, Decidable (allowed state input)] :
    σ → List ι → Option σ
  | state, [] => some state
  | state, input :: inputs =>
      if allowed state input then
        match step state input with
        | .ok next => follow step allowed next inputs
        | .error _ => none
      else none

theorem Run.follow
    {step : σ → ι → Except ε σ}
    {allowed : σ → ι → Prop}
    [∀ state input, Decidable (allowed state input)]
    {start state last : σ}
    {history inputs : List ι}
    (run : Run step allowed start history state)
    (followed : follow step allowed state inputs = some last) :
    Run step allowed start (history ++ inputs) last := by
  induction inputs generalizing state history with
  | nil =>
      obtain rfl := Option.some.inj followed
      simpa using run
  | cons input inputs inductionHypothesis =>
      unfold Execution.follow at followed
      split at followed
      · rename_i permitted
        split at followed
        · rename_i next stepped
          simpa using inductionHypothesis (.snoc run permitted stepped) followed
        · cases followed
      · cases followed

/-- A result that passes a check is a result. -/
theorem exists_ok_of_any
    (result : Except ε σ)
    (check : σ → Bool)
    (checked : result.toOption.any check = true) :
    ∃ state, result = .ok state ∧ check state = true := by
  cases result with
  | error halt => cases checked
  | ok state => exact ⟨state, rfl, checked⟩

/-- Inputs that can be followed to a state with a property have a run. -/
theorem exists_run_of_follow
    (step : σ → ι → Except ε σ)
    (allowed : σ → ι → Prop)
    [∀ state input, Decidable (allowed state input)]
    (start : σ)
    (inputs : List ι)
    (check : σ → Bool)
    (followed : (follow step allowed start inputs).any check = true) :
    ∃ state, Run step allowed start inputs state ∧ check state = true := by
  obtain ⟨state, found, checked⟩ := (Option.any_eq_true _ _).mp followed
  exact ⟨state, Run.nil.follow found, checked⟩

end Execution
