import AsyncKafka.Library.Execution

/-!
# First-in first-out queues

A queue is known by what goes in and what comes out.  A move of a queue takes
some input at the back and gives some output at the front; nothing is lost,
repeated or reordered on the way.  Moves compose in time, and two queues in
series are a queue.  A machine whose every step is a move of what it holds has
put out, in order, what it was given, up to what it still holds.
-/

namespace Fifo

/-- A queue holding `contents` may take `input`, give `output` and then hold
`next`. -/
def Move (contents input output next : List α) : Prop :=
  contents ++ input = output ++ next

namespace Move

/-- A queue may stay as it is. -/
theorem idle (contents : List α) : Move contents [] [] contents :=
  List.append_nil contents

/-- Input is appended at the back. -/
theorem enter (contents input : List α) :
    Move contents input [] (contents ++ input) := rfl

/-- Output is taken from the front. -/
theorem leave (output next : List α) : Move (output ++ next) [] output next :=
  List.append_nil (output ++ next)

/-- Two moves in sequence are a move. -/
theorem trans
    {first second third earlyInput lateInput earlyOutput lateOutput : List α}
    (early : Move first earlyInput earlyOutput second)
    (late : Move second lateInput lateOutput third) :
    Move first (earlyInput ++ lateInput) (earlyOutput ++ lateOutput) third := by
  unfold Move at early late ⊢
  rw [← List.append_assoc, early, List.append_assoc, late, List.append_assoc]

/-- Two queues in series, the output of the one being the input of the other,
move as one queue. -/
theorem series
    {back back' front front' input passed output : List α}
    (entering : Move back input passed back')
    (leaving : Move front passed output front') :
    Move (front ++ back) input output (front' ++ back') := by
  unfold Move at entering leaving ⊢
  rw [List.append_assoc, entering, ← List.append_assoc, leaving,
    List.append_assoc]

end Move

/-- Along a run whose steps all move a queue, the output so far and the
contents together are what was held at the start and all the input. -/
theorem conserved
    {step : σ → ι → Except ε σ}
    {allowed : σ → ι → Prop}
    {start : σ}
    (invariant : σ → Prop)
    (emitted contents : σ → List α)
    (input : ι → List α)
    (initially : invariant start)
    (moves : ∀ state event next, invariant state → allowed state event →
      step state event = .ok next → invariant next ∧
        ∃ output, emitted next = emitted state ++ output ∧
          Move (contents state) (input event) output (contents next))
    {history : List ι}
    {state : σ}
    (run : Execution.Run step allowed start history state) :
    invariant state ∧ emitted state ++ contents state =
      emitted start ++ contents start ++ history.flatMap input := by
  induction run with
  | nil => exact ⟨initially, by simp⟩
  | snoc before permitted stepped inductionHypothesis =>
      obtain ⟨held, balance⟩ := inductionHypothesis
      obtain ⟨holds, output, emittedNext, moved⟩ :=
        moves _ _ _ held permitted stepped
      refine ⟨holds, ?_⟩
      unfold Move at moved
      rw [emittedNext, List.append_assoc, ← moved, ← List.append_assoc,
        balance, List.flatMap_append, List.flatMap_singleton,
        List.append_assoc]

end Fifo
