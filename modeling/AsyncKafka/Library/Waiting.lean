import AsyncKafka.Library.Execution
import Mathlib.Tactic

/-!
# Bounded waiting

A queue is served at the front and grows at the back, but some may jump it.
Whoever waits is then overtaken by those alone that jump: after as many
services as there were jumps and elements in front, an element has been served.
-/

namespace Waiting

open Execution

/-- A turn of a queue: some jump ahead, a number of elements is served at the
front, and others line up at the back. -/
def Turn (before : List α) (jumped served : Nat) (output after : List α) :
    Prop :=
  ∃ ahead back, ahead.length = jumped ∧
    ((ahead ++ before).take served).Sublist output ∧
    after = (ahead ++ before).drop served ++ back

/-- A turn in which others only line up at the back. -/
theorem Turn.lineUp (before output back : List α) :
    Turn before 0 0 output (before ++ back) :=
  ⟨[], back, rfl, List.nil_sublist output, rfl⟩

/-- What the turns have left of a queue: some of its front were served, and
those in front of it now have jumped and were not served yet. -/
def Remains (old : List α) (jumped served : Nat) (output after : List α) :
    Prop :=
  ∃ gone ahead back, after = ahead ++ (old.drop gone ++ back) ∧
    served + ahead.length = gone + jumped ∧ (old.take gone).Sublist output

theorem Remains.refl (old : List α) : Remains old 0 0 [] old :=
  ⟨0, [], [], by rw [List.drop_zero, List.append_nil, List.nil_append], rfl,
    by rw [List.take_zero]⟩

/-- One more turn. -/
theorem Remains.turn
    {old output middle more after : List α}
    {jumped served jumps serves : Nat}
    (remains : Remains old jumped served output middle)
    (turn : Turn middle jumps serves more after) :
    Remains old (jumped + jumps) (served + serves) (output ++ more) after := by
  obtain ⟨gone, ahead, back, rfl, balance, taken⟩ := remains
  obtain ⟨jumpers, lined, count, served, rfl⟩ := turn
  rw [← List.append_assoc] at served ⊢
  generalize front : jumpers ++ ahead = inFront at served ⊢
  have length : inFront.length = jumps + ahead.length := by
    rw [← front, List.length_append, count]
  -- Those in front are served first, and what is left of the turn goes to `old`.
  refine ⟨gone + (serves - inFront.length), inFront.drop serves,
    back.drop (serves - inFront.length - (old.drop gone).length) ++ lined,
    ?_, ?_, ?_⟩
  · rw [List.drop_append, List.drop_append, List.drop_drop]
    simp only [List.append_assoc]
  · rw [List.length_drop]
    omega
  · rw [List.take_add]
    apply taken.append
    rw [List.take_append, List.take_append] at served
    exact ((List.sublist_append_left _ _).trans
      (List.sublist_append_right _ _)).trans served

/-- Whoever had fewer in front than were served beyond the jumps has been served,
in the order of the queue. -/
theorem Remains.take_sublist
    {old output after : List α}
    {jumped served count : Nat}
    (remains : Remains old jumped served output after)
    (enough : jumped + count ≤ served) :
    (old.take count).Sublist output := by
  obtain ⟨gone, ahead, back, -, balance, taken⟩ := remains
  have least : count ≤ gone := by omega
  exact (List.take_sublist_take_left least).trans taken

/-- Along a run whose steps all are turns of a queue, what was in the queue at
the start waits no longer than the jumps make it. -/
theorem remains_of_run
    {step : σ → ι → Except ε σ}
    {allowed : σ → ι → Prop}
    {start : σ}
    (queue emitted : σ → List α)
    (jumps serves : ι → Nat)
    (turns : ∀ state input next, step state input = .ok next →
      ∃ output, emitted next = emitted state ++ output ∧
        Turn (queue state) (jumps input) (serves input) output (queue next))
    {history : List ι}
    {state : σ}
    (run : Run step allowed start history state) :
    ∃ output, emitted state = emitted start ++ output ∧
      Remains (queue start) (history.map jumps).sum (history.map serves).sum
        output (queue state) := by
  induction run with
  | nil => exact ⟨[], (List.append_nil _).symm, .refl _⟩
  | snoc _ _ stepped inductionHypothesis =>
      obtain ⟨output, emittedBefore, remains⟩ := inductionHypothesis
      obtain ⟨more, emittedNext, turn⟩ := turns _ _ _ stepped
      refine ⟨output ++ more, ?_, ?_⟩
      · rw [emittedNext, emittedBefore, List.append_assoc]
      · simp only [List.map_append, List.sum_append, List.map_cons, List.map_nil,
          List.sum_cons, List.sum_nil, Nat.add_zero]
        exact remains.turn turn

end Waiting
