import Mathlib.Data.List.Basic
import Mathlib.Algebra.Order.Ring.Int

/-!
# High-water marks

A receiver of numbered items keeps the number that it expects next, drops every
item below it and moves past every item that it takes.  Whatever the items are
and however they repeat and overlap, what it takes is numbered in strictly
ascending order, and it ends beyond everything that it was shown.
-/

namespace HighWater

variable {α : Type}

/-- The items that are taken and the mark after them. -/
def take (number : α → Int) : List α → Int → List α × Int
  | [], mark => ([], mark)
  | item :: items, mark =>
      if mark ≤ number item then
        let (later, mark) := take number items (number item + 1)
        (item :: later, mark)
      else take number items mark

/-- Items numbered in strictly ascending order between two marks. -/
structure Ascends
    (number : α → Int)
    (first : Int)
    (items : List α)
    (last : Int) : Prop where
  ascending : items.Pairwise fun item later => number item < number later
  above : ∀ item ∈ items, first ≤ number item
  below : ∀ item ∈ items, number item < last
  marks : first ≤ last

namespace Ascends

variable {number : α → Int} {first middle last : Int} {items more : List α}

theorem nil (number : α → Int) {first last : Int} (marks : first ≤ last) :
    Ascends number first [] last :=
  ⟨.nil, by simp, by simp, marks⟩

/-- Ascending items are continued by ascending items from their mark on. -/
theorem append
    (before : Ascends number first items middle)
    (after : Ascends number middle more last) :
    Ascends number first (items ++ more) last := by
  refine ⟨?_, ?_, ?_, before.marks.trans after.marks⟩
  · apply List.pairwise_append.mpr
    refine ⟨before.ascending, after.ascending, ?_⟩
    intro item member later laterMember
    exact lt_of_lt_of_le (before.below item member)
      (after.above later laterMember)
  · intro item member
    rcases List.mem_append.mp member with inFirst | inSecond
    · exact before.above item inFirst
    · exact before.marks.trans (after.above item inSecond)
  · intro item member
    rcases List.mem_append.mp member with inFirst | inSecond
    · exact lt_of_lt_of_le (before.below item inFirst) after.marks
    · exact after.below item inSecond

end Ascends

theorem take_ascends (number : α → Int) (items : List α) (mark : Int) :
    Ascends number mark (take number items mark).1 (take number items mark).2 := by
  induction items generalizing mark with
  | nil => exact .nil number le_rfl
  | cons item items inductionHypothesis =>
      by_cases taken : mark ≤ number item
      · have later := inductionHypothesis (number item + 1)
        have alone : Ascends number mark [item] (number item + 1) := by
          refine ⟨by simp, ?_, ?_, by omega⟩
          · intro other member
            obtain rfl := List.mem_singleton.mp member
            exact taken
          · intro other member
            obtain rfl := List.mem_singleton.mp member
            exact Int.lt_succ _
        simp only [take, if_pos taken]
        exact alone.append later
      · simp only [take, if_neg taken]
        exact inductionHypothesis mark

/-- Every item that was shown is below the mark afterwards. -/
theorem lt_of_mem
    (number : α → Int)
    {items : List α}
    {item : α}
    (member : item ∈ items)
    (mark : Int) :
    number item < (take number items mark).2 := by
  induction items generalizing mark with
  | nil => cases member
  | cons first items inductionHypothesis =>
      by_cases taken : mark ≤ number first
      · simp only [take, if_pos taken]
        rcases List.mem_cons.mp member with rfl | later
        · exact lt_of_lt_of_le (Int.lt_succ _) (take_ascends number items _).marks
        · exact inductionHypothesis later _
      · simp only [take, if_neg taken]
        rcases List.mem_cons.mp member with rfl | later
        · exact lt_of_lt_of_le (not_le.mp taken) (take_ascends number items _).marks
        · exact inductionHypothesis later _

/-- What is taken is part of what was shown, in its order. -/
theorem take_sublist (number : α → Int) (items : List α) (mark : Int) :
    (take number items mark).1.Sublist items := by
  induction items generalizing mark with
  | nil => exact .slnil
  | cons item items inductionHypothesis =>
      by_cases taken : mark ≤ number item
      · simp only [take, if_pos taken]
        exact (inductionHypothesis _).cons_cons item
      · simp only [take, if_neg taken]
        exact (inductionHypothesis mark).cons item

/-- The mark does not pass what lies above all items and above itself. -/
theorem take_le
    (number : α → Int)
    {items : List α}
    {mark bound : Int}
    (atMost : mark ≤ bound)
    (inside : ∀ item ∈ items, number item < bound) :
    (take number items mark).2 ≤ bound := by
  induction items generalizing mark with
  | nil => exact atMost
  | cons item items inductionHypothesis =>
      have later : ∀ other ∈ items, number other < bound :=
        fun other member => inside other (List.mem_cons_of_mem _ member)
      by_cases taken : mark ≤ number item
      · simp only [take, if_pos taken]
        exact inductionHypothesis (inside item List.mem_cons_self) later
      · simp only [take, if_neg taken]
        exact inductionHypothesis atMost later

end HighWater
