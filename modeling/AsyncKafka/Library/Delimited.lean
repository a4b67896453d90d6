import Mathlib.Data.List.Basic

/-!
# Texts joined by a delimiter

Two parts are joined by a delimiter that may also occur inside them.  The text
then does not determine the parts: another pair with the same text has its
delimiter at another place, and what lies between the two places belongs to the
first part of one pair and to the second part of the other.
-/

namespace Delimited

/-- Two parts with a delimiter between them. -/
def join (delimiter : α) (first second : List α) : List α :=
  first ++ delimiter :: second

/-- The delimiter between the parts of the second pair comes later, and the
first pair has what lies between the two places in its second part. -/
def Shift
    (delimiter : α)
    (first second first' second' : List α) : Prop :=
  ∃ middle, first' = first ++ delimiter :: middle ∧
    second = middle ++ delimiter :: second'

/-- Two shifted pairs have the same text. -/
theorem Shift.join_eq
    {delimiter : α}
    {first second first' second' : List α}
    (shift : Shift delimiter first second first' second') :
    join delimiter first second = join delimiter first' second' := by
  obtain ⟨middle, rfl, rfl⟩ := shift
  simp [join]

/-- Two shifted pairs are different. -/
theorem Shift.first_ne
    {delimiter : α}
    {first second first' second' : List α}
    (shift : Shift delimiter first second first' second') :
    first ≠ first' := by
  obtain ⟨middle, rfl, -⟩ := shift
  intro equal
  have lengths := congrArg List.length equal
  simp at lengths

/-- The delimiter occurs in the second part of the first pair. -/
theorem Shift.mem_second
    {delimiter : α}
    {first second first' second' : List α}
    (shift : Shift delimiter first second first' second') :
    delimiter ∈ second := by
  obtain ⟨middle, -, rfl⟩ := shift
  simp

/-- What the first part of one pair has more than that of the other is nothing,
or it begins with the delimiter. -/
theorem eq_or_shift_of_append
    {delimiter : α}
    {first second second' rest : List α}
    (remains : delimiter :: second = rest ++ delimiter :: second') :
    (first = first ++ rest ∧ second = second') ∨
      Shift delimiter first second (first ++ rest) second' := by
  cases rest with
  | nil =>
      left
      exact ⟨(List.append_nil first).symm, (List.cons.inj remains).2⟩
  | cons head middle =>
      right
      obtain ⟨rfl, tail⟩ := List.cons.inj remains
      exact ⟨middle, rfl, tail⟩

/-- Two pairs have the same text exactly when they are equal or shifted. -/
theorem join_eq_join_iff
    {delimiter : α}
    {first second first' second' : List α} :
    join delimiter first second = join delimiter first' second' ↔
      (first = first' ∧ second = second') ∨
        Shift delimiter first second first' second' ∨
        Shift delimiter first' second' first second := by
  constructor
  · intro equal
    rcases List.append_eq_append_iff.mp equal with
      ⟨rest, rfl, remains⟩ | ⟨rest, rfl, remains⟩
    · rcases eq_or_shift_of_append remains with same | shift
      · exact .inl same
      · exact .inr (.inl shift)
    · rcases eq_or_shift_of_append remains with ⟨first, second⟩ | shift
      · exact .inl ⟨first.symm, second.symm⟩
      · exact .inr (.inr shift)
  · rintro (⟨rfl, rfl⟩ | shift | shift)
    · rfl
    · exact shift.join_eq
    · exact shift.join_eq.symm

/-- A second part without the delimiter can be read off the text. -/
theorem join_eq_join_iff_of_notMem
    {delimiter : α}
    {first second first' second' : List α}
    (free : delimiter ∉ second)
    (free' : delimiter ∉ second') :
    join delimiter first second = join delimiter first' second' ↔
      first = first' ∧ second = second' := by
  rw [join_eq_join_iff]
  constructor
  · rintro (same | shift | shift)
    · exact same
    · exact absurd shift.mem_second free
    · exact absurd shift.mem_second free'
  · exact .inl

end Delimited
