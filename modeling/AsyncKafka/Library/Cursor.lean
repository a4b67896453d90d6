import Mathlib.Data.List.Basic

/-!
# Cursors

A cursor is a position that can be read and moved on, until it is at the end;
either may fail.  It traverses a list when what it has left to read is the tail
of what it had left before.  A loop over such a cursor is a fold over the list.
-/

/-- The operations of a cursor. -/
structure Cursor (ε : Type) (ι α : Type) where
  atEnd : ι → Bool
  dereference : ι → Except ε α
  increment : ι → Except ε ι

namespace Cursor

variable {ε ι α σ : Type}

/-- A loop from a position to the end, with a bound on the number of rounds.  It
gives no result when the bound does not suffice. -/
def forEach (cursor : Cursor ε ι α) (body : σ → α → σ) :
    Nat → ι → σ → Option (Except ε σ)
  | fuel, position, state =>
      if cursor.atEnd position then some (.ok state)
      else
        match fuel with
        | 0 => none
        | fuel + 1 =>
            match cursor.dereference position with
            | .error halt => some (.error halt)
            | .ok value =>
                match cursor.increment position with
                | .error halt => some (.error halt)
                | .ok next => cursor.forEach body fuel next (body state value)

/-- The valid positions of a cursor, and what each of them has left to read. -/
structure Traverses
    (cursor : Cursor ε ι α)
    (valid : ι → Prop)
    (remaining : ι → List α) : Prop where
  atEnd : ∀ position, valid position →
    (cursor.atEnd position = true ↔ remaining position = [])
  advance : ∀ position value rest, valid position →
    remaining position = value :: rest →
    cursor.dereference position = .ok value ∧
      ∃ next, cursor.increment position = .ok next ∧ valid next ∧
        remaining next = rest

/-- A position with something left to read is not at the end. -/
theorem Traverses.more
    {cursor : Cursor ε ι α}
    {valid : ι → Prop}
    {remaining : ι → List α}
    (traverses : Traverses cursor valid remaining)
    {position : ι}
    {value : α}
    {rest : List α}
    (holds : valid position)
    (left : remaining position = value :: rest) :
    ¬ cursor.atEnd position = true := by
  intro ended
  rw [(traverses.atEnd position holds).mp ended] at left
  cases left

/-- A loop over a traversing cursor is a fold over what is left, and takes one
round for each element. -/
theorem Traverses.forEach_eq
    {cursor : Cursor ε ι α}
    {valid : ι → Prop}
    {remaining : ι → List α}
    (traverses : Traverses cursor valid remaining)
    (body : σ → α → σ)
    (fuel : Nat)
    {position : ι}
    (holds : valid position)
    (state : σ) :
    cursor.forEach body fuel position state =
      if (remaining position).length ≤ fuel then
        some (.ok ((remaining position).foldl body state))
      else none := by
  induction fuel generalizing position state with
  | zero =>
      unfold forEach
      cases left : remaining position with
      | nil =>
          rw [if_pos ((traverses.atEnd position holds).mpr left)]
          rfl
      | cons value rest =>
          rw [if_neg (traverses.more holds left)]
          rfl
  | succ fuel inductionHypothesis =>
      unfold forEach
      cases left : remaining position with
      | nil =>
          rw [if_pos ((traverses.atEnd position holds).mpr left)]
          exact (if_pos (Nat.zero_le _)).symm
      | cons value rest =>
          obtain ⟨read, next, moved, still, tail⟩ :=
            traverses.advance position value rest holds left
          rw [if_neg (traverses.more holds left)]
          simp only [read, moved, inductionHypothesis still, tail,
            List.length_cons, List.foldl_cons, Nat.add_le_add_iff_right]

end Cursor
