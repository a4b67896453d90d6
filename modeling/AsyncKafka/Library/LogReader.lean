import AsyncKafka.Library.Execution
import Mathlib.Tactic

/-!
# Reading a log in order

A log is a sequence indexed by offsets.  A reader has a position; when it
advances it puts out the entries it passes, each once and in order.  A machine
whose every step is such an advance has put out the segment of the log between
its first and its present position.
-/

namespace LogReader

/-- The entries of a log from an offset up to another, which is left out. -/
def segment (log : Int → α) (first last : Int) : List α :=
  (List.range (last - first).toNat).map fun index : Nat => log (first + index)

@[simp] theorem segment_self (log : Int → α) (offset : Int) :
    segment log offset offset = [] := by
  simp [segment]

/-- Adjacent segments are one segment. -/
theorem segment_append
    (log : Int → α)
    {first middle last : Int}
    (early : first ≤ middle)
    (late : middle ≤ last) :
    segment log first middle ++ segment log middle last =
      segment log first last := by
  obtain ⟨before, rfl⟩ : ∃ count : Nat, middle = first + count :=
    ⟨(middle - first).toNat, by omega⟩
  obtain ⟨after, rfl⟩ : ∃ count : Nat, last = first + before + count :=
    ⟨(last - (first + before)).toNat, by omega⟩
  have firstCount : (first + before - first : Int).toNat = before := by omega
  have secondCount :
      (first + before + after - (first + before) : Int).toNat = after := by omega
  have wholeCount :
      (first + before + after - first : Int).toNat = before + after := by omega
  simp only [segment, firstCount, secondCount, wholeCount, List.range_add,
    List.map_append, List.map_map]
  congr 1
  apply List.map_congr_left
  intro index _
  simp [Int.add_assoc]

/-- A segment of one entry. -/
theorem segment_succ (log : Int → α) (offset : Int) :
    segment log offset (offset + 1) = [log offset] := by
  simp [segment]

/-- A nonempty segment starts with its first entry. -/
theorem segment_cons
    (log : Int → α)
    {first last : Int}
    (nonempty : first < last) :
    segment log first last = log first :: segment log (first + 1) last := by
  rw [← segment_append log (show first ≤ first + 1 by omega) nonempty,
    segment_succ]
  rfl

/-- A reader goes from one position to another and puts out what lies between. -/
def Advance
    (log : Int → α)
    (before : Int)
    (output : List α)
    (after : Int) : Prop :=
  before ≤ after ∧ output = segment log before after

namespace Advance

theorem stay (log : Int → α) (position : Int) :
    Advance log position [] position :=
  ⟨le_rfl, (segment_self log position).symm⟩

theorem trans
    {log : Int → α}
    {first second third : Int}
    {early late : List α}
    (before : Advance log first early second)
    (after : Advance log second late third) :
    Advance log first (early ++ late) third := by
  obtain ⟨firstLe, rfl⟩ := before
  obtain ⟨secondLe, rfl⟩ := after
  exact ⟨firstLe.trans secondLe, segment_append log firstLe secondLe⟩

end Advance

/-- Along a run whose steps all advance a reader, the run as a whole advances
it. -/
theorem contiguous
    {step : σ → ι → Except ε σ}
    {allowed : σ → ι → Prop}
    {start : σ}
    (log : Int → α)
    (invariant : σ → Prop)
    (emitted : σ → List α)
    (position : σ → Int)
    (initially : invariant start)
    (advances : ∀ state event next, invariant state → allowed state event →
      step state event = .ok next → invariant next ∧
        ∃ output, emitted next = emitted state ++ output ∧
          Advance log (position state) output (position next))
    {history : List ι}
    {state : σ}
    (run : Execution.Run step allowed start history state) :
    invariant state ∧ ∃ output, emitted state = emitted start ++ output ∧
      Advance log (position start) output (position state) := by
  induction run with
  | nil => exact ⟨initially, [], by simp, .stay log (position start)⟩
  | snoc before permitted stepped inductionHypothesis =>
      obtain ⟨held, early, emittedEarly, advanced⟩ := inductionHypothesis
      obtain ⟨holds, late, emittedLate, advances⟩ :=
        advances _ _ _ held permitted stepped
      refine ⟨holds, early ++ late, ?_, advanced.trans advances⟩
      rw [emittedLate, emittedEarly, List.append_assoc]

/-- The log of the entries so far, with a filling behind its end. -/
def written (filling : α) (entries : List α) (offset : Int) : α :=
  entries.getD offset.toNat filling

/-- A segment of what was written so far. -/
theorem segment_written
    (filling : α)
    {entries : List α}
    {first last : Int}
    (begun : 0 ≤ first)
    (ended : last ≤ entries.length) :
    segment (written filling entries) first last =
      (entries.take last.toNat).drop first.toNat := by
  apply List.ext_getElem
  · simp only [segment, List.length_map, List.length_range, List.length_drop,
      List.length_take]
    omega
  · intro index inSegment inEntries
    simp only [List.length_drop, List.length_take] at inEntries
    have position : (first + index).toNat = first.toNat + index := by omega
    have inside : first.toNat + index < entries.length := by omega
    simp [segment, written, position, List.getElem?_eq_getElem inside]

/-- What is read next follows what was read before. -/
theorem drop_take_append
    (entries : List α)
    {first middle last : Nat}
    (early : first ≤ middle)
    (late : middle ≤ last)
    (inside : middle ≤ entries.length) :
    (entries.take middle).drop first ++ (entries.take last).drop middle =
      (entries.take last).drop first := by
  have same : entries.take middle = (entries.take last).take middle := by
    rw [List.take_take, min_eq_left late]
  have reached : first ≤ ((entries.take last).take middle).length := by
    rw [← same, List.length_take]
    omega
  rw [same, ← List.drop_append_of_le_length reached, List.take_append_drop]

end LogReader
