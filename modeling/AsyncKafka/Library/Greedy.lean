import Mathlib.Tactic

/-!
# Greedy batches

A list is cut into batches from the front.  A weight is kept for the batch that
is being filled.  When an element arrives and the weight says that the batch is
full, the batch is closed and the element starts the next one; otherwise it
joins the batch, whatever its own weight.  The weights are of any type, so that
they may be computed with machine arithmetic.
-/

namespace Greedy

variable {α ω : Type}

section Definitions

variable (full : ω → Bool) (add : ω → α → ω) (zero : ω)

/-- The batches of a list, the first of which continues a batch of a given
weight. -/
def cut (weight : ω) (batch : List α) : List α → List (List α)
  | [] => [batch]
  | element :: elements =>
      if full weight then
        batch :: cut (add zero element) [element] elements
      else
        cut (add weight element) (batch ++ [element]) elements

/-- No batch is full that consists of some of the elements in front, but not of
all of them. -/
def Open (batch : List α) : Prop :=
  ∀ front back, front ++ back = batch → front ≠ [] → back ≠ [] →
    full (front.foldl add zero) = false

end Definitions

/-- The parts of a list that have no gaps. -/
def windows (list : List α) : List (List α) := list.tails.flatMap List.inits

theorem mem_windows {window list : List α} :
    window ∈ windows list ↔ window <:+: list := by
  simp only [windows, List.mem_flatMap, List.mem_tails, List.mem_inits]
  constructor
  · rintro ⟨rest, suffix, front⟩
    exact front.isInfix.trans suffix.isInfix
  · rintro ⟨before, after, rfl⟩
    refine ⟨window ++ after, ?_, List.prefix_append _ _⟩
    rw [List.append_assoc]
    exact List.suffix_append _ _

variable {full : ω → Bool} {add : ω → α → ω} {zero : ω}

/-- The batches together are the list. -/
theorem flatten_cut (weight : ω) (batch elements : List α) :
    (cut full add zero weight batch elements).flatten = batch ++ elements := by
  induction elements generalizing weight batch with
  | nil => simp [cut]
  | cons element elements inductionHypothesis =>
      unfold cut
      split
      · rw [List.flatten_cons, inductionHypothesis, List.singleton_append]
      · rw [inductionHypothesis, List.append_assoc, List.singleton_append]

/-- An element that finds a batch open leaves it open. -/
theorem Open.concat
    {batch : List α}
    (opened : Open full add zero batch)
    (unfilled : full (batch.foldl add zero) = false)
    (element : α) :
    Open full add zero (batch ++ [element]) := by
  intro front back whole some more
  rcases List.eq_nil_or_concat' back with rfl | ⟨others, last, rfl⟩
  · exact absurd rfl more
  · rw [← List.append_assoc] at whole
    obtain ⟨same, -⟩ := List.append_inj' whole rfl
    by_cases all : others = []
    · rw [all, List.append_nil] at same
      rw [same]
      exact unfilled
    · exact opened front others same some all

/-- An element begins an open batch. -/
theorem Open.singleton (element : α) : Open full add zero [element] := by
  intro front back whole some more
  have lengths := congrArg List.length whole
  have first := List.length_pos_iff.mpr some
  have second := List.length_pos_iff.mpr more
  simp only [List.length_append, List.length_singleton] at lengths
  omega

/-- Every batch is a part of the list without gaps, and it was open until its
last element came. -/
theorem open_of_mem_cut
    {batch elements closed : List α}
    (opened : Open full add zero batch)
    (member : closed ∈
      cut full add zero (batch.foldl add zero) batch elements) :
    closed <:+: batch ++ elements ∧ Open full add zero closed := by
  induction elements generalizing batch with
  | nil =>
      obtain rfl := List.mem_singleton.mp member
      exact ⟨⟨[], [], by simp⟩, opened⟩
  | cons element elements inductionHypothesis =>
      unfold cut at member
      split at member
      · rcases List.mem_cons.mp member with rfl | later
        · exact ⟨⟨[], element :: elements, by simp⟩, opened⟩
        · obtain ⟨part, still⟩ :=
            inductionHypothesis (.singleton element) later
          exact ⟨part.trans (List.suffix_append _ _).isInfix, still⟩
      · rename_i unfilled
        have weight : add (batch.foldl add zero) element =
            (batch ++ [element]).foldl add zero := by
          rw [List.foldl_append]
          rfl
        rw [weight] at member
        obtain ⟨part, still⟩ := inductionHypothesis
          (opened.concat (by simpa using unfilled) element) member
        rw [List.append_assoc, List.singleton_append] at part
        exact ⟨part, still⟩

/-- Elements that leave a batch open join it, one after the other. -/
theorem exists_mem_cut_of_open
    {batch joining : List α}
    (opened : Open full add zero (batch ++ joining))
    (begun : batch ≠ [])
    (elements : List α) :
    ∃ closed ∈ cut full add zero (batch.foldl add zero) batch
        (joining ++ elements), batch ++ joining <+: closed := by
  induction joining generalizing batch with
  | nil =>
      rw [List.append_nil, List.nil_append]
      clear opened
      induction elements generalizing batch with
      | nil => exact ⟨batch, List.mem_singleton.mpr rfl, List.prefix_rfl⟩
      | cons element elements inductionHypothesis =>
          unfold cut
          split
          · exact ⟨batch, List.mem_cons_self, List.prefix_rfl⟩
          · have weight : add (batch.foldl add zero) element =
                (batch ++ [element]).foldl add zero := by
              rw [List.foldl_append]
              rfl
            have extended : batch ++ [element] ≠ [] := by simp
            obtain ⟨closed, member, longer⟩ := inductionHypothesis extended
            rw [← weight] at member
            exact ⟨closed, member, (List.prefix_append _ _).trans longer⟩
  | cons element joining inductionHypothesis =>
      have unfilled : full (batch.foldl add zero) = false :=
        opened batch (element :: joining) rfl begun (List.cons_ne_nil _ _)
      have weight : add (batch.foldl add zero) element =
          (batch ++ [element]).foldl add zero := by
        rw [List.foldl_append]
        rfl
      rw [List.cons_append, cut, if_neg (by simp [unfilled]), weight]
      have whole : batch ++ [element] ++ joining = batch ++ element :: joining :=
        List.append_cons batch element joining |>.symm
      rw [← whole]
      exact inductionHypothesis (by rw [whole]; exact opened) (by simp)

/-- A window that stays open until its last element comes is a part of one batch,
if the list begins with it. -/
theorem exists_mem_cut_of_window
    {window : List α}
    (opened : Open full add zero window)
    (some : window ≠ [])
    (elements : List α) :
    ∃ closed ∈ cut full add zero zero [] (window ++ elements),
      window <+: closed := by
  obtain ⟨element, joining, rfl⟩ := List.exists_cons_of_ne_nil some
  have whole : Open full add zero ([element] ++ joining) := opened
  obtain ⟨closed, member, longer⟩ :=
    exists_mem_cut_of_open whole (List.cons_ne_nil _ _) elements
  refine ⟨closed, ?_, longer⟩
  rw [List.cons_append, cut]
  split
  · exact List.mem_cons_of_mem _ member
  · exact member

/-- No batch is empty if and only if there is an element for the first one and
an empty batch is not full. -/
theorem nil_notMem_cut_iff (weight : ω) (elements : List α) :
    [] ∉ cut full add zero weight [] elements ↔
      elements ≠ [] ∧ full weight = false := by
  have later (weight : ω) (batch elements : List α) (filled : batch ≠ []) :
      [] ∉ cut full add zero weight batch elements := by
    induction elements generalizing weight batch with
    | nil => simpa [cut] using filled.symm
    | cons element elements inductionHypothesis =>
        unfold cut
        split
        · rw [List.mem_cons, not_or]
          exact ⟨filled.symm, inductionHypothesis _ _ (by simp)⟩
        · exact inductionHypothesis _ _ (by simp)
  cases elements with
  | nil => simp [cut]
  | cons element elements =>
      unfold cut
      cases isFull : full weight with
      | true => simp
      | false => simpa using later _ [element] elements (by simp)

end Greedy
