import Mathlib.Data.List.Induction
import Mathlib.Data.List.Infix

/-!
# Frames that are sent in chunks

A sender hands frames to a channel, which takes some part of each.  The record
of a sending lists every frame with the part that was taken.  What reaches the
other end is a sequence of frames exactly when a frame that was cut short is
continued before another one begins.
-/

namespace Chunks

variable {φ α : Type} [DecidableEq α]

/-- What was taken of the frames, one after the other. -/
def taken (sending : List (φ × List α)) : List α := sending.flatMap Prod.snd

/-- Continue with a chunk when a part of an earlier frame is still missing.  The
result is what is missing afterwards, and none when the chunk does not belong
there. -/
def resume
    (contents : φ → List α)
    (missing : List α)
    (chunk : φ × List α) : Option (List α) :=
  let expected := if missing = [] then contents chunk.1 else missing
  if chunk.2.isPrefixOf expected then some (expected.drop chunk.2.length)
  else none

/-- What is missing of the last frame of a sending, and none when another frame
was begun before the last one was complete. -/
def owed (contents : φ → List α) (sending : List (φ × List α)) :
    Option (List α) :=
  sending.foldlM (resume contents) []

/-- What was taken is a sequence of whole frames and a part of one more, of
which `rest` is missing. -/
def Framed
    (contents : φ → List α)
    (sending : List (φ × List α))
    (rest : List α) : Prop :=
  ∃ (whole : List φ) (part : List α),
    (∀ frame ∈ whole, frame ∈ sending.map Prod.fst) ∧
    taken sending = whole.flatMap contents ++ part ∧
    (part = [] ∧ rest = [] ∨
      ∃ frame ∈ sending.map Prod.fst, part ++ rest = contents frame)

/-- Whether the last frame was not taken whole. -/
def cutShort (contents : φ → List α) (sending : List (φ × List α)) : Bool :=
  sending.getLast?.any fun chunk => chunk.2.length < (contents chunk.1).length

variable {contents : φ → List α}

theorem owed_append
    (sending : List (φ × List α))
    (chunk : φ × List α) :
    owed contents (sending ++ [chunk]) =
      (owed contents sending).bind fun missing =>
        resume contents missing chunk := by
  unfold owed
  rw [List.foldlM_append]
  cases sending.foldlM (resume contents) [] with
  | none => rfl
  | some missing => simp

/-- A chunk that is accepted is a beginning of what is expected. -/
theorem resume_eq_some
    {missing rest : List α}
    {chunk : φ × List α} :
    resume contents missing chunk = some rest ↔
      chunk.2 ++ rest = if missing = [] then contents chunk.1 else missing := by
  unfold resume
  generalize (if missing = [] then contents chunk.1 else missing) = expected
  dsimp only
  constructor
  · intro accepted
    split at accepted
    · rename_i isBeginning
      obtain rfl := Option.some.inj accepted
      exact List.prefix_iff_eq_append.mp (List.isPrefixOf_iff_prefix.mp isBeginning)
    · cases accepted
  · rintro rfl
    rw [if_pos (by simp), List.drop_left]

/-- A sending in which every frame is completed before the next one begins is a
sequence of whole frames and a part of one more. -/
theorem framed_of_owed
    {sending : List (φ × List α)}
    {rest : List α}
    (owes : owed contents sending = some rest) :
    Framed contents sending rest := by
  induction sending using List.reverseRecOn generalizing rest with
  | nil =>
      obtain rfl := Option.some.inj owes
      exact ⟨[], [], by simp, rfl, .inl ⟨rfl, rfl⟩⟩
  | append_singleton sending chunk inductionHypothesis =>
      rw [owed_append] at owes
      obtain ⟨missing, before, resumed⟩ := Option.bind_eq_some_iff.mp owes
      obtain ⟨whole, part, members, content, cut⟩ := inductionHypothesis before
      have expected := resume_eq_some.mp resumed
      have takes : taken (sending ++ [chunk]) =
          whole.flatMap contents ++ (part ++ chunk.2) := by
        rw [← List.append_assoc, ← content]
        simp [taken]
      have earlier : ∀ frame ∈ sending.map Prod.fst,
          frame ∈ (sending ++ [chunk]).map Prod.fst := by
        intro frame member
        simp only [List.map_append, List.mem_append]
        exact .inl member
      have newest : chunk.1 ∈ (sending ++ [chunk]).map Prod.fst := by simp
      rcases cut with ⟨rfl, rfl⟩ | ⟨frame, member, complete⟩
      · -- Nothing was begun, so the chunk begins its own frame.
        rw [if_pos rfl] at expected
        exact ⟨whole, chunk.2, fun other inWhole => earlier other (members other inWhole),
          by simpa using takes, .inr ⟨chunk.1, newest, expected⟩⟩
      · by_cases nothing : missing = []
        · -- The earlier frame was complete.
          rw [if_pos nothing] at expected
          rw [nothing, List.append_nil] at complete
          refine ⟨whole ++ [frame], chunk.2, ?_, ?_, .inr ⟨chunk.1, newest, expected⟩⟩
          · intro other inWhole
            rcases List.mem_append.mp inWhole with inside | last
            · exact earlier other (members other inside)
            · obtain rfl := List.mem_singleton.mp last
              exact earlier other member
          · rw [takes, complete]
            simp
        · rw [if_neg nothing] at expected
          refine ⟨whole, part ++ chunk.2, fun other inWhole =>
            earlier other (members other inWhole), takes,
            .inr ⟨frame, earlier frame member, ?_⟩⟩
          rw [List.append_assoc, expected, complete]

/-- When nothing is missing, a beginning of any frame may follow. -/
theorem owed_begin
    {sending : List (φ × List α)}
    (complete : owed contents sending = some [])
    (frame : φ)
    (count : Nat) :
    owed contents (sending ++ [(frame, (contents frame).take count)]) =
      some ((contents frame).drop count) := by
  rw [owed_append, complete, Option.bind_some]
  exact resume_eq_some.mpr (by simp)

omit [DecidableEq α] in
/-- A frame that was not cut short lacks nothing. -/
theorem drop_of_not_cutShort
    {sending : List (φ × List α)}
    {frame : φ}
    {count : Nat}
    (complete : cutShort contents
      (sending ++ [(frame, (contents frame).take count)]) = false) :
    (contents frame).drop count = [] := by
  simp only [cutShort, List.getLast?_append, List.getLast?_singleton,
    Option.some_or, Option.any_some, List.length_take, decide_eq_false_iff_not]
    at complete
  exact List.drop_eq_nil_of_le (by omega)

/-- Every chunk begins a frame of its own, and only the last frame may have been
cut short. -/
structure Tidy (contents : φ → List α) (sending : List (φ × List α)) :
    Prop where
  beginning : ∀ chunk ∈ sending, chunk.2 <+: contents chunk.1
  whole : ∀ chunk ∈ sending.dropLast, chunk.2 = contents chunk.1

/-- The frames that were taken whole. -/
def wholes (contents : φ → List α) (sending : List (φ × List α)) : List φ :=
  (sending.filter fun chunk => chunk.2 = contents chunk.1).map Prod.fst

theorem wholes_append_singleton
    (sending : List (φ × List α))
    (chunk : φ × List α) :
    wholes contents (sending ++ [chunk]) =
      wholes contents sending ++
        if chunk.2 = contents chunk.1 then [chunk.1] else [] := by
  by_cases complete : chunk.2 = contents chunk.1 <;>
    simp [wholes, complete]

/-- When every frame was taken whole, what was taken is the frames. -/
theorem taken_of_whole
    {sending : List (φ × List α)}
    (whole : ∀ chunk ∈ sending, chunk.2 = contents chunk.1) :
    taken sending = (wholes contents sending).flatMap contents := by
  have all : sending.filter (fun chunk => chunk.2 = contents chunk.1) =
      sending := by
    rw [List.filter_eq_self]
    exact fun chunk member => decide_eq_true (whole chunk member)
  rw [wholes, all, List.flatMap_map, taken]
  exact List.flatMap_congr whole

namespace Tidy

omit [DecidableEq α] in
theorem nil : Tidy contents [] :=
  ⟨by simp, by simp⟩

omit [DecidableEq α] in
theorem singleton
    {chunk : φ × List α}
    (beginning : chunk.2 <+: contents chunk.1) :
    Tidy contents [chunk] :=
  ⟨by simpa using beginning, by simp⟩

omit [DecidableEq α] in
/-- If the last frame was not cut short, then all frames were taken whole. -/
theorem all_whole
    {sending : List (φ × List α)}
    (tidy : Tidy contents sending)
    (uncut : cutShort contents sending = false) :
    ∀ chunk ∈ sending, chunk.2 = contents chunk.1 := by
  induction sending using List.reverseRecOn with
  | nil => simp
  | append_singleton earlier last _ =>
      intro chunk member
      rcases List.mem_append.mp member with before | now
      · exact tidy.whole chunk (by simpa using before)
      · obtain rfl := List.mem_singleton.mp now
        apply (tidy.beginning chunk member).eq_of_length_le
        simpa [cutShort] using uncut

omit [DecidableEq α] in
/-- Another frame may begin when the last one was not cut short. -/
theorem append
    {sending : List (φ × List α)}
    {chunk : φ × List α}
    (tidy : Tidy contents sending)
    (uncut : cutShort contents sending = false)
    (beginning : chunk.2 <+: contents chunk.1) :
    Tidy contents (sending ++ [chunk]) := by
  refine ⟨?_, ?_⟩
  · intro other member
    rcases List.mem_append.mp member with before | now
    · exact tidy.beginning other before
    · obtain rfl := List.mem_singleton.mp now
      exact beginning
  · rw [List.dropLast_concat]
    exact tidy.all_whole uncut

/-- What was taken is the whole frames and at most a proper part of one more. -/
theorem taken_eq
    {sending : List (φ × List α)}
    (tidy : Tidy contents sending) :
    ∃ part, taken sending =
        (wholes contents sending).flatMap contents ++ part ∧
      (part = [] ∨ ∃ frame ∈ sending.map Prod.fst,
        part <+: contents frame ∧ part ≠ contents frame) := by
  induction sending using List.reverseRecOn with
  | nil => exact ⟨[], rfl, .inl rfl⟩
  | append_singleton earlier last _ =>
      have before : taken earlier =
          (wholes contents earlier).flatMap contents :=
        taken_of_whole fun chunk member =>
          tidy.whole chunk (by simpa using member)
      have takes : taken (earlier ++ [last]) = taken earlier ++ last.2 := by
        simp [taken]
      have lastBegins := tidy.beginning last (by simp)
      rw [takes, before, wholes_append_singleton]
      by_cases complete : last.2 = contents last.1
      · exact ⟨[], by simp [complete], .inl rfl⟩
      · exact ⟨last.2, by simp [complete],
          .inr ⟨last.1, by simp, lastBegins, complete⟩⟩

end Tidy

/-- What has arrived on some channels, in the order in which they were opened,
is a beginning of what was sent on each. -/
def Within : List (List α) → List (List α) → Prop
  | [], _ => True
  | _ :: _, [] => False
  | part :: parts, whole :: wholes => part <+: whole ∧ Within parts wholes

namespace Within

instance decide :
    ∀ parts wholes : List (List α), Decidable (Within parts wholes)
  | [], _ => .isTrue trivial
  | _ :: _, [] => .isFalse id
  | part :: parts, whole :: wholes =>
      have : Decidable (Within parts wholes) := decide parts wholes
      inferInstanceAs (Decidable (part <+: whole ∧ Within parts wholes))

omit [DecidableEq α] in
theorem refl (parts : List (List α)) : Within parts parts := by
  induction parts with
  | nil => trivial
  | cons part parts inductionHypothesis =>
      exact ⟨List.prefix_rfl, inductionHypothesis⟩

omit [DecidableEq α] in
theorem trans
    {first second third : List (List α)}
    (before : Within first second)
    (after : Within second third) :
    Within first third := by
  induction first generalizing second third with
  | nil => trivial
  | cons part parts inductionHypothesis =>
      cases second with
      | nil => exact before.elim
      | cons middle middles =>
          cases third with
          | nil => exact after.elim
          | cons whole wholes =>
              exact ⟨before.1.trans after.1,
                inductionHypothesis before.2 after.2⟩

omit [DecidableEq α] in
/-- Another channel is opened. -/
theorem append (parts opened : List (List α)) :
    Within parts (parts ++ opened) := by
  induction parts with
  | nil => trivial
  | cons part parts inductionHypothesis =>
      exact ⟨List.prefix_rfl, inductionHypothesis⟩

omit [DecidableEq α] in
/-- More is sent on the last channel. -/
theorem extend (parts : List (List α)) (last more : List α) :
    Within (parts ++ [last]) (parts ++ [last ++ more]) := by
  induction parts with
  | nil => exact ⟨List.prefix_append last more, trivial⟩
  | cons part parts inductionHypothesis =>
      exact ⟨List.prefix_rfl, inductionHypothesis⟩

end Within

end Chunks
