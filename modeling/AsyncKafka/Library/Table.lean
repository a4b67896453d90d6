import Mathlib.Data.List.Nodup

/-!
# Tables

A table is a list of entries with one entry for a key.  What is looked up is
what stands in the list, and dropping a key drops nothing else.
-/

namespace Table

variable {κ ν : Type} [DecidableEq κ]

/-- In a table without a repeated key, looking up finds the entry. -/
theorem lookup_eq_some_iff_mem
    {entries : List (κ × ν)}
    (distinct : (entries.map Prod.fst).Nodup)
    {key : κ}
    {value : ν} :
    entries.lookup key = some value ↔ (key, value) ∈ entries := by
  induction entries with
  | nil => simp
  | cons entry entries inductionHypothesis =>
      obtain ⟨first, held⟩ := entry
      rw [List.map_cons, List.nodup_cons] at distinct
      obtain ⟨absent, distinct⟩ := distinct
      rw [List.lookup_cons]
      by_cases same : key = first
      · subst same
        have elsewhere : (key, value) ∉ entries := fun member =>
          absent (List.mem_map.mpr ⟨_, member, rfl⟩)
        simp [elsewhere, eq_comm]
      · rw [beq_eq_false_iff_ne.mpr same]
        simp [inductionHypothesis distinct, same]

/-- Dropping a key leaves the other entries where they are. -/
theorem lookup_drop (entries : List (κ × ν)) (key other : κ) :
    (entries.filter fun entry => entry.1 != key).lookup other =
      if other = key then none else entries.lookup other := by
  induction entries with
  | nil => simp
  | cons entry entries inductionHypothesis =>
      obtain ⟨first, held⟩ := entry
      rw [List.filter_cons]
      by_cases dropped : first = key
      · subst dropped
        simp only [bne_self_eq_false, Bool.false_eq_true, if_false,
          inductionHypothesis, List.lookup_cons]
        by_cases sought : other = first
        · simp [sought]
        · simp [sought, beq_eq_false_iff_ne.mpr sought]
      · simp only [bne_iff_ne, ne_eq, dropped, not_false_eq_true, if_true,
          List.lookup_cons]
        by_cases found : other = first
        · subst found
          simp [dropped]
        · simp [beq_eq_false_iff_ne.mpr found, inductionHypothesis]

/-- The entries of a key are the one that is looked up. -/
theorem filter_key
    {entries : List (κ × ν)}
    (distinct : (entries.map Prod.fst).Nodup)
    (key : κ) :
    (entries.filter fun entry => entry.1 = key).map Prod.snd =
      (entries.lookup key).toList := by
  induction entries with
  | nil => simp
  | cons entry entries inductionHypothesis =>
      obtain ⟨first, held⟩ := entry
      rw [List.map_cons, List.nodup_cons] at distinct
      obtain ⟨absent, distinct⟩ := distinct
      rw [List.filter_cons, List.lookup_cons]
      by_cases same : first = key
      · subst same
        have alone : entries.filter (fun entry => entry.1 = first) = [] :=
          List.filter_eq_nil_iff.mpr fun entry member => by
            simpa using fun equal : entry.1 = first =>
              absent (equal ▸ List.mem_map.mpr ⟨entry, member, rfl⟩)
        simp [alone]
      · have other : ¬ key = first := fun equal => same equal.symm
        simp [same, beq_eq_false_iff_ne.mpr other, inductionHypothesis distinct]

end Table
