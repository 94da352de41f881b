import GridTable.Selection
import Mathlib.Data.List.Forall2

/-! Combinations of candidates: which cells they are, how many there are, and their order.
-/

namespace GridTable.Selection

/-- The choices are the cells with one index of each list, by list induction. -/
theorem mem_choices {lists : List (List Int)} {cell : CellIndex}
    : cell ∈ choices lists ↔ List.Forall₂ (· ∈ ·) cell lists := by
  induction lists generalizing cell with
  | nil => simp [choices]
  | cons indices rest ih =>
      simp only [choices, List.mem_flatMap, List.mem_map, ih, List.forall₂_cons_right_iff]
      constructor
      · rintro ⟨index, hi, tail, ht, rfl⟩
        exact ⟨index, tail, hi, ht, rfl⟩
      · rintro ⟨index, tail, hi, ht, rfl⟩
        exact ⟨index, hi, tail, ht, rfl⟩

theorem length_choices (lists : List (List Int))
    : (choices lists).length = lists.foldr (fun indices count => indices.length * count) 1 := by
  induction lists with
  | nil => rfl
  | cons indices rest ih =>
      simp only [choices, List.length_flatMap, List.length_map, List.map_const',
        List.sum_replicate_nat, ih, List.foldr_cons]

/-- Choices of ascending lists come in lexicographic order: the first index decides between
blocks, the induction hypothesis inside of one.
-/
theorem pairwise_choices {lists : List (List Int)}
    (h : ∀ indices ∈ lists, indices.Pairwise (· < ·))
    : (choices lists).Pairwise (· < ·) := by
  induction lists with
  | nil => exact List.pairwise_singleton _ _
  | cons indices rest ih =>
      obtain ⟨hfirst, hrest⟩ := List.forall_mem_cons.mp h
      refine List.pairwise_flatMap.mpr ⟨fun index _ => ?_, hfirst.imp fun hlt => ?_⟩
      · exact List.pairwise_map.mpr
          ((ih hrest).imp fun hlt => List.cons_lt_cons_iff.mpr (Or.inr ⟨rfl, hlt⟩))
      · intro left hl right hr
        obtain ⟨_, _, rfl⟩ := List.mem_map.mp hl
        obtain ⟨_, _, rfl⟩ := List.mem_map.mp hr
        exact List.cons_lt_cons_iff.mpr (Or.inl hlt)

theorem pairwise_choices_sets (sets : List IndexSet)
    : (choices (sets.map IndexSet.toList)).Pairwise (· < ·) := by
  refine pairwise_choices fun indices hi => ?_
  obtain ⟨set, -, rfl⟩ := List.mem_map.mp hi
  exact set.ascending

end GridTable.Selection
