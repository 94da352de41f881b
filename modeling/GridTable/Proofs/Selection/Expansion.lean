import GridTable.Proofs.Selection.Choices
import GridTable.Proofs.Selection.FirstOccurrence
import GridTable.Proofs.Selection.Placement

/-! What an expansion spells out: the cells with candidates at the free positions and one of
the groups at the fixed ones, the free positions counting first for their order.
-/

namespace GridTable.Selection

/-- Groups of indices for some positions of a cell: no position is fixed twice, none lies
outside the cell, and each group has one index for each of them.
-/
structure Anchored (rank : Nat) (fixed : List Nat) (groups : List (List Int)) : Prop where
  distinct : fixed.Nodup
  inside : ∀ position ∈ fixed, position < rank
  sized : ∀ group ∈ groups, group.length = fixed.length

section

variable {selection : Selection} {fixed : List Nat} {groups : List (List Int)}

theorem mem_freePositions {position : Nat}
    : position ∈ selection.freePositions fixed
      ↔ position < selection.dimensions.length ∧ position ∉ fixed := by
  simp [freePositions]

theorem nodup_freePositions : (selection.freePositions fixed).Nodup :=
  List.nodup_range.filter _

/-- An expanded cell out of its parts: candidates at the free positions, then a group. -/
theorem mem_expand_iff_place {cell : CellIndex}
    : cell ∈ selection.expand fixed groups
      ↔ ∃ assignment ∈ choices ((selection.freeSets fixed).map IndexSet.toList),
          ∃ group ∈ groups,
            place fixed group
                (place (selection.freePositions fixed) assignment
                  (List.replicate selection.dimensions.length 0))
              = cell := by
  simp [expand]

theorem length_of_mem_expand {cell : CellIndex} (h : cell ∈ selection.expand fixed groups)
    : cell.length = selection.dimensions.length := by
  obtain ⟨assignment, -, group, -, rfl⟩ := mem_expand_iff_place.mp h
  simp

theorem entriesAt_free_place {assignment : List Int} (group : List Int)
    (hl : assignment.length = (selection.freePositions fixed).length)
    : entriesAt (selection.freePositions fixed)
          (place fixed group
            (place (selection.freePositions fixed) assignment
              (List.replicate selection.dimensions.length 0)))
        = assignment := by
  rw [entriesAt_place_of_disjoint fun position hp => (mem_freePositions.mp hp).2]
  refine entriesAt_place nodup_freePositions (fun position hp => ?_) hl
  simpa using (mem_freePositions.mp hp).1

theorem entriesAt_fixed_place (anchored : Anchored selection.dimensions.length fixed groups)
    (start : CellIndex) (hs : start.length = selection.dimensions.length)
    {group : List Int} (hg : group ∈ groups)
    : entriesAt fixed (place fixed group start) = group :=
  entriesAt_place anchored.distinct (fun position hp => hs ▸ anchored.inside position hp)
    (anchored.sized group hg)

theorem length_of_mem_choices_freeSets {assignment : List Int}
    (h : assignment ∈ choices ((selection.freeSets fixed).map IndexSet.toList))
    : assignment.length = (selection.freePositions fixed).length := by
  simpa [freeSets] using (mem_choices.mp h).length_eq

/-- An expansion holds just the cells of full length with candidates at the free positions
and a group at the fixed ones. Witness: such a cell is the one made of its own entries.
-/
theorem mem_expand (anchored : Anchored selection.dimensions.length fixed groups)
    {cell : CellIndex}
    : cell ∈ selection.expand fixed groups
      ↔ cell.length = selection.dimensions.length
        ∧ List.Forall₂ (· ∈ ·) (entriesAt (selection.freePositions fixed) cell)
            (selection.freeSets fixed)
        ∧ entriesAt fixed cell ∈ groups := by
  have candidates (assignment : List Int)
      : assignment ∈ choices ((selection.freeSets fixed).map IndexSet.toList)
        ↔ List.Forall₂ (· ∈ ·) assignment (selection.freeSets fixed) := by
    rw [mem_choices, List.forall₂_map_right_iff]
    rfl
  rw [mem_expand_iff_place]
  constructor
  · rintro ⟨assignment, ha, group, hg, rfl⟩
    have hl := length_of_mem_choices_freeSets ha
    refine ⟨by simp, ?_, ?_⟩
    · rw [entriesAt_free_place group hl]
      exact (candidates assignment).mp ha
    · rw [entriesAt_fixed_place anchored _ (by simp) hg]
      exact hg
  · rintro ⟨hlen, hfree, hgroup⟩
    refine ⟨_, (candidates _).mpr hfree, _, hgroup, ?_⟩
    refine eq_of_entriesAt (by simp [hlen]) (fun position hp => ?_)
      (entriesAt_free_place (entriesAt fixed cell) (length_entriesAt _ cell))
      (entriesAt_fixed_place anchored _ (by simp) hgroup)
    by_cases hf : position ∈ fixed
    · exact Or.inr hf
    · exact Or.inl (mem_freePositions.mpr ⟨by simpa using hp, hf⟩)

/-- Cells compared by some of their entries first, and where these agree by the place of the
others in a list of groups.
-/
def GroupOrder (outer inner : CellIndex → List Int) (groups : List (List Int))
    (left right : CellIndex)
    : Prop :=
  outer left < outer right
  ∨ outer left = outer right ∧ groups.idxOf (inner left) < groups.idxOf (inner right)

/-- An expansion comes by its free entries, and in each block by the first places of its
groups. Blocks are in the order of their assignments; groups are told apart by the fixed
entries, so that a repeated group makes no new cell.
-/
theorem firstOrdered_expand (anchored : Anchored selection.dimensions.length fixed groups)
    : FirstOrdered
        (GroupOrder (entriesAt (selection.freePositions fixed)) (entriesAt fixed) groups)
        (selection.expand fixed groups) := by
  refine FirstOrdered.flatMap (fun assignment ha => ?_) ?_
  · have hl := length_of_mem_choices_freeSets ha
    refine FirstOrdered.map (fun left hg right hh same => ?_) fun left hg right hh hlt => ?_
    · have same := congrArg (entriesAt fixed) same
      rwa [entriesAt_fixed_place anchored _ (by simp) hg,
        entriesAt_fixed_place anchored _ (by simp) hh] at same
    · refine Or.inr ⟨?_, ?_⟩
      · rw [entriesAt_free_place left hl, entriesAt_free_place right hl]
      · rwa [entriesAt_fixed_place anchored _ (by simp) hg,
          entriesAt_fixed_place anchored _ (by simp) hh]
  · refine (pairwise_choices_sets _).imp_of_mem fun ha hb hlt left hm right hn => ?_
    obtain ⟨first, -, rfl⟩ := List.mem_map.mp hm
    obtain ⟨second, -, rfl⟩ := List.mem_map.mp hn
    refine Or.inl ?_
    rwa [entriesAt_free_place first (length_of_mem_choices_freeSets ha),
      entriesAt_free_place second (length_of_mem_choices_freeSets hb)]

end

end GridTable.Selection
