import GridTable.Proofs.Selection.Expansion
import GridTable.Proofs.Selection.Findings
import Mathlib.Data.List.Nodup

/-! Which cells a selection holds: after any findings those of the grid that all of them keep.
What is spelled out may be stale, but candidates only become fewer, and a cell of the current
candidates was one of all earlier ones. So each finding just drops the cells it does not keep.
-/

namespace GridTable.Selection

-----------------------------------------------------------------------------------------
-- Enumeration as a set
-----------------------------------------------------------------------------------------

/-- The cells with a candidate of each dimension. -/
def Candidate (selection : Selection) (cell : CellIndex) : Prop :=
  List.Forall₂ (· ∈ ·) cell selection.sets

theorem candidate_iff_entryAlong {selection : Selection} (hd : selection.dimensions.Nodup)
    {cell : CellIndex}
    : selection.Candidate cell
      ↔ cell.length = selection.dimensions.length
        ∧ ∀ name ∈ selection.dimensions,
            entryAlong selection.dimensions cell name ∈ selection.candidatesOf name := by
  rw [Candidate, sets, List.forall₂_map_right_iff, forall₂_iff_entryAlong id (by simpa using hd)]
  simp

theorem allowedBy_iff {selection : Selection} {cell : CellIndex}
    (hl : cell.length = selection.dimensions.length)
    : allowedBy (selection.sets.map fun set => Std.HashSet.ofList set.toList) cell
      ↔ selection.Candidate cell := by
  rw [Candidate, List.forall₂_iff_zip, allowedBy]
  simp [List.zip_map_right, sets, hl, IndexSet.mem_def]

/-- The enumerated cells are the candidates, and of cells spelled out those among them. -/
theorem mem_enumerate {selection : Selection} (valid : selection.Valid) {cell : CellIndex}
    : cell ∈ selection.enumerate
      ↔ selection.Candidate cell
        ∧ ∀ cells, selection.explicit = some cells → cell ∈ cells := by
  rw [enumerate]
  cases h : selection.explicit with
  | none =>
      have same : cell ∈ choices (selection.sets.map IndexSet.toList)
          ↔ selection.Candidate cell := by
        rw [mem_choices, List.forall₂_map_right_iff]
        rfl
      simpa using same
  | some cells =>
      simp only [List.mem_filter, mem_distinctFrom, Std.HashSet.not_mem_empty,
        not_false_eq_true, and_true, Option.some.injEq, forall_eq']
      rw [and_comm]
      exact and_congr_left fun hm => allowedBy_iff (valid.whole cells h cell hm)

theorem length_of_mem_enumerate {selection : Selection} (valid : selection.Valid)
    {cell : CellIndex} (hm : cell ∈ selection.enumerate)
    : cell.length = selection.dimensions.length := by
  have candidate := ((mem_enumerate valid).mp hm).1
  simpa [sets] using candidate.length_eq

theorem nodup_enumerate (selection : Selection) : selection.enumerate.Nodup := by
  rw [enumerate]
  cases selection.explicit with
  | none =>
      refine (pairwise_choices_sets selection.sets).imp ?_
      rintro left right hlt rfl
      exact List.lt_irrefl left hlt
  | some cells => exact (nodup_distinctFrom ∅ cells).filter _

-----------------------------------------------------------------------------------------
-- One finding
-----------------------------------------------------------------------------------------

theorem candidatesOf_withIndices (selection : Selection) (name other : String)
    (indices : IndexSet)
    : (selection.withIndices name indices).candidatesOf other
      = if other = name then (selection.candidatesOf name).inter indices
        else selection.candidatesOf other := by
  split
  · next he => simp [candidatesOf, candidates?, withIndices, he, Keyed.find?_assign_self]
  · next hne =>
      simp [candidatesOf, candidates?, withIndices, Keyed.find?_assign_of_ne (Ne.symm hne)]

/-- Fewer candidates along one dimension drop the cells that lie elsewhere along it. -/
theorem candidate_withIndices_iff {selection : Selection} (hd : selection.dimensions.Nodup)
    {name : String} (hm : name ∈ selection.dimensions) {indices : IndexSet} {cell : CellIndex}
    : (selection.withIndices name indices).Candidate cell
      ↔ selection.Candidate cell
        ∧ entryAlong selection.dimensions cell name ∈ indices := by
  have hd' : (selection.withIndices name indices).dimensions.Nodup := hd
  rw [candidate_iff_entryAlong hd', candidate_iff_entryAlong hd, and_assoc]
  refine and_congr_right fun _ => ?_
  simp only [candidatesOf_withIndices, dimensions_withIndices]
  constructor
  · intro h
    have along := h name hm
    rw [if_pos rfl, IndexSet.mem_inter] at along
    refine ⟨fun other ho => ?_, along.2⟩
    by_cases he : other = name
    · exact he ▸ along.1
    · simpa [he] using h other ho
  · rintro ⟨h, along⟩ other ho
    split
    · next he => exact IndexSet.mem_inter.mpr ⟨he ▸ h other ho, he ▸ along⟩
    · exact h other ho

/-- The positions of a finding that applies to different dimensions fit its groups. -/
theorem anchored_of_appliesTo {selection : Selection} {finding : Finding}
    (applies : finding.AppliesTo selection.dimensions) (apart : finding.dimensions.Nodup)
    : Anchored selection.dimensions.length
        (finding.dimensions.map selection.dimensions.idxOf) finding.groups where
  distinct := by
    refine apart.map_on fun left hl right hr same => ?_
    exact (List.idxOf_inj (applies.known left hl)).mp same
  inside := by
    intro position hp
    obtain ⟨name, hm, rfl⟩ := List.mem_map.mp hp
    exact List.idxOf_lt_length_of_mem (applies.known name hm)
  sized := fun group hg => by simpa using finding.length_of_mem_groups hg

theorem entriesAt_map_idxOf (dimensions names : List String) (cell : CellIndex)
    : entriesAt (names.map dimensions.idxOf) cell
      = names.map (entryAlong dimensions cell) := by
  simp [entriesAt, entryAlong]

/-- At the free positions of an expansion a candidate has candidates. -/
theorem Candidate.entriesAt_free {selection : Selection} {cell : CellIndex}
    (h : selection.Candidate cell) {fixed : List Nat}
    : List.Forall₂ (· ∈ ·) (entriesAt (selection.freePositions fixed) cell)
        (selection.freeSets fixed) := by
  have hl : cell.length = selection.dimensions.length := by simpa [sets] using h.length_eq
  rw [entriesAt, freeSets, List.forall₂_map_left_iff, List.forall₂_map_right_iff,
    List.forall₂_same]
  intro position hp
  have hp := (mem_freePositions.mp hp).1
  have entry := h.get (hl ▸ hp) (by simpa [sets] using hp)
  simpa [sets, List.getD_eq_getElem?_getD, hl, hp] using entry

/-- Of the candidates an expansion holds just those with one of the groups: at the free
positions they have candidates anyway.
-/
theorem Candidate.mem_expand_iff {selection : Selection} {cell : CellIndex}
    (h : selection.Candidate cell) {fixed : List Nat} {groups : List (List Int)}
    (anchored : Anchored selection.dimensions.length fixed groups)
    : cell ∈ selection.expand fixed groups ↔ entriesAt fixed cell ∈ groups := by
  have hl : cell.length = selection.dimensions.length := by simpa [sets] using h.length_eq
  rw [mem_expand anchored]
  exact ⟨fun hm => hm.2.2, fun hg => ⟨hl, h.entriesAt_free, hg⟩⟩

/-- A finding that applies leaves a selection valid: its dimension has candidates already, and
what it spells out is whole.
-/
theorem Valid.folded {selection : Selection} (valid : selection.Valid) {finding : Finding}
    (applies : finding.AppliesTo selection.dimensions)
    : (selection.folded finding).Valid := by
  rcases applies.single_or_isJoint with ⟨name, indices, rfl⟩ | joint
  · refine ⟨fun other => ?_, valid.whole⟩
    have hm : name ∈ selection.dimensions := applies.known name (by simp [Finding.dimensions])
    have before := valid.known other
    simp only [candidates?, Keyed.isSome_find?_iff] at before
    simp only [Selection.folded, withIndices, candidates?, Keyed.isSome_find?_iff,
      Keyed.mem_names_assign, before]
    exact ⟨fun h => h.elim id fun he => he ▸ hm, Or.inl⟩
  · rw [folded_of_isJoint selection joint]
    refine ⟨valid.known, fun cells hc cell hm => ?_⟩
    cases he : selection.explicit with
    | none =>
        rw [explicit_withGroups_of_none he, Option.some.injEq] at hc
        exact length_of_mem_expand (hc ▸ hm)
    | some stored =>
        rw [explicit_withGroups_of_some he, Option.some.injEq] at hc
        exact valid.whole stored he cell (mem_keepCommon.mp (hc ▸ hm)).1

/-- A finding drops just the cells that it does not keep. Witness: the candidates change
only along the dimension of a single finding; for a joint one a candidate is among the cells
spelled out just if its entries form one of the groups.
-/
theorem mem_enumerate_folded {selection : Selection} (valid : selection.Valid)
    (hd : selection.dimensions.Nodup) {finding : Finding}
    (applies : finding.AppliesTo selection.dimensions) (apart : finding.dimensions.Nodup)
    {cell : CellIndex}
    : cell ∈ (selection.folded finding).enumerate
      ↔ cell ∈ selection.enumerate ∧ finding.Keeps selection.dimensions cell := by
  rw [mem_enumerate (valid.folded applies), mem_enumerate valid]
  rcases applies.single_or_isJoint with ⟨name, indices, rfl⟩ | joint
  · rw [and_right_comm]
    have hm := applies.known name (by simp [Finding.dimensions])
    exact and_congr_left fun _ => candidate_withIndices_iff hd hm
  · rw [and_assoc, folded_of_isJoint selection joint]
    refine and_congr_right fun (candidate : selection.Candidate cell) => ?_
    have spelled := candidate.mem_expand_iff (anchored_of_appliesTo applies apart)
    rw [entriesAt_map_idxOf, ← Finding.keeps_iff_mem_groups] at spelled
    cases he : selection.explicit with
    | none => simp [explicit_withGroups_of_none he, spelled]
    | some stored => simp [explicit_withGroups_of_some he, spelled]

end GridTable.Selection
