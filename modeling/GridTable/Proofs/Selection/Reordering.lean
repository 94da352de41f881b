import GridTable.Proofs.Selection.Runs

/-! Which cells a selection holds whatever the names of its dimensions are: also where names
repeat, or where a finding names one dimension twice, each finding just drops the cells that it
does not admit. So findings in another order select the same cells.
-/

namespace GridTable

/-- A finding admits a cell whose indices are among its own wherever its one dimension lies, or
in which one of its groups, put at the positions of its dimensions, changes nothing.
-/
def Finding.Admits (dimensions : List String) (cell : CellIndex) : Finding → Prop
  | .single name indices =>
      ∀ index other, (index, other) ∈ cell.zip dimensions → other = name → index ∈ indices
  | finding =>
      ∃ group ∈ finding.groups,
        Selection.place (finding.dimensions.map dimensions.idxOf) group cell = cell

theorem Finding.admits_of_isJoint {dimensions : List String} {cell : CellIndex}
    {finding : Finding} (h : finding.isJoint)
    : finding.Admits dimensions cell
      ↔ ∃ group ∈ finding.groups,
          Selection.place (finding.dimensions.map dimensions.idxOf) group cell = cell := by
  cases finding with
  | single name indices => simp [isJoint] at h
  | pairs first second items => rfl
  | triplets first second third items => rfl
  | unsupported kind => rfl

namespace Selection

-----------------------------------------------------------------------------------------
-- Expansions among the candidates
-----------------------------------------------------------------------------------------

/-- Cells that agree wherever nothing is placed become the same cell. Each placed position makes
them agree there as well, so the induction is on the positions.
-/
theorem place_congr {positions : List Nat} {values : List Int} {left right : CellIndex}
    (sized : values.length = positions.length) (hl : left.length = right.length)
    (agree : ∀ position, position ∉ positions → left.getD position 0 = right.getD position 0)
    : place positions values left = place positions values right := by
  induction positions generalizing values left right with
  | nil =>
      change left = right
      refine List.ext_getElem hl fun position hp hq => ?_
      have same := agree position List.not_mem_nil
      simpa [List.getD_eq_getElem?_getD, hp, hq] using same
  | cons first rest ih =>
      cases values with
      | nil => simp at sized
      | cons value values =>
          rw [place_cons, place_cons]
          refine ih (by simpa using sized) (by simpa using hl) fun position hm => ?_
          by_cases he : position = first
          · subst he
            simp [List.getD_eq_getElem?_getD, List.getElem?_set, hl]
          · have same := agree position (by simp [he, hm])
            simpa [List.getD_eq_getElem?_getD, List.getElem?_set, Ne.symm he] using same

/-- Of the candidates an expansion holds just those in which one of the groups, put at the fixed
positions, changes nothing: everywhere else the expansion holds all candidates.
-/
theorem Candidate.mem_expand_iff_place {selection : Selection} {cell : CellIndex}
    (h : selection.Candidate cell) {fixed : List Nat} {groups : List (List Int)}
    (sized : ∀ group ∈ groups, group.length = fixed.length)
    : cell ∈ selection.expand fixed groups
      ↔ ∃ group ∈ groups, place fixed group cell = cell := by
  have whole : cell.length = selection.dimensions.length := by simpa [sets] using h.length_eq
  have own (position : Nat) (hp : position ∉ fixed)
      : (place (selection.freePositions fixed) (entriesAt (selection.freePositions fixed) cell)
          (List.replicate selection.dimensions.length 0)).getD position 0
        = cell.getD position 0 := by
    by_cases inside : position < selection.dimensions.length
    · have free : position ∈ selection.freePositions fixed :=
        mem_freePositions.mpr ⟨inside, hp⟩
      have inBlank : ∀ other ∈ selection.freePositions fixed,
          other < (List.replicate selection.dimensions.length (0 : Int)).length := by
        simpa using fun other ho => (mem_freePositions.mp ho).1
      have entries := entriesAt_place nodup_freePositions inBlank
        (length_entriesAt (selection.freePositions fixed) cell)
      exact List.map_inj_left.mp entries position free
    · simp [List.getD_eq_getElem?_getD, whole, inside]
  have rebuilt (group : List Int) (hg : group ∈ groups)
      : place fixed group
          (place (selection.freePositions fixed)
            (entriesAt (selection.freePositions fixed) cell)
            (List.replicate selection.dimensions.length 0))
        = place fixed group cell :=
    place_congr (sized group hg) (by simp [whole]) own
  rw [GridTable.Selection.mem_expand_iff_place]
  constructor
  · rintro ⟨assignment, ha, group, hg, same⟩
    have entries := entriesAt_free_place group (length_of_mem_choices_freeSets ha)
    rw [same] at entries
    refine ⟨group, hg, ?_⟩
    rw [← rebuilt group hg, entries, same]
  · rintro ⟨group, hg, same⟩
    refine ⟨_, mem_choices.mpr ?_, group, hg, (rebuilt group hg).trans same⟩
    exact List.forall₂_map_right_iff.mpr h.entriesAt_free

-----------------------------------------------------------------------------------------
-- One finding, and runs of them
-----------------------------------------------------------------------------------------

/-- Fewer candidates along one dimension drop the cells that lie elsewhere along any dimension of
its name.
-/
theorem candidate_withIndices_iff_admits {selection : Selection} {name : String}
    {indices : IndexSet} {cell : CellIndex}
    : (selection.withIndices name indices).Candidate cell
      ↔ selection.Candidate cell
        ∧ (Finding.single name indices).Admits selection.dimensions cell := by
  rw [Candidate, Candidate, sets, sets, dimensions_withIndices, List.forall₂_map_right_iff,
    List.forall₂_map_right_iff]
  simp only [List.forall₂_iff_zip, Finding.Admits, candidatesOf_withIndices]
  constructor
  · rintro ⟨whole, h⟩
    refine ⟨⟨whole, fun {index other} hm => ?_⟩, fun index other hm same => ?_⟩
    · have along := h hm
      split at along
      · next same => exact same ▸ (IndexSet.mem_inter.mp along).1
      · exact along
    · have along := h hm
      rw [if_pos same] at along
      exact (IndexSet.mem_inter.mp along).2
  · rintro ⟨⟨whole, h⟩, admits⟩
    refine ⟨whole, fun {index other} hm => ?_⟩
    split
    · next same => exact IndexSet.mem_inter.mpr ⟨same ▸ h hm, admits index other hm same⟩
    · exact h hm

/-- A finding drops just the cells that it does not admit. -/
theorem mem_enumerate_folded_iff_admits {selection : Selection} (valid : selection.Valid)
    {finding : Finding} (applies : finding.AppliesTo selection.dimensions) {cell : CellIndex}
    : cell ∈ (selection.folded finding).enumerate
      ↔ cell ∈ selection.enumerate ∧ finding.Admits selection.dimensions cell := by
  rw [mem_enumerate (valid.folded applies), mem_enumerate valid]
  rcases applies.single_or_isJoint with ⟨name, indices, rfl⟩ | joint
  · rw [and_right_comm]
    exact and_congr_left fun _ => candidate_withIndices_iff_admits
  · rw [and_assoc, folded_of_isJoint selection joint, Finding.admits_of_isJoint joint]
    refine and_congr_right fun (candidate : selection.Candidate cell) => ?_
    have sized : ∀ group ∈ finding.groups,
        group.length = (finding.dimensions.map selection.dimensions.idxOf).length :=
      fun group hg => by simpa using finding.length_of_mem_groups hg
    have spelled := candidate.mem_expand_iff_place sized
    cases he : selection.explicit with
    | none => simp [explicit_withGroups_of_none he, spelled]
    | some stored => simp [explicit_withGroups_of_some he, spelled]

theorem mem_enumerate_foldl_folded_iff_admits {selection : Selection}
    (valid : selection.Valid) {findings : List Finding}
    (applies : ∀ finding ∈ findings, finding.AppliesTo selection.dimensions)
    {cell : CellIndex}
    : cell ∈ (findings.foldl folded selection).enumerate
      ↔ cell ∈ selection.enumerate
        ∧ ∀ finding ∈ findings, finding.Admits selection.dimensions cell := by
  induction findings generalizing selection with
  | nil => simp
  | cons finding rest ih =>
      obtain ⟨hfirst, hrest⟩ := List.forall_mem_cons.mp applies
      rw [List.foldl_cons, ih (valid.folded hfirst) (by simpa using hrest),
        mem_enumerate_folded_iff_admits valid hfirst, dimensions_folded, and_assoc,
        List.forall_mem_cons]

/-- A run of findings in another order can be folded as well and selects the same cells. -/
theorem foldlM_fold_of_perm {selection last : Selection} (valid : selection.Valid)
    {findings reordered : List Finding} (same : reordered.Perm findings)
    (run : findings.foldlM fold selection = .ok last)
    : ∃ other,
        reordered.foldlM fold selection = .ok other
        ∧ ∀ cell, cell ∈ other.enumerate ↔ cell ∈ last.enumerate := by
  obtain ⟨applies, rfl⟩ := (foldlM_fold_eq_ok_iff valid).mp run
  have again : ∀ finding ∈ reordered, finding.AppliesTo selection.dimensions := by
    intro finding hm
    exact applies finding (same.mem_iff.mp hm)
  refine ⟨_, (foldlM_fold_eq_ok_iff valid).mpr ⟨again, rfl⟩, fun cell => ?_⟩
  rw [mem_enumerate_foldl_folded_iff_admits valid again,
    mem_enumerate_foldl_folded_iff_admits valid applies]
  simp only [same.mem_iff]

end Selection

end GridTable
