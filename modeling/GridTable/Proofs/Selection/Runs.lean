import GridTable.Proofs.Selection.Membership

/-! Selections after runs of findings, from the selection of all cells on.
-/

namespace GridTable.Selection

-----------------------------------------------------------------------------------------
-- The selection of all cells
-----------------------------------------------------------------------------------------

theorem candidates_ofAxes (axes : List Axis)
    : (ofAxes axes).candidates
      = Keyed.collect (axes.map fun axis => (axis.name, IndexSet.below axis.size)) := by
  simp [ofAxes, Keyed.collect, List.foldl_map]

theorem names_ofAxes (axes : List Axis)
    : Keyed.names (axes.map fun axis => (axis.name, IndexSet.below axis.size))
      = axes.map Axis.name := by
  simp [Keyed.names]

theorem valid_ofAxes (axes : List Axis) : (ofAxes axes).Valid where
  known := fun name => by
    rw [candidates?, candidates_ofAxes, Keyed.isSome_find?_iff, Keyed.mem_names_collect,
      names_ofAxes]
    rfl
  whole := nofun

/-- Where dimensions of one name have one size, each starts with all of its indices. -/
theorem sets_ofAxes {axes : List Axis} (consistent : Axis.Consistent axes)
    : (ofAxes axes).sets = axes.map fun axis => IndexSet.below axis.size := by
  have dimensions : (ofAxes axes).dimensions = axes.map Axis.name := rfl
  rw [sets, dimensions, List.map_map]
  refine List.map_congr_left fun axis hm => ?_
  obtain ⟨set, found, entry⟩ := Keyed.exists_find?_collect
    ((names_ofAxes axes).symm ▸ List.mem_map_of_mem hm : axis.name ∈ Keyed.names _)
  obtain ⟨other, ho, same⟩ := List.mem_map.mp entry
  obtain ⟨named, rfl⟩ := Prod.mk.inj same
  simp [candidatesOf, candidates?, candidates_ofAxes, found, consistent other ho axis hm named]

theorem mem_enumerate_ofAxes {axes : List Axis} (consistent : Axis.Consistent axes)
    {cell : CellIndex}
    : cell ∈ (ofAxes axes).enumerate ↔ InGrid axes cell := by
  rw [mem_enumerate (valid_ofAxes axes), Candidate, sets_ofAxes consistent,
    List.forall₂_map_right_iff]
  simp [ofAxes, InGrid]

-----------------------------------------------------------------------------------------
-- Runs of findings
-----------------------------------------------------------------------------------------

@[simp] theorem dimensions_foldl_folded (findings : List Finding) (selection : Selection)
    : (findings.foldl folded selection).dimensions = selection.dimensions := by
  induction findings generalizing selection with
  | nil => rfl
  | cons finding rest ih => rw [List.foldl_cons, ih, dimensions_folded]

/-- A run succeeds just if each of its findings applies, and then takes the total steps. -/
theorem foldlM_fold_eq_ok_iff {selection last : Selection} (valid : selection.Valid)
    {findings : List Finding}
    : findings.foldlM fold selection = .ok last
      ↔ (∀ finding ∈ findings, finding.AppliesTo selection.dimensions)
        ∧ findings.foldl folded selection = last := by
  induction findings generalizing selection with
  | nil => simp [pure, Except.pure]
  | cons finding rest ih =>
      simp only [List.foldlM_cons, Outcome.bind_eq_ok_iff, fold_eq_ok_iff valid,
        List.forall_mem_cons, List.foldl_cons]
      constructor
      · rintro ⟨next, ⟨applies, rfl⟩, later⟩
        obtain ⟨others, same⟩ := (ih (valid.folded applies)).mp later
        exact ⟨⟨applies, by simpa using others⟩, same⟩
      · rintro ⟨⟨applies, others⟩, same⟩
        exact ⟨_, ⟨applies, rfl⟩,
          (ih (valid.folded applies)).mpr ⟨by simpa using others, same⟩⟩

theorem Valid.foldl_folded {selection : Selection} (valid : selection.Valid)
    {findings : List Finding}
    (applies : ∀ finding ∈ findings, finding.AppliesTo selection.dimensions)
    : (findings.foldl Selection.folded selection).Valid := by
  induction findings generalizing selection with
  | nil => exact valid
  | cons finding rest ih =>
      obtain ⟨hfirst, hrest⟩ := List.forall_mem_cons.mp applies
      exact ih (valid.folded hfirst) (by simpa using hrest)

theorem mem_enumerate_foldl_folded {selection : Selection} (valid : selection.Valid)
    (hd : selection.dimensions.Nodup) {findings : List Finding}
    (applies : ∀ finding ∈ findings, finding.AppliesTo selection.dimensions)
    (apart : ∀ finding ∈ findings, finding.dimensions.Nodup) {cell : CellIndex}
    : cell ∈ (findings.foldl folded selection).enumerate
      ↔ cell ∈ selection.enumerate
        ∧ ∀ finding ∈ findings, finding.Keeps selection.dimensions cell := by
  induction findings generalizing selection with
  | nil => simp
  | cons finding rest ih =>
      obtain ⟨hfirst, hrest⟩ := List.forall_mem_cons.mp applies
      obtain ⟨hapart, hothers⟩ := List.forall_mem_cons.mp apart
      rw [List.foldl_cons, ih (valid.folded hfirst) (by simpa using hd) (by simpa using hrest)
        hothers, mem_enumerate_folded valid hd hfirst hapart, dimensions_folded, and_assoc,
        List.forall_mem_cons]

/-- From the selection of all cells on, a run keeps the cells of the grid that all findings
keep.
-/
theorem mem_enumerate_run {axes : List Axis} (distinct : (axes.map Axis.name).Nodup)
    {findings : List Finding}
    (applies : ∀ finding ∈ findings, finding.AppliesTo (axes.map Axis.name))
    (apart : ∀ finding ∈ findings, finding.dimensions.Nodup) {cell : CellIndex}
    : cell ∈ (findings.foldl folded (ofAxes axes)).enumerate
      ↔ InGrid axes cell
        ∧ ∀ finding ∈ findings, finding.Keeps (axes.map Axis.name) cell := by
  rw [mem_enumerate_foldl_folded (valid_ofAxes axes) distinct applies apart,
    mem_enumerate_ofAxes (Axis.consistent_of_nodup distinct)]
  rfl

/-- What is selected after any findings are the cells of the grid that each of them keeps, each
cell once. The same findings in another order can be folded as well and select the same cells.
-/
theorem enumerate_selects_kept {axes : List Axis} (distinct : (axes.map Axis.name).Nodup)
    {findings : List Finding} (apart : ∀ finding ∈ findings, finding.dimensions.Nodup)
    {selection : Selection} (run : findings.foldlM fold (ofAxes axes) = .ok selection)
    : selection.enumerate.Nodup
      ∧ (∀ cell,
          cell ∈ selection.enumerate
          ↔ InGrid axes cell
            ∧ ∀ finding ∈ findings, finding.Keeps (axes.map Axis.name) cell)
      ∧ ∀ reordered : List Finding,
          reordered.Perm findings
          → ∃ other,
              reordered.foldlM fold (ofAxes axes) = .ok other
              ∧ ∀ cell, cell ∈ other.enumerate ↔ cell ∈ selection.enumerate := by
  obtain ⟨applies, rfl⟩ := (foldlM_fold_eq_ok_iff (valid_ofAxes axes)).mp run
  refine ⟨nodup_enumerate _, fun cell => mem_enumerate_run distinct applies apart, ?_⟩
  intro reordered same
  have applies' : ∀ finding ∈ reordered, finding.AppliesTo (axes.map Axis.name) :=
    fun finding hm => applies finding (same.mem_iff.mp hm)
  have apart' : ∀ finding ∈ reordered, finding.dimensions.Nodup :=
    fun finding hm => apart finding (same.mem_iff.mp hm)
  refine ⟨_, (foldlM_fold_eq_ok_iff (valid_ofAxes axes)).mpr ⟨applies', rfl⟩, fun cell => ?_⟩
  rw [mem_enumerate_run distinct applies' apart', mem_enumerate_run distinct applies apart]
  simp only [same.mem_iff]

/-- Indices along one dimension, then pairs along it and another one in reverse order. Both
list indices beyond the grid, and the pairs a repeated one.
-/
def crossing : List Finding :=
  [
    .single "y" ⟨[1, 7], by decide⟩,
    .pairs "y" "x" [(1, 2), (0, 2), (1, 2), (-1, 1), (1, 0)]
  ]

/-- The findings of `crossing` keep two cells of a grid, in whatever order they come. -/
theorem enumerate_selects_kept_crossing
    : ∃ selection,
        crossing.foldlM fold (ofAxes [⟨"x", 3⟩, ⟨"y", 2⟩]) = .ok selection
        ∧ selection.enumerate.Nodup
        ∧ [0, 1] ∈ selection.enumerate
        ∧ [2, 1] ∈ selection.enumerate
        ∧ [2, 0] ∉ selection.enumerate
        ∧ ∃ other,
            crossing.reverse.foldlM fold (ofAxes [⟨"x", 3⟩, ⟨"y", 2⟩]) = .ok other
            ∧ [0, 1] ∈ other.enumerate := by
  have run : crossing.foldlM fold (ofAxes [⟨"x", 3⟩, ⟨"y", 2⟩]) = .ok _ :=
    (foldlM_fold_eq_ok_iff (valid_ofAxes _)).mpr ⟨by decide, rfl⟩
  obtain ⟨once, kept, swap⟩ := enumerate_selects_kept (by decide) (by decide) run
  have first := (kept [0, 1]).mpr (by decide)
  obtain ⟨other, again, same⟩ := swap crossing.reverse (List.reverse_perm crossing)
  exact ⟨_, run, once, first, (kept [2, 1]).mpr (by decide), mt (kept [2, 0]).mp (by decide),
    other, again, (same [0, 1]).mpr first⟩

end GridTable.Selection
