import GridTable.Proofs.Extraction.Display

/-! Extracting numbers: a numeric variable has a value in each cell, so that only the size of
batches, the name of the dimension of a read and the coordinates of dimensions matter.
-/

namespace GridTable.Dataset

open Outcome

variable {dataset : Dataset} {stored : Variable} {field : String} {filters : List Filter}
variable {selection : Selection} {batchSize : Int}

/-- A numeric variable has a value in each cell of its grid. -/
theorem Sound.not_isUnreadable (sound : dataset.Sound) (hm : stored ∈ dataset.fields)
    (numeric : stored.element.isNumeric) {cell : CellIndex} (inGrid : InGrid stored.axes cell)
    : ¬stored.IsUnreadable cell := by
  rintro ⟨-, failure, failed⟩
  have settled := Variable.inGrid_settled (sound.consistent hm) inGrid
  have located : Variable.locate? stored.axes cell
      = some (rowMajor stored.axes (Variable.settled stored.axes cell)) :=
    Variable.offset?_of_inGrid settled
  obtain ⟨values, cells⟩ := Variable.doubles_of_not_holdsTexts (sound.numeric stored hm numeric)
  have inside : rowMajor stored.axes (Variable.settled stored.axes cell) < values.size := by
    rw [Cells.size_of_doubles? cells, sound.filled stored hm]
    exact rowMajor_lt_cellCount settled
  rw [Variable.valueAt, located, Option.elim_some, Variable.inBlock_of_doubles? cells,
    Array.getElem?_eq_getElem inside] at failed
  cases failed

theorem Sound.not_isUnreadable_of_select (sound : dataset.Sound)
    (selected : (dataset.source.select field filters).outcome = .ok selection)
    (found : dataset.lookup? field = some stored) (numeric : stored.element.isNumeric)
    {cell : CellIndex} (hm : cell ∈ selection.enumerate)
    : ¬stored.IsUnreadable cell :=
  sound.not_isUnreadable (mem_of_lookup? found).1 numeric
    (sound.inGrid_of_mem_enumerate selected found hm)

/-- The first batch fails where a coordinate takes the name of the dimension of a read. -/
theorem Sound.valuesInBatches_of_isPointsTaken (sound : dataset.Sound)
    (selected : (dataset.source.select field filters).outcome = .ok selection)
    (usable : Extraction.IsBatchSize batchSize) (filled : selection.enumerate ≠ [])
    (taken : dataset.isPointsTaken)
    : Extraction.valuesInBatches dataset.source field batchSize selection.enumerate
      = readFailure ("batched read of '" ++ field ++ "'") "" (some .badValue) := by
  obtain ⟨stored, found, supported, -, inGrid⟩ := sound.inGrid_of_select selected
  have readable : dataset.findReadable field = .ok stored :=
    findReadable_eq_ok_iff.mpr ⟨found, supported⟩
  have positive : batchSize.toNat ≠ 0 := by
    have := usable.1
    omega
  have first : selection.enumerate.take batchSize.toNat ≠ [] := by
    simp [List.take_eq_nil_iff, positive, filled]
  have kept : ∀ cell ∈ selection.enumerate.take batchSize.toNat, cell ∈ selection.enumerate :=
    fun cell hm => List.mem_of_mem_take hm
  have located : ¬∃ cell ∈ selection.enumerate.take batchSize.toNat, stored.IsLost cell :=
    fun ⟨cell, hm, lost⟩ => sound.not_isLost_of_select selected found (kept cell hm) lost
  have failed : dataset.source.points field (selection.enumerate.take batchSize.toNat)
      = readFailure ("batched read of '" ++ field ++ "'") "" (some .badValue) := by
    refine (points_of_whole readable fun cell hm => (inGrid cell (kept cell hm)).length_eq).trans ?_
    rw [if_neg located, if_pos ⟨first, taken⟩]
  rw [Extraction.valuesInBatches, pieces, if_neg (not_or.mpr ⟨positive, filled⟩), List.mapM_cons,
    failed]
  rfl

/-- Numbers are read and shown if batches have a usable size, the dimension of a read has a name of
its own, and there are coordinates for all indices.
-/
theorem Sound.exists_readTable (sound : dataset.Sound)
    (selected : (dataset.source.select field filters).outcome = .ok selection)
    (found : dataset.lookup? field = some stored) (numeric : stored.element.isNumeric)
    (usable : Extraction.IsBatchSize batchSize)
    (free : ¬(selection.enumerate ≠ [] ∧ dataset.isPointsTaken))
    (shown : ∀ cell ∈ selection.enumerate, ¬dataset.IsUnshown stored cell)
    : ∃ table, Extraction.readTable dataset.source field selection batchSize = .ok table := by
  have read := sound.alike_valuesInBatches_of_select selected found usable
  rw [if_neg free] at read
  obtain ⟨values, all⟩ := (sound.exists_mapM_valueAt_iff selected found).mpr fun cell hm =>
    sound.not_isUnreadable_of_select selected found numeric hm
  rw [sound.readTable_of_select selected found usable, read.eq_ok_iff.mpr all, ok_bind]
  cases columns : Extraction.dimensionColumns selection.enumerate 0
      ((stored.axes.map Axis.name).zip
        (stored.axes.map fun axis => (dataset.coordinate axis.name).toOption)) with
  | error failure =>
      obtain rfl := Extraction.eq_badIndex_of_dimensionColumns columns
      obtain ⟨cell, hm, unshown⟩ :=
        (faults_dimensionColumns_iff_isUnshown fun cell hm =>
          sound.inGrid_of_mem_enumerate selected found hm).mp ⟨.badIndex, columns⟩
      exact absurd unshown (shown cell hm)
  | ok named => exact ⟨_, rfl⟩

end GridTable.Dataset
