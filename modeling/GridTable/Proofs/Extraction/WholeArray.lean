import GridTable.Proofs.Extraction.FullScan

/-! Extraction without filters: one row for each cell of a variable, in the order in which the
variable holds them.
-/

namespace GridTable

-----------------------------------------------------------------------------------------
-- All cells in order
-----------------------------------------------------------------------------------------

/-- The numbers below a product come in blocks, by induction on the number of blocks. -/
theorem range_mul (blocks size : Nat)
    : List.range (blocks * size)
      = (List.range blocks).flatMap fun block =>
          (List.range size).map fun offset => block * size + offset := by
  induction blocks with
  | zero => simp
  | succ blocks ih =>
      rw [Nat.succ_mul, List.range_add, ih, List.range_succ, List.flatMap_append]
      simp

namespace Selection

/-- The choices of all indices are the cells at all places in order, by induction on the
dimensions: the first one tells the blocks.
-/
theorem choices_below (axes : List Axis)
    : choices (axes.map fun axis => (IndexSet.below axis.size).toList)
      = allCells axes := by
  induction axes with
  | nil => rfl
  | cons axis axes ih =>
      rw [List.map_cons, choices, ih, allCells, allCells]
      change _ = (List.range (axis.size * Axis.cellCount axes)).map _
      rw [range_mul, List.map_flatMap, IndexSet.below, List.flatMap_map]
      refine List.flatMap_congr fun block hb => ?_
      rw [List.map_map, List.map_map]
      refine List.map_congr_left fun offset ho => ?_
      exact (cellAt_cons_block (List.mem_range.mp hb) (List.mem_range.mp ho)).symm

theorem enumerate_ofAxes {axes : List Axis} (consistent : Axis.Consistent axes)
    : (ofAxes axes).enumerate = allCells axes := by
  have unnarrowed : (ofAxes axes).explicit = none := rfl
  rw [enumerate, unnarrowed, sets_ofAxes consistent, List.map_map, ← choices_below]
  rfl

end Selection

-----------------------------------------------------------------------------------------
-- The table of all cells
-----------------------------------------------------------------------------------------

namespace Dataset

variable {dataset : Dataset} {stored : Variable}

theorem Tabular.rowCount_tableOf (tabular : dataset.Tabular stored) (cells : List CellIndex)
    : (dataset.tableOf stored cells).rowCount = cells.length := by
  have ranked : lowestRank ≤ stored.axes.length := tabular.supported.1
  cases axes : stored.axes with
  | nil => simp [axes, lowestRank] at ranked
  | cons first rest => simp [tableOf, axes, Table.rowCount]

/-- A row of a table holds the number of its cell, and what the dimensions show for its indices. -/
theorem Tabular.entry_tableOf (tabular : dataset.Tabular stored) {cells : List CellIndex}
    {row : Nat} (hr : row < cells.length)
    : (dataset.tableOf stored cells).entry row stored.name = stored.numberAt cells[row]
      ∧ ∀ axis ∈ stored.axes,
          (dataset.tableOf stored cells).entry row axis.name
          = dataset.shownAt axis.name
              (entryAlong (stored.axes.map Axis.name) cells[row] axis.name) := by
  have different := tabular.nodup_columnNames cells
  constructor
  · have last : (stored.name, cells.map stored.numberAt)
        ∈ (dataset.tableOf stored cells).columns :=
      List.mem_append_right _ (List.mem_singleton_self _)
    rw [Table.entry_of_mem different last]
    simp [List.getD_eq_getElem?_getD, hr]
  · intro axis hm
    rw [Table.entry_of_mem different (List.mem_append_left _ (List.mem_map_of_mem hm))]
    simp [List.getD_eq_getElem?_getD, hr]

/-- An extraction without filters or a row limit makes the table of all cells in the order in which
the variable holds them, as many as its sizes make: a row has the double at its own place, and
along each dimension shows the digit of that place. It fails only if the size of a batch is no count
of cells, or if there are cells and a coordinate without a dimension takes the name of the dimension
of the read.
-/
theorem unfiltered_extraction_is_stored_array (sound : dataset.Sound)
    (tabular : dataset.Tabular stored) {batchSize : Int} (positive : 1 ≤ batchSize)
    : ∃ table values,
        stored.cells.doubles? = some values
        ∧ values.size = Axis.cellCount stored.axes
        ∧ (dataset.source.extract stored.name [] batchSize none).outcome
          = (if Extraction.batchLimit < batchSize then raiseFault .badValue
            else if 0 < Axis.cellCount stored.axes ∧ dataset.isPointsTaken then
              readFailure ("batched read of '" ++ stored.name ++ "'") "" (some .badValue)
            else .ok table)
        ∧ table.columnNames = stored.axes.map Axis.name ++ [stored.name]
        ∧ table.rowCount = Axis.cellCount stored.axes
        ∧ ∀ row < Axis.cellCount stored.axes,
            table.entry row stored.name = values.getD row 0.0
            ∧ ∀ position (hp : position < stored.axes.length),
                table.entry row stored.axes[position].name
                = dataset.shownAt stored.axes[position].name
                    ↑(row / Axis.cellCount (stored.axes.drop (position + 1))
                      % stored.axes[position].size) := by
  have hm := (mem_of_lookup? tabular.found).1
  obtain ⟨values, held⟩ :=
    Variable.doubles_of_not_holdsTexts (sound.numeric stored hm tabular.numeric)
  have filled : values.size = Axis.cellCount stored.axes := by
    rw [Cells.size_of_doubles? held, sound.filled stored hm]
  have all : (dataset.selected stored []).enumerate = allCells stored.axes :=
    Selection.enumerate_ofAxes (Axis.consistent_of_nodup tabular.distinct)
  have unused : ∀ filter ∈ [], dataset.UsableOn stored filter := List.forall_mem_nil _
  have outcome := tabular.outcome_extract_selected sound unused positive
  have some : allCells stored.axes ≠ [] ↔ 0 < Axis.cellCount stored.axes := by
    rw [← List.length_pos_iff, length_allCells]
  simp only [all, some] at outcome
  refine ⟨dataset.tableOf stored (allCells stored.axes), values, held, filled, outcome,
    columnNames_tableOf .., ?_, ?_⟩
  · rw [tabular.rowCount_tableOf, length_allCells]
  · intro row hr
    have inside : row < (allCells stored.axes).length := by rwa [length_allCells]
    obtain ⟨number, shown⟩ := tabular.entry_tableOf inside
    rw [getElem_allCells] at number shown
    constructor
    · rw [number, Variable.numberAt, held, Option.getD_some, rowMajor_cellAt, Nat.mod_eq_of_lt hr]
    · intro position hp
      rw [shown _ (List.getElem_mem hp), entryAlong_cellAt tabular.distinct row hp]

/-- The sample makes a table of six rows. The fourth one is that of the second place along both
dimensions.
-/
theorem unfiltered_extraction_is_stored_array_sample
    : ∃ table,
        ((sample "height").source.extract "v" [] 4 none).outcome = .ok table
        ∧ table.columnNames = ["x", "y", "v"]
        ∧ table.rowCount = 6
        ∧ table.entry 3 "x" = 20.0
        ∧ table.entry 3 "y" = 1.0
        ∧ table.entry 3 "v" = 4.0 := by
  obtain ⟨table, values, held, -, made, names, count, rows⟩ :=
    unfiltered_extraction_is_stored_array (sound_sample "height") (tabular_sample "height")
      (by decide : (1 : Int) ≤ 4)
  rw [if_neg (by decide), if_neg fun blocked => absurd blocked.2 (by decide)] at made
  obtain rfl : #[1.0, 2.0, 3.0, 4.0, 5.0, 6.0] = values := by
    injection held
  obtain ⟨number, shown⟩ := rows 3 (by decide)
  have first : table.entry 3 "x" = (sample "height").shownAt "x" 1 := by
    simpa [sampled, Axis.cellCount] using shown 0 (by decide)
  have second : table.entry 3 "y" = (sample "height").shownAt "y" 1 := by
    simpa [sampled, Axis.cellCount] using shown 1 (by decide)
  exact ⟨table, made, names, count, first, second, number⟩

/-- So not every numeric variable makes a table, even in batches of two cells. -/
theorem unfiltered_extraction_may_fail
    : ¬∀ (dataset : Dataset) (stored : Variable),
        dataset.Sound
        → dataset.Tabular stored
        → ∃ table, (dataset.source.extract stored.name [] 2 none).outcome = .ok table := by
  intro whole
  obtain ⟨table, made⟩ := whole (sample "points") sampled (sound_sample _) (tabular_sample _)
  have unused : ∀ filter ∈ [], (sample "points").UsableOn sampled filter := List.forall_mem_nil _
  have filled : ((sample "points").selected sampled []).enumerate ≠ [] := by
    have all : ((sample "points").selected sampled []).enumerate = allCells sampled.axes :=
      Selection.enumerate_ofAxes (Axis.consistent_of_nodup (by decide))
    rw [all]
    decide
  have failed := (tabular_sample "points").outcome_extract_selected (sound_sample "points") unused
    (by decide : (1 : Int) ≤ 2)
  rw [if_neg (by decide), if_pos ⟨filled, rfl⟩, made] at failed
  cases failed

end Dataset

end GridTable
