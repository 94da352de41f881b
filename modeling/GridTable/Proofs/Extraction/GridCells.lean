import GridTable.Proofs.Dataset.Sound
import GridTable.Proofs.Extraction.Columns
import GridTable.Proofs.Matching
import Mathlib.Data.List.Nodup

/-! The table of cells of the grid, and that extracting them from a sound dataset makes it.
-/

namespace GridTable

theorem Extraction.shownIndex_of_inside {values : Array Float} {index : Int}
    (inside : 0 ≤ index ∧ index < values.size)
    : shownIndex (some values) index = .ok (Matching.coordinateAt values index) := by
  simp only [shownIndex, Axis.position?_of_inside inside]
  rfl

namespace Dataset

/-- What a dimension shows for an index: the coordinate there, or else the index itself. -/
def shownAt (dataset : Dataset) (name : String) (index : Int) : Float :=
  match dataset.coordinate name with
  | .ok values => Matching.coordinateAt values index
  | .error _ => Float.ofInt index

/-- The table of some cells: what each dimension shows for them, then their numbers. -/
def tableOf (dataset : Dataset) (stored : Variable) (cells : List CellIndex) : Table where
  columns :=
    stored.axes.map
      (fun axis =>
        (axis.name,
          cells.map fun cell =>
            dataset.shownAt axis.name
              (entryAlong (stored.axes.map Axis.name) cell axis.name)))
    ++ [(stored.name, cells.map stored.numberAt)]

variable {dataset : Dataset} {stored : Variable}

theorem Tabular.shownIndex_eq_ok (tabular : dataset.Tabular stored) (sound : dataset.Sound)
    {axis : Axis} (hm : axis ∈ stored.axes) {index : Int}
    (h : 0 ≤ index ∧ index < axis.size)
    : Extraction.shownIndex (dataset.coordinate axis.name).toOption index
      = .ok (dataset.shownAt axis.name index) := by
  cases hc : dataset.coordinate axis.name with
  | error failure => simp [Extraction.shownIndex, shownAt, hc, Except.toOption, pure, Except.pure]
  | ok values =>
      have inside : 0 ≤ index ∧ index < values.size := by
        rwa [tabular.size_of_coordinate sound hm hc]
      simp [Extraction.shownIndex_of_inside inside, shownAt, hc, Except.toOption]

theorem Tabular.dimensionColumns_eq_ok (tabular : dataset.Tabular stored)
    (sound : dataset.Sound) {cells : List CellIndex}
    (h : ∀ cell ∈ cells, InGrid stored.axes cell)
    : Extraction.dimensionColumns cells 0
        (stored.axes.map fun axis =>
          (axis.name, (dataset.coordinate axis.name).toOption))
      = .ok (stored.axes.map fun axis =>
          (axis.name,
            cells.map fun cell =>
              dataset.shownAt axis.name
                (entryAlong (stored.axes.map Axis.name) cell axis.name))) := by
  have shown : ∀ entry ∈ stored.axes.map fun axis =>
        (axis.name, (dataset.coordinate axis.name).toOption),
      ∀ cell ∈ cells,
        Extraction.shownIndex entry.2 (entryAlong (stored.axes.map Axis.name) cell entry.1)
        = .ok (dataset.shownAt entry.1
            (entryAlong (stored.axes.map Axis.name) cell entry.1)) := by
    refine List.forall_mem_map.mpr fun axis hm cell hcell => ?_
    have inside := (forall₂_iff_entryAlong Axis.name tabular.distinct).mp (h cell hcell)
    exact tabular.shownIndex_eq_ok sound hm (inside.2 axis hm)
  have columns := Extraction.dimensionColumns_eq_ok_map tabular.distinct cells dataset.shownAt []
    _ (by simp) shown
  simpa [Function.comp_def] using columns

/-- Cells of the grid are read in batches if the size of a batch is usable and the name of the
dimension of a read is not taken.
-/
theorem Tabular.read_eq (tabular : dataset.Tabular stored) (sound : dataset.Sound)
    {cells : List CellIndex} (h : ∀ cell ∈ cells, InGrid stored.axes cell) {size : Int}
    (positive : 1 ≤ size) {read : List (List CellIndex)}
    (hread : Extraction.batches size cells = .ok read)
    : List.flatten <$> read.mapM (dataset.source.points stored.name)
      = if cells ≠ [] ∧ dataset.isPointsTaken then
          readFailure ("batched read of '" ++ stored.name ++ "'") "" (some .badValue)
        else .ok (cells.map stored.numberAt) := by
  have all : read.flatten = cells := by
    rw [Extraction.flatten_batches hread, if_neg (by omega)]
  have inGrid : ∀ batch ∈ read, ∀ cell ∈ batch, InGrid stored.axes cell :=
    fun batch hb cell hc => h cell (all ▸ List.mem_flatten_of_mem hb hc)
  split
  · next blocked =>
      cases read with
      | nil => exact absurd all.symm blocked.1
      | cons first rest =>
          have filled : first ≠ [] := Extraction.ne_nil_of_mem_batches hread List.mem_cons_self
          have failed : dataset.source.points stored.name first = _ :=
            tabular.points_of_inGrid sound (inGrid first List.mem_cons_self)
          rw [if_pos ⟨filled, blocked.2⟩] at failed
          rw [List.mapM_cons, failed]
          rfl
  · next free =>
      refine Extraction.flatten_mapM_of_batches (by omega) hread fun batch hb => ?_
      have values : dataset.source.points stored.name batch = _ :=
        tabular.points_of_inGrid sound (inGrid batch hb)
      rw [values, if_neg]
      rintro ⟨filled, taken⟩
      refine free ⟨?_, taken⟩
      rintro rfl
      obtain ⟨cell, hc⟩ := List.exists_mem_of_ne_nil batch filled
      simp [List.flatten_eq_nil_iff.mp all batch hb] at hc

theorem columnNames_tableOf (dataset : Dataset) (stored : Variable) (cells : List CellIndex)
    : (dataset.tableOf stored cells).columnNames
      = stored.axes.map Axis.name ++ [stored.name] := by
  simp [Table.columnNames, Keyed.names, tableOf, Function.comp_def]

/-- The dimensions and the variable have different names. -/
theorem Tabular.nodup_columnNames (tabular : dataset.Tabular stored) (cells : List CellIndex)
    : (dataset.tableOf stored cells).columnNames.Nodup := by
  rw [columnNames_tableOf, ← List.concat_eq_append]
  exact (List.nodup_concat _ _).mpr ⟨tabular.apart, tabular.distinct⟩

/-- So all columns stay. -/
theorem Tabular.ofColumns_eq (tabular : dataset.Tabular stored) (cells : List CellIndex)
    : Table.ofColumns (dataset.tableOf stored cells).columns = dataset.tableOf stored cells :=
  Table.ofColumns_of_nodup (tabular.nodup_columnNames cells)

theorem Tabular.outcome_extract (tabular : dataset.Tabular stored) (sound : dataset.Sound)
    {selection : Selection} (hd : selection.dimensions = stored.axes.map Axis.name)
    (h : ∀ cell ∈ selection.enumerate, InGrid stored.axes cell) {batchSize : Int}
    (positive : 1 ≤ batchSize)
    : (Extraction.extract dataset.source stored.name selection batchSize none).outcome
      = if Extraction.batchLimit < batchSize then raiseFault .badValue
        else if selection.enumerate ≠ [] ∧ dataset.isPointsTaken then
          readFailure ("batched read of '" ++ stored.name ++ "'") "" (some .badValue)
        else .ok (dataset.tableOf stored selection.enumerate) := by
  rw [Extraction.outcome_extract, hd, List.length_map, tabular.checkSupportedRank,
    sound.mapM_coordinate? stored.axes]
  simp only [Outcome.ok_bind, if_neg tabular.apart, Extraction.checkRows, pure_bind]
  split
  · next tooLarge =>
      rw [Extraction.batches, if_neg (by omega)]
      rfl
  · next usable =>
      have hread : Extraction.batches batchSize selection.enumerate
          = .ok (pieces batchSize.toNat selection.enumerate) :=
        Extraction.batches_eq_ok_iff.mpr ⟨by omega, rfl⟩
      have all : (pieces batchSize.toNat selection.enumerate).flatten = selection.enumerate :=
        flatten_pieces (by omega) _
      rw [hread, Outcome.ok_bind, tabular.read_eq sound h positive hread, all, List.zip_map',
        tabular.dimensionColumns_eq_ok sound h]
      split
      · rfl
      · exact congrArg Except.ok (tabular.ofColumns_eq _)

end Dataset

end GridTable
