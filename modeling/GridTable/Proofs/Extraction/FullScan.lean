import GridTable.Proofs.Extraction.GridCells
import GridTable.Proofs.Filter.Findings
import GridTable.Proofs.Selection.Runs

/-! Extraction from a dataset agrees with a scan of the whole grid: the table has one row for
each cell whose coordinates all filters accept, if it can be read in batches at all.
-/

namespace GridTable

namespace Dataset

/-- The coordinates along a dimension, none where there are no usable ones. -/
def coordinatesOf (dataset : Dataset) (name : String) : Array Float :=
  (dataset.coordinate name).toOption.getD #[]

/-- A filter can be used on a variable if its dimensions are different ones of the variable and
have coordinates.
-/
structure UsableOn (dataset : Dataset) (stored : Variable) (filter : Filter) : Prop where
  apart : filter.dimensions.Nodup
  known : ∀ name ∈ filter.dimensions, name ∈ stored.axes.map Axis.name
  labelled : ∀ name ∈ filter.dimensions, ∃ values, dataset.coordinate name = .ok values

variable {dataset : Dataset} {stored : Variable}

-----------------------------------------------------------------------------------------
-- Selecting
-----------------------------------------------------------------------------------------

theorem UsableOn.coordinate {filter : Filter} (usable : dataset.UsableOn stored filter)
    {name : String} (hm : name ∈ filter.dimensions)
    : dataset.coordinate name = .ok (dataset.coordinatesOf name) := by
  obtain ⟨values, h⟩ := usable.labelled name hm
  simp [coordinatesOf, h, Except.toOption]

theorem UsableOn.appliesTo {filter : Filter} (usable : dataset.UsableOn stored filter)
    : (filter.found dataset.coordinatesOf).AppliesTo (stored.axes.map Axis.name) where
  supported := filter.found_ne_unsupported dataset.coordinatesOf
  known := by simpa using usable.known

/-- The cells of a variable that filters select: those of the grid whose coordinates all of them
accept.
-/
def selected (dataset : Dataset) (stored : Variable) (filters : List Filter) : Selection :=
  (filters.map (Filter.found dataset.coordinatesOf)).foldl Selection.folded
    (.ofAxes stored.axes)

theorem dimensions_selected (filters : List Filter)
    : (dataset.selected stored filters).dimensions = stored.axes.map Axis.name :=
  Selection.dimensions_foldl_folded _ _

/-- Usable filters can all be applied, and what they find can be folded. -/
theorem Tabular.outcome_select (tabular : dataset.Tabular stored) {filters : List Filter}
    (usable : ∀ filter ∈ filters, dataset.UsableOn stored filter)
    : (dataset.source.select stored.name filters).outcome
      = .ok (dataset.selected stored filters) := by
  have findings : filters.mapM (fun filter => (filter.apply dataset.source).outcome)
      = .ok (filters.map (Filter.found dataset.coordinatesOf)) :=
    Outcome.mapM_eq_ok_map fun filter hm =>
      Filter.outcome_apply fun name hn => (usable filter hm).coordinate hn
  have folds : (filters.map (Filter.found dataset.coordinatesOf)).foldlM Selection.fold
        (.ofAxes stored.axes)
      = .ok (dataset.selected stored filters) := by
    refine (Selection.foldlM_fold_eq_ok_iff (Selection.valid_ofAxes _)).mpr ⟨?_, rfl⟩
    exact List.forall_mem_map.mpr fun filter hm => (usable filter hm).appliesTo
  simp [Source.outcome_select, tabular.axesOf, tabular.checkSupportedRank, findings, folds]

/-- The selected cells are those of the grid whose coordinates all filters accept. -/
theorem Tabular.mem_selected (tabular : dataset.Tabular stored) (sound : dataset.Sound)
    {filters : List Filter} (usable : ∀ filter ∈ filters, dataset.UsableOn stored filter)
    {cell : CellIndex}
    : cell ∈ (dataset.selected stored filters).enumerate
      ↔ InGrid stored.axes cell
        ∧ ∀ filter ∈ filters,
            filter.Accepts fun name =>
              Matching.coordinateAt (dataset.coordinatesOf name)
                (entryAlong (stored.axes.map Axis.name) cell name) := by
  rw [selected, Selection.mem_enumerate_run tabular.distinct
    (List.forall_mem_map.mpr fun filter hm => (usable filter hm).appliesTo)
    (by simpa using fun filter hm => (usable filter hm).apart)]
  refine and_congr_right fun inGrid => ?_
  simp only [List.forall_mem_map]
  refine forall₂_congr fun filter hm => Filter.keeps_found_iff fun name hn => ?_
  obtain ⟨axis, haxis, rfl⟩ := List.mem_map.mp ((usable filter hm).known name hn)
  rw [tabular.size_of_coordinate sound haxis ((usable filter hm).coordinate hn)]
  exact ((forall₂_iff_entryAlong Axis.name tabular.distinct).mp inGrid).2 axis haxis

-----------------------------------------------------------------------------------------
-- Extracting
-----------------------------------------------------------------------------------------

theorem Tabular.outcome_extract_selected (tabular : dataset.Tabular stored)
    (sound : dataset.Sound) {filters : List Filter}
    (usable : ∀ filter ∈ filters, dataset.UsableOn stored filter) {batchSize : Int}
    (positive : 1 ≤ batchSize)
    : (dataset.source.extract stored.name filters batchSize none).outcome
      = if Extraction.batchLimit < batchSize then raiseFault .badValue
        else if (dataset.selected stored filters).enumerate ≠ [] ∧ dataset.isPointsTaken then
          readFailure ("batched read of '" ++ stored.name ++ "'") "" (some .badValue)
        else .ok (dataset.tableOf stored (dataset.selected stored filters).enumerate) := by
  rw [Source.extract, Traced.outcome_bind, tabular.outcome_select usable, Outcome.ok_bind]
  exact tabular.outcome_extract sound (dimensions_selected filters)
    (fun cell hm => ((tabular.mem_selected sound usable).mp hm).1) positive

/-- An extraction with usable filters and no row limit is a scan of the whole grid: the table
has one row for each cell whose coordinates all filters accept. It fails only if the size of a
batch is no count of cells, or if cells are to be read while a coordinate without a dimension
takes the name of the dimension of the read.
-/
theorem extract_scans_grid (sound : dataset.Sound) (tabular : dataset.Tabular stored)
    {filters : List Filter} (usable : ∀ filter ∈ filters, dataset.UsableOn stored filter)
    {batchSize : Int} (positive : 1 ≤ batchSize)
    : ∃ cells : List CellIndex,
        cells.Nodup
        ∧ (∀ cell,
            cell ∈ cells
            ↔ InGrid stored.axes cell
              ∧ ∀ filter ∈ filters,
                  filter.Accepts fun name =>
                    Matching.coordinateAt (dataset.coordinatesOf name)
                      (entryAlong (stored.axes.map Axis.name) cell name))
        ∧ (dataset.source.extract stored.name filters batchSize none).outcome
          = if Extraction.batchLimit < batchSize then raiseFault .badValue
            else if cells ≠ [] ∧ dataset.isPointsTaken then
              readFailure ("batched read of '" ++ stored.name ++ "'") "" (some .badValue)
            else .ok (dataset.tableOf stored cells) := by
  refine ⟨(dataset.selected stored filters).enumerate, ?_, fun cell => ?_, ?_⟩
  · exact Selection.nodup_enumerate _
  · exact tabular.mem_selected sound usable
  · exact tabular.outcome_extract_selected sound usable positive

/-- A variable over two dimensions. -/
def sampled : Variable where
  name := "v"
  axes := [⟨"x", 3⟩, ⟨"y", 2⟩]
  element := .float64
  cells := .numbers #[1.0, 2.0, 3.0, 4.0, 5.0, 6.0]
  isCoordinate := false
  attributes := []

/-- The variable with coordinates along its dimensions, and a coordinate without a dimension. -/
def sample (scalarName : String) : Dataset where
  fields :=
    [
      sampled,
      ⟨"x", [⟨"x", 3⟩], .float64, .numbers #[10.0, 20.0, 30.0], true, []⟩,
      ⟨"y", [⟨"y", 2⟩], .int16, .numbers #[0.0, 1.0], true, []⟩,
      ⟨scalarName, [], .float64, .numbers #[7.0], true, []⟩
    ]

theorem sound_sample (scalarName : String) : (sample scalarName).Sound where
  numeric := by simp [sample, sampled, Variable.holdsTexts]
  filled := by simp [sample, sampled, Cells.size, Axis.cellCount]
  sizes := by simp [sample, sampled]

theorem tabular_sample (scalarName : String) : (sample scalarName).Tabular sampled where
  found := rfl
  numeric := rfl
  supported := by decide
  distinct := by decide
  apart := by decide
  labels := by simp [sample, sampled, lookup?, Variable.isLabel]

/-- A range along one dimension, and points in reverse order of the dimensions. -/
def sampleFilters : List Filter :=
  [.range "x" 15.0 30.0, .point2d "y" "x" [(2.0, 20.0), (0.5, 20.0), (0.5, 10.0)] 0.5]

theorem usableOn_sample (scalarName : String)
    : ∀ filter ∈ sampleFilters, (sample scalarName).UsableOn sampled filter := by
  have labelled : ∀ name ∈ ["x", "y"],
      ∃ values, (sample scalarName).coordinate name = .ok values := by
    simp only [List.forall_mem_cons]
    exact ⟨⟨_, rfl⟩, ⟨_, rfl⟩, nofun⟩
  refine List.forall_mem_cons.mpr ⟨⟨by decide, by decide, ?_⟩, ?_⟩
  · exact fun name hm => labelled name (by revert name; decide)
  · refine List.forall_mem_singleton.mpr ⟨by decide, by decide, ?_⟩
    exact fun name hm => labelled name (by revert name; decide)

/-- Two cells of the sample have coordinates that both filters accept. -/
theorem extract_scans_grid_sample
    : ∃ cells : List CellIndex,
        cells.Nodup
        ∧ [1, 0] ∈ cells
        ∧ [1, 1] ∈ cells
        ∧ [0, 0] ∉ cells
        ∧ ((sample "height").source.extract "v" sampleFilters 1 none).outcome
          = .ok ((sample "height").tableOf sampled cells) := by
  obtain ⟨cells, once, scanned, outcome⟩ :=
    extract_scans_grid (sound_sample "height") (tabular_sample "height")
      (usableOn_sample "height") (by decide : (1 : Int) ≤ 1)
  refine ⟨cells, once, (scanned [1, 0]).mpr (by decide), (scanned [1, 1]).mpr (by decide),
    mt (scanned [0, 0]).mp (by decide), ?_⟩
  rwa [if_neg (by decide), if_neg fun blocked => absurd blocked.2 (by decide)] at outcome

/-- A coordinate without a dimension takes the name of the dimension of a read: then the cells
whose coordinates the filters accept make no table.
-/
theorem extract_scans_no_grid_sample
    : (sample "points").Sound
      ∧ (sample "points").Tabular sampled
      ∧ (∀ filter ∈ sampleFilters, (sample "points").UsableOn sampled filter)
      ∧ ¬∃ cells : List CellIndex,
          ((sample "points").source.extract "v" sampleFilters 1 none).outcome
          = .ok ((sample "points").tableOf sampled cells) := by
  have sound := sound_sample "points"
  have tabular := tabular_sample "points"
  have usable := usableOn_sample "points"
  refine ⟨sound, tabular, usable, ?_⟩
  rintro ⟨cells, outcome⟩
  have filled : ((sample "points").selected sampled sampleFilters).enumerate ≠ [] :=
    List.ne_nil_of_mem ((tabular.mem_selected sound usable).mpr
      (by decide : InGrid sampled.axes [1, 0] ∧ _))
  have failed : ((sample "points").source.extract "v" sampleFilters 1 none).outcome = _ :=
    tabular.outcome_extract_selected sound usable (by decide)
  rw [if_neg (by decide), if_pos ⟨filled, rfl⟩, outcome] at failed
  cases failed

end Dataset

end GridTable
