import GridTable.Proofs.Extraction.Faults

/-! Which selected cells can be shown: an index is looked up among the coordinates of its dimension,
which need not be as many as the dimension is long. They are found by name alone, and a variable of
that name may lie along another dimension.
-/

namespace GridTable

open Outcome

-----------------------------------------------------------------------------------------
-- Which fault there is
-----------------------------------------------------------------------------------------

namespace Extraction

theorem eq_badIndex_of_shownIndex {coordinates : Option (Array Float)} {index : Int}
    {failure : Failure} (h : shownIndex coordinates index = .error failure)
    : failure = .fault .badIndex := by
  cases coordinates with
  | none => cases h
  | some values =>
      rw [shownIndex] at h
      split at h
      · cases h
      · exact (Except.error.inj h).symm

/-- Columns fail only for an index without a coordinate, by induction on the dimensions. -/
theorem eq_badIndex_of_dimensionColumns {cells : List CellIndex} {start : Nat}
    {named : List (String × Option (Array Float))} {failure : Failure}
    (h : dimensionColumns cells start named = .error failure)
    : failure = .fault .badIndex := by
  induction named generalizing start with
  | nil => cases h
  | cons entry rest ih =>
      rcases bind_eq_error_iff.mp h with first | ⟨column, -, later⟩
      · obtain ⟨cell, -, failed⟩ := exists_of_mapM_eq_error first
        exact eq_badIndex_of_shownIndex failed
      · rcases bind_eq_error_iff.mp later with others | ⟨columns, -, done⟩
        · exact ih others
        · cases done

theorem dimensionColumns_eq_badIndex_iff {cells : List CellIndex} {start : Nat}
    {named : List (String × Option (Array Float))}
    : dimensionColumns cells start named = .error (.fault .badIndex)
      ↔ Faults (dimensionColumns cells start named) := by
  constructor
  · intro failed
    exact ⟨.badIndex, failed⟩
  · intro faults
    obtain ⟨cause, failed⟩ := faults
    obtain rfl := Failure.fault.inj (eq_badIndex_of_dimensionColumns failed)
    exact failed

end Extraction

namespace Variable

/-- Where there is a cell, it is not for its index that it has no value. -/
theorem inBlock_ne_badIndex {stored : Variable} {offset : Nat}
    (inside : offset < stored.cells.size)
    : stored.inBlock offset ≠ .error (.fault .badIndex) := by
  obtain ⟨item, found⟩ := Cells.exists_item? inside
  rw [inBlock, Variable.item, found]
  intro failed
  obtain ⟨fault, known, same⟩ := Item.exists_fault_of_inBlock failed
  obtain rfl := Failure.fault.inj same
  exact absurd known (by decide)

end Variable

-----------------------------------------------------------------------------------------
-- Showing what is selected
-----------------------------------------------------------------------------------------

namespace Dataset

variable {dataset : Dataset} {stored : Variable} {field : String} {filters : List Filter}
variable {selection : Selection} {batchSize : Int}

/-- A cell of the grid of a variable is found, whether it has a value or not. -/
theorem Sound.valueAt_ne_badIndex (sound : dataset.Sound) (hm : stored ∈ dataset.fields)
    {cell : CellIndex} (inGrid : InGrid stored.axes cell)
    : stored.valueAt cell ≠ .error (.fault .badIndex) := by
  have settled := Variable.inGrid_settled (sound.consistent hm) inGrid
  have located : Variable.locate? stored.axes cell
      = some (rowMajor stored.axes (Variable.settled stored.axes cell)) :=
    Variable.offset?_of_inGrid settled
  rw [Variable.valueAt, located, Option.elim_some]
  refine Variable.inBlock_ne_badIndex ?_
  rw [sound.filled stored hm]
  exact rowMajor_lt_cellCount settled

/-- Where coordinates fit a variable, each cell of its grid is shown. -/
theorem Fits.not_isUnshown (fits : dataset.Fits stored) {cell : CellIndex}
    (inGrid : InGrid stored.axes cell)
    : ¬dataset.IsUnshown stored cell := by
  intro unshown
  obtain ⟨position, axis, values, here, read, beyond⟩ := unshown
  obtain ⟨hp, rfl⟩ := List.getElem?_eq_some_iff.mp here
  have hc : position < cell.length := inGrid.length_eq ▸ hp
  have inside : 0 ≤ cell[position] ∧ cell[position] < stored.axes[position].size :=
    inGrid.get hc hp
  rw [fits _ (List.getElem_mem hp) values read, List.getD_eq_getElem?_getD,
    List.getElem?_eq_getElem hc, Option.getD_some] at beyond
  omega

/-- All selected cells have a value just if none of them is a text that is no numeral. -/
theorem Sound.exists_mapM_valueAt_iff (sound : dataset.Sound)
    (selected : (dataset.source.select field filters).outcome = .ok selection)
    (found : dataset.lookup? field = some stored)
    : (∃ values, selection.enumerate.mapM stored.valueAt = .ok values)
      ↔ ∀ cell ∈ selection.enumerate, ¬stored.IsUnreadable cell := by
  have unreadable := sound.faults_mapM_valueAt_iff selected found
  constructor
  · intro all cell hm own
    obtain ⟨values, read⟩ := all
    have failed := unreadable.mpr ⟨cell, hm, own⟩
    rw [read] at failed
    exact not_faults_ok values failed
  · intro readable
    refine exists_ok_of_not_faults (mapM_ne_error stored.valueAt_ne_error) fun failed => ?_
    obtain ⟨cell, hm, own⟩ := unreadable.mp failed
    exact readable cell hm own

/-- What is selected of a variable cannot be shown, although it can be read: batches have a usable
size, no coordinate takes the name of the dimension of a read, all cells have a value, and one of
them has an index beyond the coordinates of its dimension.
-/
structure FailsToShow (dataset : Dataset) (stored : Variable) (selection : Selection)
    (batchSize : Int)
    : Prop where
  countable : batchSize ≤ Extraction.batchLimit
  free : ¬dataset.isPointsTaken
  readable : ∀ cell ∈ selection.enumerate, ¬stored.IsUnreadable cell
  unshown : ∃ cell ∈ selection.enumerate, dataset.IsUnshown stored cell

/-- Reading what is selected ends at an index without a coordinate just if that cannot be shown:
all values are read before any index is looked up.
-/
theorem Sound.readTable_eq_badIndex_iff (sound : dataset.Sound)
    (selected : (dataset.source.select field filters).outcome = .ok selection)
    (found : dataset.lookup? field = some stored) (positive : 1 ≤ batchSize)
    : Extraction.readTable dataset.source field selection batchSize
        = .error (.fault .badIndex)
      ↔ dataset.FailsToShow stored selection batchSize := by
  by_cases large : Extraction.batchLimit < batchSize
  · rw [sound.readTable_of_batchLimit_lt selected large]
    refine iff_of_false ?_ fun fails => Int.not_lt.mpr fails.countable large
    rintro ⟨⟩
  have usable : Extraction.IsBatchSize batchSize := ⟨positive, Int.not_lt.mp large⟩
  obtain ⟨other, same, -, -, inGrid⟩ := sound.inGrid_of_select selected
  obtain rfl : stored = other := Option.some.inj (found.symm.trans same)
  have read := sound.alike_valuesInBatches_of_select selected found usable
  have columns (values : List Float)
      : (do
          let columns ← Extraction.dimensionColumns selection.enumerate 0
            ((stored.axes.map Axis.name).zip
              (stored.axes.map fun axis => (dataset.coordinate axis.name).toOption))
          pure (Table.ofColumns (columns ++ [(field, values)])) : Except Failure Table)
        = .error (.fault .badIndex)
        ↔ ∃ cell ∈ selection.enumerate, dataset.IsUnshown stored cell := by
    rw [← faults_dimensionColumns_iff_isUnshown inGrid,
      ← Extraction.dimensionColumns_eq_badIndex_iff, bind_eq_error_iff]
    simp
  rw [sound.readTable_of_select selected found usable, bind_eq_error_iff, read.eq_fault_iff]
  simp only [columns, read.eq_ok_iff, exists_and_right]
  by_cases blocked : selection.enumerate ≠ [] ∧ dataset.isPointsTaken
  · rw [if_pos blocked]
    exact iff_of_false (by simp [readFailure]) fun fails => fails.free blocked.2
  have valued : selection.enumerate.mapM stored.valueAt ≠ .error (.fault .badIndex) := by
    intro failed
    obtain ⟨cell, hm, own⟩ := exists_of_mapM_eq_error failed
    exact sound.valueAt_ne_badIndex (mem_of_lookup? found).1 (inGrid cell hm) own
  rw [if_neg blocked, sound.exists_mapM_valueAt_iff selected found, or_iff_right valued]
  constructor
  · intro unshowable
    obtain ⟨readable, cell, hm, unshown⟩ := unshowable
    have free : ¬dataset.isPointsTaken := fun taken => blocked ⟨List.ne_nil_of_mem hm, taken⟩
    exact ⟨usable.2, free, readable, cell, hm, unshown⟩
  · intro fails
    exact ⟨fails.readable, fails.unshown⟩

/-- An extraction ends at an index without a coordinate just if it selects and allows something
that cannot be shown.
-/
theorem Sound.extract_eq_badIndex_iff (sound : dataset.Sound)
    (found : dataset.lookup? field = some stored) (positive : 1 ≤ batchSize)
    (maxRows : Option RowLimit)
    : (dataset.source.extract field filters batchSize maxRows).outcome
        = .error (.fault .badIndex)
      ↔ ∃ selection,
          (dataset.source.select field filters).outcome = .ok selection
          ∧ field ∉ selection.dimensions
          ∧ Extraction.checkRows selection.estimate maxRows = .ok ()
          ∧ dataset.FailsToShow stored selection batchSize := by
  have unfaulty : (dataset.source.select field filters).outcome ≠ .error (.fault .badIndex) :=
    fun failed => sound.not_faults_select field filters ⟨.badIndex, failed⟩
  rw [Source.extract, Traced.outcome_bind, bind_eq_error_iff, or_iff_right unfaulty]
  refine exists_congr fun selection => and_congr_right fun selected => ?_
  rw [Extraction.extract_eq_fault_iff,
    and_iff_right (Source.checkSupportedRank_of_select selected),
    sound.readTable_eq_badIndex_iff selected found positive]

-----------------------------------------------------------------------------------------
-- Coordinates and dimensions
-----------------------------------------------------------------------------------------

/-- The coordinates along the dimensions of a variable are as many as these are long just if the
variables of their names lie along dimensions as long; those that label their dimensions do. What
filters find are indices of coordinates, and of the dimension where these fit. An extraction ends
at an index without a coordinate just if it selects something that can be read but not shown, which
is never so where coordinates fit.
-/
theorem coordinates_fit_dimensions (sound : dataset.Sound)
    (found : dataset.lookup? field = some stored)
    : (dataset.Fits stored
        ↔ ∀ axis ∈ stored.axes, ∀ other own,
            dataset.lookup? axis.name = some other
            → other.element.isNumeric
            → other.axes = [own]
            → own.size = axis.size)
      ∧ ((∀ axis ∈ stored.axes, ∀ other,
            dataset.lookup? axis.name = some other
            → other.element.isNumeric
            → other.rank = 1
            → other.isLabel)
          → dataset.Fits stored)
      ∧ (∀ (filter : Filter) (finding : Finding) (group : List Int),
          (filter.apply dataset.source).outcome = .ok finding
          → group ∈ finding.groups
          → List.Forall₂
              (fun (index : Int) name =>
                0 ≤ index
                ∧ (∃ values, dataset.coordinate name = .ok values ∧ index < values.size)
                ∧ (dataset.Fits stored
                  → ∀ axis ∈ stored.axes, axis.name = name → index < axis.size))
              group finding.dimensions)
      ∧ ∀ (filters : List Filter) (batchSize : Int) (maxRows : Option RowLimit),
          1 ≤ batchSize
          → ((dataset.source.extract field filters batchSize maxRows).outcome
                = raiseFault .badIndex
              ↔ ∃ selection,
                  (dataset.source.select field filters).outcome = .ok selection
                  ∧ field ∉ selection.dimensions
                  ∧ Extraction.checkRows selection.estimate maxRows = .ok ()
                  ∧ dataset.FailsToShow stored selection batchSize)
            ∧ (dataset.Fits stored
              → (dataset.source.extract field filters batchSize maxRows).outcome
                ≠ raiseFault .badIndex) := by
  refine ⟨sound.fits_iff, sound.fits_of_labels (mem_of_lookup? found).1, ?_, ?_⟩
  · intro filter finding group applied hg
    obtain ⟨read, rfl⟩ := Filter.apply_eq_ok_iff.mp applied
    rw [Filter.dimensions_found]
    have inside := Filter.inside_of_mem_groups_found hg
    refine List.forall₂_iff_zip.mpr ⟨inside.length_eq, fun {index name} hm => ?_⟩
    obtain ⟨low, high⟩ := (List.forall₂_iff_zip.mp inside).2 hm
    obtain ⟨values, own⟩ := read name (List.of_mem_zip hm).2
    have own : dataset.coordinate name = .ok values := own
    have high : index < values.size := by simpa [source, own, Except.toOption] using high
    refine ⟨low, ⟨values, own, high⟩, ?_⟩
    rintro fits axis haxis rfl
    rwa [← fits axis haxis values own]
  · intro filters batchSize maxRows positive
    have ends : (dataset.source.extract field filters batchSize maxRows).outcome
        = raiseFault .badIndex ↔ _ :=
      sound.extract_eq_badIndex_iff found positive maxRows
    refine ⟨ends, fun fits failed => ?_⟩
    obtain ⟨selection, selected, -, -, fails⟩ := ends.mp failed
    obtain ⟨cell, hm, unshown⟩ := fails.unshown
    obtain ⟨other, same, -, -, inGrid⟩ := sound.inGrid_of_select selected
    obtain rfl : stored = other := Option.some.inj (found.symm.trans same)
    exact fits.not_isUnshown (inGrid cell hm) unshown

/-- The coordinates of the sample label its dimensions: a filter finds indices of a dimension, and
what filters select is shown.
-/
theorem coordinates_fit_dimensions_sample
    : (sample "height").Fits sampled
      ∧ (∀ finding, ((Filter.range "x" 15.0 30.0).apply (sample "height").source).outcome
            = .ok finding
          → ∀ index : Int, [index] ∈ finding.groups → index < 3)
      ∧ ((sample "height").source.extract "v" sampleFilters 1 none).outcome
        ≠ raiseFault .badIndex := by
  obtain ⟨-, labelled, found, shown⟩ := coordinates_fit_dimensions (sound_sample "height")
    (rfl : (sample "height").lookup? "v" = some sampled)
  have fits := labelled (tabular_sample "height").labels
  refine ⟨fits, ?_, (shown sampleFilters 1 none (by decide)).2 fits⟩
  intro finding applied index hg
  have inside := found _ finding [index] applied hg
  obtain ⟨-, rfl⟩ := Filter.apply_eq_ok_iff.mp applied
  rw [Filter.dimensions_found] at inside
  obtain ⟨⟨-, -, own⟩, -⟩ := List.forall₂_cons.mp inside
  exact own fits ⟨"x", 3⟩ (by decide) rfl

/-- A variable along a dimension of three places, and one of the name of that dimension that lies
along another one.
-/
def misnamed (coordinates : Array Float) : Dataset where
  fields :=
    [
      ⟨"v", [⟨"x", 3⟩], .float64, .numbers #[1.0, 2.0, 3.0], false, []⟩,
      ⟨"x", [⟨"y", coordinates.size⟩], .float64, .numbers coordinates, false, []⟩
    ]

theorem sound_misnamed (coordinates : Array Float) : (misnamed coordinates).Sound where
  numeric := by simp [misnamed, Variable.holdsTexts]
  filled := by simp [misnamed, Cells.size, Axis.cellCount]
  sizes := by simp [misnamed]

/-- Coordinates that lie along another dimension do not fit. Two are too few to show three places,
and of five a filter finds indices that no place has.
-/
theorem coordinates_misfit_misnamed
    : (misnamed #[10.0, 20.0]).Sound
      ∧ (misnamed #[10.0, 20.0]).source.axesOf "v" = .ok [⟨"x", 3⟩]
      ∧ (misnamed #[10.0, 20.0]).coordinate "x" = .ok #[10.0, 20.0]
      ∧ ((misnamed #[10.0, 20.0]).source.extract "v" [] 1 none).outcome = raiseFault .badIndex
      ∧ (misnamed #[10.0, 20.0, 30.0, 40.0, 50.0]).Sound
      ∧ (misnamed #[10.0, 20.0, 30.0, 40.0, 50.0]).source.axesOf "v" = .ok [⟨"x", 3⟩]
      ∧ ∃ finding,
          ((Filter.range "x" 35.0 60.0).apply
            (misnamed #[10.0, 20.0, 30.0, 40.0, 50.0]).source).outcome = .ok finding
          ∧ finding.groups = [[3], [4]] := by
  have sound := sound_misnamed #[10.0, 20.0]
  refine ⟨sound, rfl, rfl, ?_, sound_misnamed _, rfl, _, rfl, by decide⟩
  refine (sound.extract_eq_badIndex_iff rfl (by decide) none).mpr
    ⟨.ofAxes [⟨"x", 3⟩], rfl, by decide, rfl, ?_⟩
  constructor
  · decide
  · decide
  · intro cell hm unreadable
    have cells : (Selection.ofAxes [⟨"x", 3⟩]).enumerate = [[0], [1], [2]] := rfl
    rw [cells] at hm
    revert cell
    decide
  · exact ⟨[2], by decide, 0, ⟨"x", 3⟩, #[10.0, 20.0], rfl, rfl, by decide⟩

end Dataset

end GridTable
