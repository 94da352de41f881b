import GridTable.Proofs.Dataset.Selected
import GridTable.Proofs.Extraction.BatchSize
import GridTable.Proofs.Extraction.Refusal
import GridTable.Proofs.Faults

/-! When an extraction from a sound dataset faults: selecting never does, and reading only for the
size of batches, a text that is no numeral, or an index that has no coordinate.
-/

namespace GridTable

open Outcome

-----------------------------------------------------------------------------------------
-- Selecting
-----------------------------------------------------------------------------------------

namespace Selection

theorem not_faults_fold (selection : Selection) {finding : Finding}
    (supported : ∀ kind, finding ≠ .unsupported kind)
    : ¬Faults (selection.fold finding) := by
  have position (name : String) : ¬Faults (selection.positionOf name) := by
    rw [positionOf]
    split <;> simp
  have groups (names : List String) (items : List (List Int))
      : ¬Faults (selection.fix names items) := by
    rw [fix, faults_bind_iff]
    rintro (first | ⟨fixed, -, later⟩)
    · exact not_faults_mapM (fun name _ => position name) first
    · exact not_faults_pure _ later
  cases finding with
  | single name indices =>
      rw [fold, narrow]
      split <;> simp
  | pairs first second items => exact groups _ _
  | triplets first second third items => exact groups _ _
  | unsupported kind => exact absurd rfl (supported kind)

end Selection

theorem not_faults_checkSupportedRank (field : String) (rank : Nat)
    : ¬Faults (checkSupportedRank field rank) := by
  rw [checkSupportedRank, checkRank]
  split <;> simp

namespace Dataset

variable {dataset : Dataset} {stored : Variable} {field : String}

theorem not_faults_axesOf (dataset : Dataset) (field : String)
    : ¬Faults (dataset.axesOf field) := by
  rw [axesOf, find]
  split <;> simp

theorem Sound.not_faults_coordinate (sound : dataset.Sound) (name : String)
    : ¬Faults (dataset.coordinate name) := by
  have found := sound.coordinate? name
  rw [Source.coordinate?] at found
  rintro ⟨cause, failed⟩
  have failed : dataset.source.coordinate name = .error (.fault cause) := failed
  rw [failed] at found
  cases found

theorem Sound.not_faults_select (sound : dataset.Sound) (field : String)
    (filters : List Filter)
    : ¬Faults (dataset.source.select field filters).outcome := by
  rw [Source.outcome_select]
  simp only [faults_bind_iff]
  rintro (first | ⟨axes, -, ranked | ⟨checked, -, applied | ⟨findings, found, folded⟩⟩⟩)
  · exact dataset.not_faults_axesOf field first
  · exact not_faults_checkSupportedRank _ _ ranked
  · refine not_faults_mapM (fun filter _ => ?_) applied
    rw [Filter.outcome_apply_eq, faults_map_iff]
    exact not_faults_mapM fun name _ => sound.not_faults_coordinate name
  · refine not_faults_foldlM (fun finding hm selection => ?_) _ folded
    obtain ⟨filter, -, applied⟩ := exists_entry_of_mem found hm
    obtain ⟨coordinatesOf, rfl⟩ := Filter.exists_found_of_apply applied
    exact selection.not_faults_fold (filter.found_ne_unsupported coordinatesOf)

end Dataset

-----------------------------------------------------------------------------------------
-- Showing
-----------------------------------------------------------------------------------------

namespace Extraction

theorem not_faults_checkRows (estimated : Nat) (maxRows : Option RowLimit)
    : ¬Faults (checkRows estimated maxRows) := by
  cases maxRows with
  | none => exact not_faults_pure ()
  | some limit =>
      rw [checkRows]
      split <;> simp

/-- An extraction only faults when it reads a selection that it has not refused. -/
theorem extract_eq_fault_iff {source : Source} {field : String} {selection : Selection}
    {batchSize : Int} {maxRows : Option RowLimit} {cause : Fault}
    : (extract source field selection batchSize maxRows).outcome = .error (.fault cause)
      ↔ checkSupportedRank field selection.dimensions.length = .ok ()
        ∧ field ∉ selection.dimensions
        ∧ checkRows selection.estimate maxRows = .ok ()
        ∧ readTable source field selection batchSize = .error (.fault cause) := by
  have ranked : checkSupportedRank field selection.dimensions.length ≠ .error (.fault cause) :=
    fun failed => not_faults_checkSupportedRank _ _ ⟨cause, failed⟩
  have allowed : checkRows selection.estimate maxRows ≠ .error (.fault cause) :=
    fun failed => not_faults_checkRows _ _ ⟨cause, failed⟩
  rw [outcome_extract_eq_readTable]
  by_cases hm : field ∈ selection.dimensions
  · simp [hm, bind_eq_error_iff, ranked]
  · simp [hm, bind_eq_error_iff, ranked, allowed, Unique.exists_iff]

theorem faults_extract_iff {source : Source} {field : String} {selection : Selection}
    {batchSize : Int} {maxRows : Option RowLimit}
    : Faults (extract source field selection batchSize maxRows).outcome
      ↔ checkSupportedRank field selection.dimensions.length = .ok ()
        ∧ field ∉ selection.dimensions
        ∧ checkRows selection.estimate maxRows = .ok ()
        ∧ Faults (readTable source field selection batchSize) := by
  simp only [Faults, extract_eq_fault_iff, exists_and_left]

theorem shownIndex_ne_error (coordinates : Option (Array Float)) (index : Int)
    (reason : Error)
    : shownIndex coordinates index ≠ .error (.error reason) := by
  cases coordinates with
  | none => simp [shownIndex]
  | some values => cases h : Axis.position? values.size index <;> simp [shownIndex, h]

/-- An index that counts from the start is not shown if there are not so many coordinates. -/
theorem faults_shownIndex_iff {coordinates : Option (Array Float)} {index : Int}
    (h : 0 ≤ index)
    : Faults (shownIndex coordinates index)
      ↔ ∃ values, coordinates = some values ∧ values.size ≤ index := by
  cases coordinates with
  | none => simp [shownIndex]
  | some values =>
      by_cases inside : index < values.size
      · simp [shownIndex, Axis.position?_of_inside ⟨h, inside⟩, Int.not_le.mpr inside]
      · have outside : Axis.position? values.size index = none := by
          rw [Axis.position?, if_neg (by omega), if_neg (by omega)]
        simp [shownIndex, outside, Int.not_lt.mp inside]

theorem faults_dimensionColumns_iff {cells : List CellIndex}
    (h : ∀ cell ∈ cells, ∀ position, 0 ≤ cell.getD position 0) (start : Nat)
    (named : List (String × Option (Array Float)))
    : Faults (dimensionColumns cells start named)
      ↔ ∃ cell ∈ cells, ∃ position name values,
          named[position]? = some (name, some values)
          ∧ values.size ≤ cell.getD (start + position) 0 := by
  induction named generalizing start with
  | nil => simp [dimensionColumns]
  | cons entry rest ih =>
      obtain ⟨name, coordinates⟩ := entry
      have column : Faults (dimensionColumn cells start coordinates)
          ↔ ∃ cell ∈ cells, ∃ values,
              coordinates = some values ∧ values.size ≤ cell.getD start 0 := by
        rw [dimensionColumn, faults_mapM_iff fun cell => shownIndex_ne_error _ _]
        exact exists_congr fun cell => and_congr_right fun hm =>
          faults_shownIndex_iff (h cell hm start)
      have others (shown : List Float)
          : Faults (do
              let others ← dimensionColumns cells (start + 1) rest
              pure ((name, shown) :: others))
            ↔ Faults (dimensionColumns cells (start + 1) rest) := by
        simp
      have plain : ∀ reason, dimensionColumn cells start coordinates ≠ .error (.error reason) :=
        mapM_ne_error fun cell => shownIndex_ne_error _ _
      rw [dimensionColumns, faults_bind_iff_or plain others, column, ih]
      constructor
      · rintro (⟨cell, hm, values, rfl, beyond⟩
          | ⟨cell, hm, position, own, values, entry, beyond⟩)
        · exact ⟨cell, hm, 0, name, values, rfl, beyond⟩
        · refine ⟨cell, hm, position + 1, own, values, entry, ?_⟩
          rwa [Nat.add_assoc, Nat.add_comm 1] at beyond
      · rintro ⟨cell, hm, position, own, values, entry, beyond⟩
        cases position with
        | zero =>
            obtain ⟨-, rfl⟩ := Prod.mk.inj (Option.some.inj entry)
            exact Or.inl ⟨cell, hm, values, rfl, beyond⟩
        | succ position =>
            refine Or.inr ⟨cell, hm, position, own, values, entry, ?_⟩
            rwa [Nat.add_assoc, Nat.add_comm 1]

end Extraction

-----------------------------------------------------------------------------------------
-- Reading
-----------------------------------------------------------------------------------------

/-- The faults of values that are no numbers. -/
def notNumbers : List Fault :=
  [.badValue, .badType, .overflow]

/-- A value that is not converted to a double is no number, by cases of the value. -/
theorem Json.exists_fault_of_toFloat {value : Json} {failure : Failure}
    (failed : value.toFloat = .error failure)
    : ∃ fault ∈ notNumbers, failure = .fault fault := by
  cases value with
  | int n =>
      rw [toFloat_int] at failed
      cases number : Decimal.ofInt? n <;> rw [number] at failed <;> cases failed
      exact ⟨.overflow, by decide, rfl⟩
  | str text =>
      rw [toFloat_str] at failed
      cases number : Decimal.readFloat? text.toList <;> rw [number] at failed <;> cases failed
      exact ⟨.badValue, by decide, rfl⟩
  | null | arr | obj =>
      cases failed
      exact ⟨.badType, by decide, rfl⟩
  | bool | float => cases failed

theorem Item.exists_fault_of_inBlock {item : Item} {failure : Failure}
    (failed : item.inBlock = .error failure)
    : ∃ fault ∈ notNumbers, failure = .fault fault := by
  cases item with
  | number | complex | time => cases failed
  | text content =>
      rw [inBlock] at failed
      exact Json.exists_fault_of_toFloat failed
  | bytes content =>
      rw [inBlock, readBytes] at failed
      split at failed
      · exact Json.exists_fault_of_toFloat failed
      · cases failed
        exact ⟨.badValue, by decide, rfl⟩
  | object value =>
      cases value with
      | null => cases failed
      | arr =>
          cases failed
          exact ⟨.badValue, by decide, rfl⟩
      | bool | int | float | str | obj =>
          simp only [inBlock] at failed
          exact Json.exists_fault_of_toFloat failed

namespace Variable

theorem inBlock_ne_error (stored : Variable) (offset : Nat) (reason : Error)
    : stored.inBlock offset ≠ .error (.error reason) := by
  rw [inBlock, item]
  cases stored.cells.item? offset with
  | none => rintro ⟨⟩
  | some item =>
      intro failed
      obtain ⟨fault, -, ⟨⟩⟩ := Item.exists_fault_of_inBlock failed

theorem valueAt_ne_error (stored : Variable) (cell : CellIndex) (reason : Error)
    : stored.valueAt cell ≠ .error (.error reason) := by
  rw [valueAt]
  cases locate? stored.axes cell with
  | none => simp
  | some offset => exact stored.inBlock_ne_error offset reason

/-- Of the cells that are found just the unreadable ones fault. -/
theorem faults_valueAt_iff {stored : Variable} {cell : CellIndex} (located : ¬stored.IsLost cell)
    : Faults (stored.valueAt cell) ↔ stored.IsUnreadable cell := by
  rw [IsUnreadable, and_iff_right located]
  constructor
  · rintro ⟨cause, failed⟩
    exact ⟨_, failed⟩
  · rintro ⟨failure, failed⟩
    cases failure with
    | error reason => exact absurd failed (stored.valueAt_ne_error cell reason)
    | fault cause => exact ⟨cause, failed⟩

end Variable

namespace Dataset

variable {dataset : Dataset} {stored : Variable} {field : String}

/-- Whether one of the dimensions has coordinates, but none for the index of a cell. -/
def IsUnshown (dataset : Dataset) (stored : Variable) (cell : CellIndex) : Prop :=
  ∃ position axis values,
    stored.axes[position]? = some axis
    ∧ dataset.coordinate axis.name = .ok values
    ∧ values.size ≤ cell.getD position 0

theorem faults_dimensionColumns_iff_isUnshown {cells : List CellIndex}
    (inGrid : ∀ cell ∈ cells, InGrid stored.axes cell)
    : Faults (Extraction.dimensionColumns cells 0 ((stored.axes.map Axis.name).zip
        (stored.axes.map fun axis => (dataset.coordinate axis.name).toOption)))
      ↔ ∃ cell ∈ cells, dataset.IsUnshown stored cell := by
  rw [Extraction.faults_dimensionColumns_iff fun cell hm => (inGrid cell hm).getD_nonneg,
    List.zip_map']
  refine exists_congr fun cell => and_congr_right fun hm => exists_congr fun position => ?_
  constructor
  · rintro ⟨name, values, entry, beyond⟩
    rw [List.getElem?_map, Option.map_eq_some_iff] at entry
    obtain ⟨axis, haxis, same⟩ := entry
    obtain ⟨-, labelled⟩ := Prod.mk.inj same
    have answered : dataset.coordinate axis.name = .ok values := by
      cases coordinates : dataset.coordinate axis.name <;> simp_all [Except.toOption]
    exact ⟨axis, values, haxis, answered, by simpa using beyond⟩
  · rintro ⟨axis, values, haxis, labelled, beyond⟩
    refine ⟨axis.name, values, ?_, by simpa using beyond⟩
    simp [haxis, labelled, Except.toOption]

/-- What filters select of a variable of a sound dataset is read in batches as it is cell by cell,
unless a coordinate takes the name of the dimension of a read.
-/
theorem Sound.alike_valuesInBatches_of_select (sound : dataset.Sound) {filters : List Filter}
    {selection : Selection}
    (selected : (dataset.source.select field filters).outcome = .ok selection)
    (found : dataset.lookup? field = some stored) {batchSize : Int}
    (usable : Extraction.IsBatchSize batchSize)
    : Alike (Extraction.valuesInBatches dataset.source field batchSize selection.enumerate)
        (if selection.enumerate ≠ [] ∧ dataset.isPointsTaken then
          readFailure ("batched read of '" ++ field ++ "'") "" (some .badValue)
        else selection.enumerate.mapM stored.valueAt) := by
  by_cases filled : selection.enumerate = []
  · rw [if_neg fun blocked => blocked.1 filled, filled, Extraction.valuesInBatches_nil]
    exact .ok []
  · rw [← sound.points_of_select selected found]
    exact Extraction.alike_points (sound.divisible_of_select selected) filled usable

/-- The selected cells have values unless one of them is a text that is no numeral. -/
theorem Sound.faults_mapM_valueAt_iff (sound : dataset.Sound) {filters : List Filter}
    {selection : Selection}
    (selected : (dataset.source.select field filters).outcome = .ok selection)
    (found : dataset.lookup? field = some stored)
    : Faults (selection.enumerate.mapM stored.valueAt)
      ↔ ∃ cell ∈ selection.enumerate, stored.IsUnreadable cell := by
  rw [faults_mapM_iff stored.valueAt_ne_error]
  refine exists_congr fun cell => and_congr_right fun hm => ?_
  exact Variable.faults_valueAt_iff (sound.not_isLost_of_select selected found hm)

/-- What is selected is read in batches of a usable size, and then shown along each dimension. -/
theorem Sound.readTable_of_select (sound : dataset.Sound) {filters : List Filter}
    {selection : Selection}
    (selected : (dataset.source.select field filters).outcome = .ok selection)
    (found : dataset.lookup? field = some stored) {batchSize : Int}
    (usable : Extraction.IsBatchSize batchSize)
    : Extraction.readTable dataset.source field selection batchSize
      = (do
          let values ←
            Extraction.valuesInBatches dataset.source field batchSize selection.enumerate
          let columns ← Extraction.dimensionColumns selection.enumerate 0
            ((stored.axes.map Axis.name).zip
              (stored.axes.map fun axis => (dataset.coordinate axis.name).toOption))
          pure (Table.ofColumns (columns ++ [(field, values)]))) := by
  obtain ⟨other, same, -, dimensions, -⟩ := sound.inGrid_of_select selected
  obtain rfl : stored = other := Option.some.inj (found.symm.trans same)
  rw [Extraction.readTable_of_isBatchSize usable, dimensions, sound.mapM_coordinate? stored.axes,
    ok_bind]

/-- Nothing is read in batches of a size that is no count. -/
theorem Sound.readTable_of_batchLimit_lt (sound : dataset.Sound) {filters : List Filter}
    {selection : Selection}
    (selected : (dataset.source.select field filters).outcome = .ok selection)
    {batchSize : Int} (large : Extraction.batchLimit < batchSize)
    : Extraction.readTable dataset.source field selection batchSize = raiseFault .badValue := by
  obtain ⟨stored, -, -, dimensions, -⟩ := sound.inGrid_of_select selected
  have refused : Extraction.batches batchSize selection.enumerate = raiseFault .badValue := by
    rw [Extraction.batches, if_neg fun usable => Int.not_lt.mpr usable.2 large]
  rw [Extraction.readTable, dimensions, sound.mapM_coordinate? stored.axes, ok_bind, refused]
  rfl

/-- What filters select of a variable of a sound dataset cannot be read just if batches have no
usable size, or if a cell has no value or is not shown. Nothing is read, and an error of the
program ends the extraction before, if a coordinate takes the name of the dimension of a read.
-/
theorem Sound.faults_readTable_iff (sound : dataset.Sound) {filters : List Filter}
    {selection : Selection}
    (selected : (dataset.source.select field filters).outcome = .ok selection)
    (found : dataset.lookup? field = some stored) {batchSize : Int} (positive : 1 ≤ batchSize)
    : Faults (Extraction.readTable dataset.source field selection batchSize)
      ↔ Extraction.batchLimit < batchSize
        ∨ ¬dataset.isPointsTaken
          ∧ ∃ cell ∈ selection.enumerate,
              stored.IsUnreadable cell ∨ dataset.IsUnshown stored cell := by
  by_cases large : Extraction.batchLimit < batchSize
  · rw [sound.readTable_of_batchLimit_lt selected large]
    exact iff_of_true (faults_raiseFault .badValue) (Or.inl large)
  have usable : Extraction.IsBatchSize batchSize := ⟨positive, Int.not_lt.mp large⟩
  obtain ⟨other, same, -, -, inGrid⟩ := sound.inGrid_of_select selected
  obtain rfl : stored = other := Option.some.inj (found.symm.trans same)
  have read := sound.alike_valuesInBatches_of_select selected found usable
  have columns (values : List Float)
      : Faults (do
          let columns ← Extraction.dimensionColumns selection.enumerate 0
            ((stored.axes.map Axis.name).zip
              (stored.axes.map fun axis => (dataset.coordinate axis.name).toOption))
          pure (Table.ofColumns (columns ++ [(field, values)])))
        ↔ ∃ cell ∈ selection.enumerate, dataset.IsUnshown stored cell := by
    simp [faults_dimensionColumns_iff_isUnshown inGrid, -bind_pure_comp, faults_bind_iff]
  rw [or_iff_right large, sound.readTable_of_select selected found usable,
    (read.bind fun values => .refl _).faults_iff]
  by_cases blocked : selection.enumerate ≠ [] ∧ dataset.isPointsTaken
  · rw [if_pos blocked]
    exact iff_of_false (not_faults_error _) fun free => free.1 blocked.2
  · rw [if_neg blocked, faults_bind_iff_or (mapM_ne_error stored.valueAt_ne_error) columns,
      sound.faults_mapM_valueAt_iff selected found, ← exists_or]
    simp only [← and_or_left]
    refine (and_iff_right_of_imp fun some taken => ?_).symm
    obtain ⟨cell, hm, -⟩ := some
    exact blocked ⟨List.ne_nil_of_mem hm, taken⟩

end Dataset

end GridTable
