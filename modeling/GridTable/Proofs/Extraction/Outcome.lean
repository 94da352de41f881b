import GridTable.Extraction
import GridTable.Proofs.Selection.Runs
import GridTable.Proofs.Source

/-! How extractions end: each stage ends as the plain computation that it does, whatever it
notes in the journal.
-/

namespace GridTable

-----------------------------------------------------------------------------------------
-- Selecting
-----------------------------------------------------------------------------------------

/-- What cannot be described cannot be folded either, and fails the same way. -/
theorem Selection.outcome_foldAll (selection : Selection) (findings : List Finding)
    : (selection.foldAll findings).outcome = findings.foldlM fold selection := by
  induction findings generalizing selection with
  | nil => rfl
  | cons finding rest ih =>
      cases finding <;>
        simp [foldAll, Finding.describe, List.foldlM_cons, ih, fold, raiseFault]

theorem Filter.outcome_applyFrom (source : Source) (position : Nat) (filters : List Filter)
    : (applyFrom source position filters).outcome
      = filters.mapM fun filter => (filter.apply source).outcome := by
  induction filters generalizing position with
  | nil => rfl
  | cons filter rest ih =>
      simp [applyFrom, List.mapM_cons, ih]

theorem Source.outcome_select (source : Source) (field : String) (filters : List Filter)
    : (source.select field filters).outcome
      = (do
          let axes ← source.axesOf field
          checkSupportedRank field axes.length
          let findings ← filters.mapM fun filter => (filter.apply source).outcome
          findings.foldlM Selection.fold (.ofAxes axes)) := by
  simp [select, Filter.applyAll, Filter.outcome_applyFrom, Selection.outcome_foldAll]

/-- What the filters of a selection found, and that all of it could be folded. -/
theorem Source.select_eq_ok_iff {source : Source} {field : String} {filters : List Filter}
    {selection : Selection}
    : (source.select field filters).outcome = .ok selection
      ↔ ∃ axes findings,
          source.axesOf field = .ok axes
          ∧ checkSupportedRank field axes.length = .ok ()
          ∧ filters.mapM (fun filter => (filter.apply source).outcome) = .ok findings
          ∧ findings.foldlM Selection.fold (.ofAxes axes) = .ok selection := by
  simp [outcome_select, Outcome.bind_eq_ok_iff, Unique.exists_iff]

/-- What can be folded are findings that apply, each of which takes the total step. -/
theorem Source.select_eq_ok_iff_folded {source : Source} {field : String} {filters : List Filter}
    {selection : Selection}
    : (source.select field filters).outcome = .ok selection
      ↔ ∃ axes findings,
          source.axesOf field = .ok axes
          ∧ checkSupportedRank field axes.length = .ok ()
          ∧ filters.mapM (fun filter => (filter.apply source).outcome) = .ok findings
          ∧ (∀ finding ∈ findings, finding.AppliesTo (Selection.ofAxes axes).dimensions)
          ∧ findings.foldl Selection.folded (.ofAxes axes) = selection := by
  rw [select_eq_ok_iff]
  refine exists_congr fun axes => exists_congr fun findings => ?_
  rw [Selection.foldlM_fold_eq_ok_iff (Selection.valid_ofAxes axes)]

-----------------------------------------------------------------------------------------
-- Extracting
-----------------------------------------------------------------------------------------

theorem Source.outcome_displayCoordinates (source : Source) (names : List String)
    : (source.displayCoordinates names).outcome = names.mapM source.coordinate? := by
  induction names with
  | nil => rfl
  | cons name rest ih =>
      rw [displayCoordinates, List.mapM_cons, coordinate?]
      cases h : source.coordinate name with
      | ok coordinates => simp [h, ih]
      | error failure => cases hm : failure.meansNoCoordinate <;> simp [h, hm, ih]

theorem Extraction.outcome_readBatches (source : Source) (field : String)
    (batches : List (List CellIndex))
    : (readBatches source field batches).outcome
      = List.flatten <$> batches.mapM (source.points field) := by
  induction batches with
  | nil => rfl
  | cons batch rest ih => simp [readBatches, List.mapM_cons, ih]

/-- The stages of an extraction that can fail, in order. -/
theorem Extraction.outcome_extract (source : Source) (field : String) (selection : Selection)
    (batchSize : Int) (maxRows : Option RowLimit)
    : (extract source field selection batchSize maxRows).outcome
      = (do
          checkSupportedRank field selection.dimensions.length
          if field ∈ selection.dimensions then
            .error (.error (.configuration field .valueColumn))
          checkRows selection.estimate maxRows
          let coordinates ← selection.dimensions.mapM source.coordinate?
          let read ← batches batchSize selection.enumerate
          let values ← List.flatten <$> read.mapM (source.points field)
          let columns ←
            dimensionColumns read.flatten 0 (selection.dimensions.zip coordinates)
          pure (Table.ofColumns (columns ++ [(field, values)]))) := by
  by_cases hm : field ∈ selection.dimensions <;>
    simp [extract, hm, Source.outcome_displayCoordinates, outcome_readBatches, -bind_pure_comp]

/-- What is left of an extraction once the selection may be read: coordinates, values and the
columns of both.
-/
def Extraction.readTable (source : Source) (field : String) (selection : Selection)
    (batchSize : Int)
    : Except Failure Table := do
  let coordinates ← selection.dimensions.mapM source.coordinate?
  let read ← batches batchSize selection.enumerate
  let values ← List.flatten <$> read.mapM (source.points field)
  let columns ← dimensionColumns read.flatten 0 (selection.dimensions.zip coordinates)
  pure (Table.ofColumns (columns ++ [(field, values)]))

/-- An extraction refuses a selection or reads it. -/
theorem Extraction.outcome_extract_eq_readTable (source : Source) (field : String)
    (selection : Selection) (batchSize : Int) (maxRows : Option RowLimit)
    : (extract source field selection batchSize maxRows).outcome
      = (do
          checkSupportedRank field selection.dimensions.length
          if field ∈ selection.dimensions then
            .error (.error (.configuration field .valueColumn))
          checkRows selection.estimate maxRows
          readTable source field selection batchSize) := by
  rw [outcome_extract]
  rfl

/-- What an extraction that ends with a table went through. -/
theorem Extraction.extract_eq_ok_iff {source : Source} {field : String} {selection : Selection}
    {batchSize : Int} {maxRows : Option RowLimit} {table : Table}
    : (extract source field selection batchSize maxRows).outcome = .ok table
      ↔ checkSupportedRank field selection.dimensions.length = .ok ()
        ∧ field ∉ selection.dimensions
        ∧ checkRows selection.estimate maxRows = .ok ()
        ∧ ∃ coordinates read values columns,
            selection.dimensions.mapM source.coordinate? = .ok coordinates
            ∧ batches batchSize selection.enumerate = .ok read
            ∧ List.flatten <$> read.mapM (source.points field) = .ok values
            ∧ dimensionColumns read.flatten 0 (selection.dimensions.zip coordinates)
                = .ok columns
            ∧ Table.ofColumns (columns ++ [(field, values)]) = table := by
  rw [outcome_extract]
  by_cases hm : field ∈ selection.dimensions
  · simp [hm, Outcome.bind_eq_ok_iff]
  · simp [hm, Outcome.bind_eq_ok_iff, Outcome.pure_eq_ok_iff, Unique.exists_iff, -bind_pure_comp,
      -bind_map_left]

end GridTable
