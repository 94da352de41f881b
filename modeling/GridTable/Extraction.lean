import GridTable.Filter.Basic
import GridTable.Pieces
import GridTable.Selection
import GridTable.Table
import GridTable.Text.Quoted

/-! Extraction: the selected cells of one variable as a table.
Each row stands for a cell: a column per dimension holds its coordinate, or its index where the
dimension has no coordinates, and the last column holds the value.
-/

namespace GridTable

namespace Selection

/-- How a fold is reported: candidates before and after, or cells spelled out and kept. -/
def foldReport (before after : Selection) : Finding → String
  | .single dimension _ =>
      "Dimension '" ++ dimension ++ "': " ++ toString (before.candidatesOf dimension).size ++ " -> "
        ++ toString (after.candidatesOf dimension).size ++ " candidates"
  | .pairs first second items => explicitReport [first, second] (items.map fun (i, j) => [i, j])
  | .triplets first second third items =>
      explicitReport [first, second, third] (items.map fun (i, j, k) => [i, j, k])
  | .unsupported _ => ""
where
  explicitReport (dimensions : List String) (groups : List (List Int)) : String :=
    let fixed := dimensions.filterMap before.dimensions.idxOf?
    "Explicit combinations over " ++ Text.bracketed (dimensions.map Text.quoted) ++ ": "
      ++ toString (before.expansionCount fixed groups) ++ " (stored "
      ++ toString (after.explicit.getD []).length ++ ")"

/-- Narrows a selection to what findings keep, one after the other. -/
def foldAll (selection : Selection) : List Finding → Traced Selection
  | [] => pure selection
  | finding :: rest => do
      let description ← finding.describe
      Traced.debug "main" ("Folding " ++ description)
      let narrowed ← selection.fold finding
      Traced.debug "extraction.manager" (selection.foldReport narrowed finding)
      narrowed.foldAll rest

end Selection

namespace Source

/-- The cells of a variable that pass all filters. The number of dimensions is checked before
any coordinate is read, and all filters are applied before the first finding counts.
-/
def select (source : Source) (field : String) (filters : List Filter) : Traced Selection := do
  let axes ← source.axesOf field
  checkSupportedRank field axes.length
  let findings ← Filter.applyAll source filters
  (Selection.ofAxes axes).foldAll findings

/-- At most so many rows an extraction has. -/
def estimateRows (source : Source) (field : String) (filters : List Filter) : Traced Nat := do
  let selection ← source.select field filters
  pure selection.estimate

/-- The coordinates along each dimension; none where the dimension has no usable ones. -/
def displayCoordinates (source : Source)
    : List String → Traced (List (Option (Array Float)))
  | [] => pure []
  | name :: rest => do
      let coordinates ←
        match ← (source.readCoordinate name).attempt with
        | .ok coordinates => pure (some coordinates)
        | .error failure =>
            if failure.meansNoCoordinate then do
              Traced.debug "extraction.extractor"
                ("No coordinate variable for '" ++ name ++ "', using raw indices")
              pure none
            else Traced.ofExcept (.error failure)
      let others ← source.displayCoordinates rest
      pure (coordinates :: others)

end Source

/-- A limit on the number of rows, and the text that shows it. -/
structure RowLimit where
  rows : Int
  shown : String
  deriving Repr, DecidableEq

def RowLimit.ofInt (rows : Int) : RowLimit where
  rows := rows
  shown := toString rows

namespace Extraction

/-- The greatest number of cells that a batch can be limited to. -/
def batchLimit : Nat :=
  Nat.pow 2 63 - 1

/-- The batches in which entries are read. A size of zero makes none, and a size that is no
count is a fault even if there is nothing to read.
-/
def batches {α : Type} (size : Int) (entries : List α) : Except Failure (List (List α)) :=
  if 0 ≤ size ∧ size ≤ batchLimit then pure (pieces size.toNat entries)
  else raiseFault .badValue

/-- The values of a variable in all batches, in order. -/
def readBatches (source : Source) (field : String) : List (List CellIndex) → Traced (List Float)
  | [] => pure []
  | batch :: rest => do
      let values ← source.readPoints field batch
      let more ← readBatches source field rest
      pure (values ++ more)

/-- What a dimension shows for an index: its coordinate, or else the index itself. -/
def shownIndex (coordinates : Option (Array Float)) (index : Int) : Except Failure Float :=
  match coordinates with
  | none => pure (Float.ofInt index)
  | some values =>
      match Axis.position? values.size index with
      | some position => pure (values.getD position 0.0)
      | none => raiseFault .badIndex

/-- The column of the dimension at a position. -/
def dimensionColumn (cells : List CellIndex) (position : Nat)
    (coordinates : Option (Array Float))
    : Except Failure (List Float) :=
  cells.mapM fun cell => shownIndex coordinates (cell.getD position 0)

/-- The columns of all dimensions from `position` on. -/
def dimensionColumns (cells : List CellIndex) (position : Nat)
    : List (String × Option (Array Float)) → Except Failure (List (String × List Float))
  | [] => pure []
  | (name, coordinates) :: rest => do
      let column ← dimensionColumn cells position coordinates
      let others ← dimensionColumns cells (position + 1) rest
      pure ((name, column) :: others)

/-- Refuses more rows than allowed. -/
def checkRows (estimated : Nat) : Option RowLimit → Except Failure Unit
  | none => pure ()
  | some limit =>
      if limit.rows < estimated
        then .error (.error (.rowLimitExceeded (toString estimated) limit.shown))
        else pure ()

/-- The table of the selected cells of a variable. The row limit holds for the estimate, so that
nothing is read in vain.
-/
def extract (source : Source) (field : String) (selection : Selection) (batchSize : Int)
    (maxRows : Option RowLimit)
    : Traced Table := do
  let dimensions := selection.dimensions
  checkSupportedRank field dimensions.length
  if dimensions.contains field then
    Traced.fail (.configuration field .valueColumn)
  let estimated := selection.estimate
  checkRows estimated maxRows
  Traced.info "extraction.extractor"
    ("Extracting '" ++ field ++ "': up to " ++ toString estimated ++ " rows")
  let coordinates ← source.displayCoordinates dimensions
  let read ← batches batchSize selection.enumerate
  let values ← readBatches source field read
  let columns ← dimensionColumns read.flatten 0 (dimensions.zip coordinates)
  let table := Table.ofColumns (columns ++ [(field, values)])
  Traced.info "extraction.extractor"
    ("Extracted " ++ toString table.rowCount ++ " rows for '" ++ field ++ "'")
  pure table

end Extraction

/-- The number of cells that are read at once unless a job says otherwise. -/
def defaultBatchSize : Int :=
  65536

/-- The table of the cells of a variable that pass all filters. -/
def Source.extract (source : Source) (field : String) (filters : List Filter) (batchSize : Int)
    (maxRows : Option RowLimit)
    : Traced Table := do
  let selection ← source.select field filters
  Extraction.extract source field selection batchSize maxRows

end GridTable
