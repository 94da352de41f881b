import GridTable.Dataset.Lookup
import GridTable.Json.Coercion
import GridTable.Json.Shown
import GridTable.Source

/-! Reading from a dataset.
Cells are read one at a time or many at once. Variables that are to be read have one to four
dimensions.
-/

namespace GridTable

namespace Dataset

def find (dataset : Dataset) (field : String) : Except Failure Variable :=
  match dataset.lookup? field with
  | some stored => pure stored
  | none => .error (.error (.variablesNotFound [field] dataset.variableNames))

/-- A variable that is to be read. -/
def findReadable (dataset : Dataset) (field : String) : Except Failure Variable := do
  let stored ← dataset.find field
  checkSupportedRank field stored.rank
  pure stored

def axesOf (dataset : Dataset) (field : String) : Except Failure (List Axis) := do
  let stored ← dataset.find field
  pure stored.axes

/-- The coordinates along a dimension: the numbers of the variable of its name, which must have
one dimension.
-/
def coordinate (dataset : Dataset) (name : String) : Except Failure (Array Float) :=
  match dataset.lookup? name with
  | none => .error (.error (.dimensionNotFound name (some "No coordinate variable with this name")))
  | some stored =>
      if stored.rank ≠ 1 then .error (.error (.notACoordinate name (toString stored.rank) none))
      else if !stored.element.isNumeric then
        .error (.error (.notACoordinate name (toString stored.rank)
          (some ("Expected numeric values, got dtype " ++ stored.element.word))))
      else
        match stored.cells.doubles? with
        | some values => pure values
        | none => raiseFault .badValue

def readFailure {α : Type} (operation text : String) (cause : Option Fault)
    : Except Failure α :=
  .error (.error (.dataSource operation ⟨text, cause⟩))

/-- Refuses an address that has not one entry per dimension. `shown` is the address as messages
show it, if they can.
-/
def checkEntryCount (field : String) (shown : Except Failure String) (count rank : Nat)
    : Except Failure Unit :=
  if count = rank then pure ()
  else do
    readFailure ("scalar read of '" ++ field ++ "'")
      ("Index " ++ (← shown) ++ " has " ++ toString count ++ " entries, variable has "
        ++ toString rank ++ " dimensions")
      none

def scalarFailure {α : Type} (field : String) (shown : Except Failure String) (fault : Fault)
    : Except Failure α := do
  readFailure ("scalar read of '" ++ field ++ "' at " ++ (← shown)) "" (some fault)

/-- The value of one cell of a variable. -/
def scalar (dataset : Dataset) (field : String) (cell : CellIndex) : Except Failure Float := do
  let stored ← dataset.findReadable field
  let shown := Text.parenthesized <$> cell.mapM Decimal.integerText
  checkEntryCount field shown cell.length stored.rank
  match Variable.locate? stored.axes cell with
  | some offset => stored.alone offset
  | none => scalarFailure field shown (stored.cellFault cell)

/-- The values of many cells, read one by one. -/
def pointsOneByOne (dataset : Dataset) (field : String) (cells : List CellIndex)
    : Except Failure (List Float) :=
  cells.mapM (dataset.scalar field)

/-- Whether the name of that dimension is taken by a coordinate without a dimension. -/
def isPointsTaken (dataset : Dataset) : Bool :=
  (dataset.lookup? pointsDimension).any fun stored => stored.isCoordinate && stored.rank == 0

/-- The values of many cells, read at once: all are looked up along one dimension after the other
before any is converted.
-/
def points (dataset : Dataset) (field : String) (cells : List CellIndex)
    : Except Failure (List Float) := do
  let stored ← dataset.findReadable field
  let failed := readFailure ("batched read of '" ++ field ++ "'") ""
  if cells.any fun cell => cell.length != stored.rank then raiseFault .badValue
  else
    let vectors := indexVectors stored.axes cells
    let along := stored.axes.map fun axis => (axis, (Keyed.find? axis.name vectors).getD [])
    match Variable.selected? cells.length along with
    | none => failed (some (dataset.cellsFault stored vectors))
    | some offsets =>
        if !offsets.isEmpty && dataset.isPointsTaken then failed (some .badValue)
        else offsets.mapM stored.inBlock

/-- A dataset as a source that reads many cells at once. -/
def source (dataset : Dataset) : Source where
  axes := dataset.axes
  axesOf := dataset.axesOf
  coordinate := dataset.coordinate
  points := dataset.points

/-- A dataset as a source that reads one cell after the other. -/
def scalarSource (dataset : Dataset) : Source where
  axes := dataset.axes
  axesOf := dataset.axesOf
  coordinate := dataset.coordinate
  points := dataset.pointsOneByOne

end Dataset

end GridTable
