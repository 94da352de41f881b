import GridTable.Axis
import GridTable.Finding
import GridTable.Keyed

/-! Selections of cells.
Each dimension has a set of candidate indices. A finding along one dimension narrows its set. A
finding over several dimensions at once is spelled out as a list of cells, which from then on
stands in place of all combinations of candidates; a later one narrows that list.
-/

namespace GridTable

structure Selection where
  dimensions : List String
  candidates : List (String × IndexSet)
  explicit : Option (List CellIndex)

namespace Selection

/-- The selection of all cells. Of dimensions with one name the last one gives the size. -/
def ofAxes (axes : List Axis) : Selection where
  dimensions := axes.map Axis.name
  candidates := axes.foldl (fun known axis => Keyed.assign axis.name (.below axis.size) known) []
  explicit := none

/-- The candidates of a dimension, if the selection has it. -/
def candidates? (selection : Selection) (dimension : String) : Option IndexSet :=
  Keyed.find? dimension selection.candidates

def candidatesOf (selection : Selection) (dimension : String) : IndexSet :=
  (selection.candidates? dimension).getD (.below 0)

/-- The candidate sets in the order of the dimensions. -/
def sets (selection : Selection) : List IndexSet :=
  selection.dimensions.map selection.candidatesOf

/-- At most so many cells are selected; nothing is enumerated to tell. -/
def estimate (selection : Selection) : Nat :=
  match selection.explicit with
  | some cells => cells.length
  | none => selection.sets.foldr (fun set count => set.size * count) 1

/-- All ways to take one index of each list, the first list changing slowest. -/
def choices : List (List Int) → List CellIndex
  | [] => [[]]
  | indices :: rest =>
      let tails := choices rest
      indices.flatMap fun index => tails.map (index :: ·)

/-- Puts values at positions of a cell, one after the other. -/
def place (positions : List Nat) (values : List Int) (cell : CellIndex) : CellIndex :=
  (positions.zip values).foldl (fun cell entry => cell.set entry.1 entry.2) cell

/-- The positions that are not fixed. -/
def freePositions (selection : Selection) (fixed : List Nat) : List Nat :=
  (List.range selection.dimensions.length).filter fun position => !fixed.contains position

/-- The candidates at the positions that are not fixed. -/
def freeSets (selection : Selection) (fixed : List Nat) : List IndexSet :=
  (selection.freePositions fixed).map fun position =>
    selection.candidatesOf (selection.dimensions.getD position "")

/-- All cells with one of the groups at the fixed positions and candidates elsewhere. The groups
change fastest.
-/
def expand (selection : Selection) (fixed : List Nat) (groups : List (List Int))
    : List CellIndex :=
  let free := selection.freePositions fixed
  let blank := List.replicate selection.dimensions.length 0
  (choices ((selection.freeSets fixed).map IndexSet.toList)).flatMap fun assignment =>
    let start := place free assignment blank
    groups.map fun group => place fixed group start

/-- The number of cells that an expansion spells out. -/
def expansionCount (selection : Selection) (fixed : List Nat) (groups : List (List Int)) : Nat :=
  (selection.freeSets fixed).foldr (fun set count => set.size * count) groups.length

/-- The position of a dimension that a finding over several dimensions fixes. -/
def positionOf (selection : Selection) (dimension : String) : Except Failure Nat :=
  match selection.dimensions.idxOf? dimension with
  | some position => pure position
  | none =>
      .error (.error (.dimensionNotFound dimension
        (some ("Variable dimensions: " ++ Text.commaList selection.dimensions))))

/-- The cells of the first list that occur in the second one. -/
def keepCommon (cells known : List CellIndex) : List CellIndex :=
  let known := Std.HashSet.ofList known
  cells.filter known.contains

/-- Narrows the candidates of one dimension. -/
def narrow (selection : Selection) (dimension : String) (indices : IndexSet)
    : Except Failure Selection :=
  match selection.candidates? dimension with
  | some current =>
      pure
        { selection with
          candidates := Keyed.assign dimension (current.inter indices) selection.candidates }
  | none => .error (.error (.unknownDimension dimension selection.dimensions))

/-- Narrows the selection to groups of indices along several dimensions. -/
def fix (selection : Selection) (dimensions : List String) (groups : List (List Int))
    : Except Failure Selection := do
  let fixed ← dimensions.mapM selection.positionOf
  let cells := selection.expand fixed groups
  let stored :=
    match selection.explicit with
    | none => cells
    | some stored => keepCommon stored cells
  pure { selection with explicit := some stored }

/-- Narrows the selection to what a finding keeps. -/
def fold (selection : Selection) : Finding → Except Failure Selection
  | .single dimension indices => selection.narrow dimension indices
  | .pairs first second items =>
      selection.fix [first, second] (items.map fun (i, j) => [i, j])
  | .triplets first second third items =>
      selection.fix [first, second, third] (items.map fun (i, j, k) => [i, j, k])
  | .unsupported kind => raiseFault (.unsupportedFinding kind)

/-- The cells without those that came before or are in `seen`. -/
def distinctFrom (seen : Std.HashSet CellIndex) : List CellIndex → List CellIndex
  | [] => []
  | cell :: rest =>
      if seen.contains cell then distinctFrom seen rest
      else cell :: distinctFrom (seen.insert cell) rest

/-- Whether each index of a cell is a member of the set at its position. -/
def allowedBy (sets : List (Std.HashSet Int)) (cell : CellIndex) : Bool :=
  (cell.zip sets).all fun entry => entry.2.contains entry.1

/-- The selected cells, each once. Combinations of candidates come in ascending order; a list of
cells keeps its own order and loses what is no candidate any more.
-/
def enumerate (selection : Selection) : List CellIndex :=
  match selection.explicit with
  | none => choices (selection.sets.map IndexSet.toList)
  | some cells =>
      let sets := selection.sets.map fun set => Std.HashSet.ofList set.toList
      (distinctFrom ∅ cells).filter (allowedBy sets)

end Selection

end GridTable
