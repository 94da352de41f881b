import GridTable.Axis
import GridTable.Journal

/-! Sources: what is read from.
A source answers four questions: what dimensions there are, along which of them a variable lies,
what the coordinate of a dimension is, and what values a variable has in some cells. Reading
goes through the journal.
-/

namespace GridTable

structure Source where
  axes : List Axis
  /-- The dimensions of a variable in storage order. -/
  axesOf : String → Except Failure (List Axis)
  /-- The coordinates along a dimension. -/
  coordinate : String → Except Failure (Array Float)
  /-- The values of a variable, one for each cell. -/
  points : String → List CellIndex → Except Failure (List Float)

/-- The least and the greatest number of dimensions of a variable that can be read. -/
def lowestRank : Nat :=
  1

def highestRank : Nat :=
  4

/-- Refuses a number of dimensions outside an interval. -/
def checkRank (field : String) (rank lowest highest : Int) : Except Failure Unit :=
  if lowest ≤ rank ∧ rank ≤ highest then pure ()
  else
    .error (.error (.unsupportedRank field (toString rank) (toString lowest) (toString highest)))

def checkSupportedRank (field : String) (rank : Nat) : Except Failure Unit :=
  checkRank field rank lowestRank highestRank

namespace Failure

/-- Whether a coordinate was asked for that a dimension may do without. -/
def meansNoCoordinate : Failure → Bool
  | error (.dimensionNotFound ..) => true
  | error (.notACoordinate ..) => true
  | _ => false

end Failure

namespace Source

def readCoordinate (source : Source) (name : String) : Traced (Array Float) := do
  Traced.note (.coordinateRead name)
  source.coordinate name

def readPoints (source : Source) (field : String) (cells : List CellIndex)
    : Traced (List Float) := do
  Traced.note (.pointsRead field cells.length)
  source.points field cells

/-- The coordinates along a dimension, if it has usable ones. -/
def coordinate? (source : Source) (name : String) : Except Failure (Option (Array Float)) :=
  match source.coordinate name with
  | .ok coordinates => .ok (some coordinates)
  | .error failure => if failure.meansNoCoordinate then .ok none else .error failure

end Source

end GridTable
