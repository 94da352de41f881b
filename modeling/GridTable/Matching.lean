import GridTable.IndexSet

/-! Matching coordinates against targets.
All comparisons are those of doubles, so that a value that is not a number matches nothing.
-/

namespace GridTable.Matching

/-- The positions whose coordinate passes a test. -/
def positions (test : Float → Bool) (coordinates : Array Float) : IndexSet :=
  (IndexSet.below coordinates.size).filter fun index => coordinates[index.toNat]?.any test

/-- Whether a coordinate lies in a closed interval. -/
def isBetween (low high coordinate : Float) : Bool :=
  low ≤ coordinate && coordinate ≤ high

/-- Whether a coordinate is at most `tolerance` away from a target. -/
def isNear (target tolerance coordinate : Float) : Bool :=
  (coordinate - target).abs ≤ tolerance

/-- Whether a coordinate is one of some values: equal to it when the tolerance is zero, near it
otherwise.
-/
def isOneOf (values : List Float) (tolerance coordinate : Float) : Bool :=
  if tolerance == 0.0 then values.any fun value => coordinate == value
  else values.any fun value => isNear value tolerance coordinate

def inInterval (low high : Float) (coordinates : Array Float) : IndexSet :=
  positions (isBetween low high) coordinates

def amongValues (values : List Float) (tolerance : Float) (coordinates : Array Float)
    : IndexSet :=
  positions (isOneOf values tolerance) coordinates

/-- The pairs of positions near a point: those near its second part for each near its first. -/
def pairsNear (first second : Array Float) (tolerance : Float) (point : Float × Float)
    : List (Int × Int) :=
  let beside := (positions (isNear point.2 tolerance) second).toList
  (positions (isNear point.1 tolerance) first).toList.flatMap fun i =>
    beside.map fun j => (i, j)

/-- The pairs of positions near points, point by point. A pair that is near several points
occurs once for each.
-/
def pairsNearAny (first second : Array Float) (points : List (Float × Float))
    (tolerance : Float)
    : List (Int × Int) :=
  points.flatMap (pairsNear first second tolerance)

end GridTable.Matching
