import GridTable.Finding
import GridTable.Matching
import GridTable.Source

/-! Filters: conditions on the coordinates of a cell.
A filter reads the coordinates along its dimensions, never the variable that is extracted.
-/

namespace GridTable

inductive Filter where
  /-- The coordinate lies in a closed interval. -/
  | range (dimension : String) (low high : Float)
  /-- The coordinate is one of the values, up to the tolerance. -/
  | list (dimension : String) (values : List Float) (tolerance : Float)
  /-- Two coordinates are near those of one of the points. -/
  | point2d (first second : String) (points : List (Float × Float)) (tolerance : Float)
  /-- Two coordinates are near those of one of the points, and the time is one of the steps. -/
  | point3d (time first second : String) (steps : List Float) (points : List (Float × Float))
      (tolerance : Float)

namespace Filter

def kind : Filter → Kind
  | range .. => .range
  | list .. => .list
  | point2d .. => .point2d
  | point3d .. => .point3d

/-- The dimensions whose coordinates a filter reads, in that order. -/
def dimensions : Filter → List String
  | range dimension _ _ => [dimension]
  | list dimension _ _ => [dimension]
  | point2d first second _ _ => [first, second]
  | point3d time first second _ _ _ => [time, first, second]

/-- The name of a kind of filters as listings show it. -/
def Kind.title : Kind → String
  | .range => "RangeFilter"
  | .list => "ListFilter"
  | .point2d => "Point2DFilter"
  | .point3d => "Point3DFilter"

/-- A title and dimensions in one line. -/
def labelOf (title : String) (dimensions : List String) : String :=
  title ++ "(" ++ Text.commaList dimensions ++ ")"

def label (filter : Filter) : String :=
  labelOf filter.kind.title filter.dimensions

/-- What a filter finds in a source. -/
def apply (source : Source) : Filter → Traced Finding
  | range dimension low high => do
      let coordinates ← source.readCoordinate dimension
      pure (.single dimension (Matching.inInterval low high coordinates))
  | list dimension values tolerance => do
      let coordinates ← source.readCoordinate dimension
      pure (.single dimension (Matching.amongValues values tolerance coordinates))
  | point2d first second points tolerance => do
      let firstCoordinates ← source.readCoordinate first
      let secondCoordinates ← source.readCoordinate second
      pure (.pairs first second
        (Matching.pairsNearAny firstCoordinates secondCoordinates points tolerance))
  | point3d time first second steps points tolerance => do
      let times ← source.readCoordinate time
      let firstCoordinates ← source.readCoordinate first
      let secondCoordinates ← source.readCoordinate second
      let moments := (Matching.amongValues steps 0.0 times).toList
      let pairs := Matching.pairsNearAny firstCoordinates secondCoordinates points tolerance
      pure (.triplets time first second
        (moments.flatMap fun t => pairs.map fun (i, j) => (t, i, j)))

/-- Applies filters in order; `position` is that of the next one. -/
def applyFrom (source : Source) (position : Nat) : List Filter → Traced (List Finding)
  | [] => pure []
  | filter :: rest => do
      let finding ← filter.apply source
      Traced.debug "filters"
        ("Filter " ++ toString position ++ " (" ++ filter.kind.word ++ "): "
          ++ toString finding.size ++ " matches")
      let findings ← applyFrom source (position + 1) rest
      pure (finding :: findings)

/-- What each of some filters finds in a source. -/
def applyAll (source : Source) (filters : List Filter) : Traced (List Finding) :=
  applyFrom source 1 filters

end Filter

end GridTable
