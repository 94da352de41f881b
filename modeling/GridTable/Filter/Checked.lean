import GridTable.Filter.Basic

/-! Filters whose parameters make sense.
An interval has more than one point, and a tolerance is no negative number; for points it is
not zero either.
-/

namespace GridTable.Filter

/-- A setting of a filter that makes no sense. -/
def senseless {α : Type} (kind : Kind) (issue : Issue) : Except Failure α :=
  misconfigured kind.word issue

def checkedRange (dimension : String) (low high : Float) : Except Failure Filter :=
  if low ≥ high then senseless .range (.interval low high)
  else pure (.range dimension low high)

def checkedList (dimension : String) (values : List Float) (tolerance : Float)
    : Except Failure Filter :=
  if tolerance < 0.0 then senseless .list (.negativeTolerance tolerance)
  else pure (.list dimension values tolerance)

def checkedPoint2d (first second : String) (points : List (Float × Float)) (tolerance : Float)
    : Except Failure Filter :=
  if tolerance ≤ 0.0 then senseless .point2d (.tolerance tolerance)
  else pure (.point2d first second points tolerance)

def checkedPoint3d (time first second : String) (steps : List Float)
    (points : List (Float × Float)) (tolerance : Float)
    : Except Failure Filter :=
  if tolerance ≤ 0.0 then senseless .point3d (.tolerance tolerance)
  else pure (.point3d time first second steps points tolerance)

end GridTable.Filter
