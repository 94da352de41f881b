import GridTable.Filter.Entry

/-! Filters out of bare arguments.
The arguments of a kind are taken as they are, without asking whether they make sense.
-/

namespace GridTable.Filter

/-- Dimensions are named by texts. -/
def dimensionOf : Json → Except Failure String
  | .str name => pure name
  | _ => raiseFault .badType

/-- A point is whatever lists two numbers. -/
def pointOf (value : Json) : Except Failure (Float × Float) := do
  match ← value.items with
  | [a, b] => pure (← a.toFloat, ← b.toFloat)
  | _ => raiseFault .badValue

def pointsOf (listed : Json) : Except Failure (List (Float × Float)) := do
  (← listed.items).mapM pointOf

/-- The filter of a kind with arguments in the order of its parameters. -/
def ofArguments (kind : Kind) (arguments : List Json) : Except Failure Filter := do
  match kind, arguments with
  | .range, [dimension, low, high] =>
      let dimension ← dimensionOf dimension
      let low ← low.toFloat
      let high ← high.toFloat
      pure (.range dimension low high)
  | .list, [dimension, values] =>
      let dimension ← dimensionOf dimension
      let values ← readNumbers values
      pure (.list dimension values 0.0)
  | .list, [dimension, values, tolerance] =>
      let dimension ← dimensionOf dimension
      let values ← readNumbers values
      let tolerance ← tolerance.toFloat
      pure (.list dimension values tolerance)
  | .point2d, [first, second, points, tolerance] =>
      let first ← dimensionOf first
      let second ← dimensionOf second
      let points ← pointsOf points
      let tolerance ← tolerance.toFloat
      pure (.point2d first second points tolerance)
  | .point3d, [time, first, second, steps, points, tolerance] =>
      let time ← dimensionOf time
      let first ← dimensionOf first
      let second ← dimensionOf second
      let points ← pointsOf points
      let tolerance ← tolerance.toFloat
      let steps ← readNumbers steps
      pure (.point3d time first second steps points tolerance)
  | _, _ => raiseFault .badType

end GridTable.Filter
