/-! Dimensions with their sizes, and the addresses of cells. -/

namespace GridTable

structure Axis where
  name : String
  size : Nat
  deriving Repr, DecidableEq

/-- The address of a cell: one index per dimension. -/
abbrev CellIndex :=
  List Int

namespace Axis

/-- The number of cells over some dimensions. -/
def cellCount (axes : List Axis) : Nat :=
  axes.foldr (fun axis count => axis.size * count) 1

/-- The position that an index along a dimension addresses; negative indices count from the
end.
-/
def position? (size : Nat) (index : Int) : Option Nat :=
  if 0 ≤ index ∧ index < size then some index.toNat
  else if -(size : Int) ≤ index ∧ index < 0 then some (index + size).toNat
  else none

end Axis

end GridTable
