import GridTable.Dataset.Basic
import GridTable.Keyed

/-! Looking up cells by their indices.
An index holds for every dimension of one name: where a variable has several, the last of their
indices counts. Why an index leads nowhere depends on what is looked up: the cells of a variable
or the texts that label a dimension.
-/

namespace GridTable

/-- Whether a word of 64 bits with a sign holds an integer. -/
def fitsWord (n : Int) : Bool :=
  -(Nat.pow 2 63) ≤ n && n < Nat.pow 2 63

/-- Whether a word of 64 bits holds an integer only without a sign. -/
def needsUnsigned (n : Int) : Bool :=
  Nat.pow 2 63 ≤ n && n < Nat.pow 2 64

namespace Variable

def isInRange (size : Nat) (index : Int) : Bool :=
  (Axis.position? size index).isSome

/-- The indices of a cell that count, one for each dimension. -/
def settled (axes : List Axis) (cell : CellIndex) : CellIndex :=
  let named := Keyed.collect ((axes.map Axis.name).zip cell)
  axes.map fun axis => (Keyed.find? axis.name named).getD 0

/-- The offset of the cell that indices lead to. -/
def locate? (axes : List Axis) (cell : CellIndex) : Option Nat :=
  offset? axes (settled axes cell)

/-- Why an index is no word; only numbers are looked up by words without a sign. -/
def wordFault? (stored : Variable) (index : Int) : Option Fault :=
  if fitsWord index then none
  else if needsUnsigned index || (stored.isLabel && stored.holdsTexts) then some .overflow
  else some .badIndex

/-- Why indices, one for each dimension, lead to no cell. -/
def indicesFault? (stored : Variable) (indices : List (Axis × Int)) : Option Fault :=
  match indices.findSome? fun (_, index) => stored.wordFault? index with
  | some fault => some fault
  | none =>
      if indices.all fun (axis, index) => isInRange axis.size index then none
      else some .badIndex

/-- The offsets of `count` cells that vectors of indices select, one vector along each dimension.
There are none if any index is out of range.
-/
def selected? (count : Nat) : List (Axis × List Int) → Option (List Nat)
  | [] => some (List.replicate count 0)
  | (axis, vector) :: rest => do
      let positions ← vector.mapM (Axis.position? axis.size)
      let offsets ← selected? count rest
      let block := Axis.cellCount (rest.map Prod.fst)
      some (List.zipWith (fun position offset => position * block + offset) positions offsets)

/-- Why a cell is not found. -/
def cellFault (stored : Variable) (cell : CellIndex) : Fault :=
  (stored.indicesFault? (stored.axes.zip (settled stored.axes cell))).getD .badIndex

/-- Why many indices along a dimension do not all lead to a place. Texts that label a dimension
are looked for from the start first.
-/
def placesFault? (stored : Variable) (size : Nat) (indices : List Int) : Option Fault :=
  if indices.all (isInRange size) then none
  else if stored.isLabel && stored.holdsTexts && indices.all (· < size) then some .labelMissing
  else some .badIndex

end Variable

namespace Dataset

/-- The dimension along which the cells of one read lie. -/
def pointsDimension : String :=
  "points"

/-- The indices of some cells along each dimension of a variable, by the name of the dimension. -/
def indexVectors (axes : List Axis) (cells : List CellIndex) : List (String × List Int) :=
  let vectors := (List.range axes.length).map fun position =>
    cells.map fun cell => cell.getD position 0
  Keyed.collect ((axes.map Axis.name).zip vectors)

/-- Why cells that are read at once are not all found. What describes them is looked up before
they are, the labels of the dimension of the read first of all.
-/
def cellsFault (dataset : Dataset) (stored : Variable) (vectors : List (String × List Int))
    : Fault :=
  let (first, others) := (dataset.attached stored).partition fun other =>
    other.isLabel && other.name == pointsDimension
  let fault? := (first ++ others).findSome? fun other =>
    other.axes.findSome? fun axis =>
      other.placesFault? axis.size ((Keyed.find? axis.name vectors).getD [])
  fault?.getD .badIndex

end Dataset

end GridTable
