import GridTable.Axis
import GridTable.Decimal.Numeral
import GridTable.Failure.Error
import GridTable.Json.Coercion

/-! Gridded datasets.
A variable holds one cell for each combination of indices along its dimensions, in row-major
order. A variable along the one dimension that it is named after is the coordinate of that
dimension.
-/

namespace GridTable

inductive ElementType where
  | float64
  | float32
  | float16
  | int8
  | int16
  | int32
  | int64
  | uint8
  | uint16
  | uint32
  | uint64
  | bool
  | complex128
  | complex64
  /-- Nanoseconds between two moments. -/
  | duration
  /-- Nanoseconds since a fixed moment. -/
  | moment
  /-- Texts of at most `width` characters. -/
  | text (width : Nat)
  | bytes (width : Nat)
  | object
  deriving Repr, DecidableEq

namespace ElementType

def word : ElementType → String
  | float64 => "float64"
  | float32 => "float32"
  | float16 => "float16"
  | int8 => "int8"
  | int16 => "int16"
  | int32 => "int32"
  | int64 => "int64"
  | uint8 => "uint8"
  | uint16 => "uint16"
  | uint32 => "uint32"
  | uint64 => "uint64"
  | bool => "bool"
  | complex128 => "complex128"
  | complex64 => "complex64"
  | duration => "timedelta64[ns]"
  | moment => "datetime64[ns]"
  | text width => "<U" ++ toString width
  | bytes width => "|S" ++ toString width
  | object => "object"

/-- Whether the elements are numbers; truth values, moments, texts and other objects are none. -/
def isNumeric : ElementType → Bool
  | bool | moment | text _ | bytes _ | object => false
  | _ => true

end ElementType

/-- One cell that is taken out of a variable. -/
inductive Item where
  | number (value : Float)
  | complex (real imaginary : Float)
  /-- A number of nanoseconds; the least word of 64 bits says that there is none. -/
  | time (count : Int)
  | text (content : String)
  | bytes (content : List UInt8)
  | object (value : Json)

namespace Item

/-- The double that a numeral of bytes denotes. -/
def readBytes (content : List UInt8) : Except Failure Float :=
  if content.all (· < 128)
    then (Json.str (String.ofList (content.map fun byte => Char.ofNat byte.toNat))).toFloat
    else raiseFault .badValue

/-- The count that stands for no time. -/
def noTime : Int :=
  -(Nat.pow 2 63 : Nat)

/-- The double that a cell alone is converted to: neither complex numbers nor what is missing are
numbers.
-/
def alone : Item → Except Failure Float
  | number value => pure value
  | complex _ _ => raiseFault .badType
  | time count => if count = noTime then raiseFault .badType else pure (Float.ofInt count)
  | text content => (Json.str content).toFloat
  | bytes content => readBytes content
  | object value => value.toFloat

/-- The double that a cell is converted to within a block of cells: a complex number loses its
imaginary part, and what is missing has some number.
-/
def inBlock : Item → Except Failure Float
  | number value => pure value
  | complex real _ => pure real
  | time count => pure (Float.ofInt count)
  | text content => (Json.str content).toFloat
  | bytes content => readBytes content
  | object .null => pure (0.0 / 0.0)
  | object (.arr _) => raiseFault .badValue
  | object value => value.toFloat

end Item

/-- The cells of a variable in row-major order. Numbers and truth values are held as doubles. -/
inductive Cells where
  | numbers (values : Array Float)
  | complexes (values : Array (Float × Float))
  | times (counts : Array Int)
  | texts (values : Array String)
  | bytes (values : Array (List UInt8))
  | objects (values : Array Json)
  deriving Inhabited

namespace Cells

def item? (cells : Cells) (offset : Nat) : Option Item :=
  match cells with
  | numbers values => values[offset]?.map .number
  | complexes values => values[offset]?.map fun (real, imaginary) => .complex real imaginary
  | times counts => counts[offset]?.map .time
  | texts values => values[offset]?.map .text
  | bytes values => values[offset]?.map .bytes
  | objects values => values[offset]?.map .object

/-- All cells as doubles, if they are such that each is converted to one within a block. -/
def doubles? : Cells → Option (Array Float)
  | numbers values => some values
  | complexes values => some (values.map Prod.fst)
  | times counts => some (counts.map Float.ofInt)
  | _ => none

@[simp] theorem doubles?_numbers (values : Array Float) : (numbers values).doubles? = some values :=
  rfl

end Cells

structure Variable where
  name : String
  axes : List Axis
  element : ElementType
  cells : Cells
  /-- Whether the variable describes cells rather than being data itself. -/
  isCoordinate : Bool
  attributes : List (String × Json)

namespace Variable

def rank (stored : Variable) : Nat :=
  stored.axes.length

/-- Whether a variable labels a dimension: it lies along that one alone and has its name. -/
def isLabel (stored : Variable) : Bool :=
  stored.axes.map Axis.name == [stored.name]

/-- Whether the cells are texts or other objects, each of which may or may not be a number. -/
def holdsTexts (stored : Variable) : Bool :=
  stored.cells.doubles?.isNone

def item (stored : Variable) (offset : Nat) : Except Failure Item :=
  (stored.cells.item? offset).elim (raiseFault .badIndex) pure

/-- The double of a cell that is read alone. -/
def alone (stored : Variable) (offset : Nat) : Except Failure Float := do
  let item ← stored.item offset
  item.alone

/-- The double of a cell that is read with others. -/
def inBlock (stored : Variable) (offset : Nat) : Except Failure Float := do
  let item ← stored.item offset
  item.inBlock

/-- The row-major offset of a cell. There is none when an index is out of range or their number
is not the number of dimensions.
-/
def offset? : List Axis → CellIndex → Option Nat
  | [], [] => some 0
  | axis :: axes, index :: rest => do
      let position ← Axis.position? axis.size index
      let offset ← offset? axes rest
      some (position * Axis.cellCount axes + offset)
  | _, _ => none

end Variable

/-- Variables in order: data first, then those that describe it. -/
structure Dataset where
  fields : List Variable

namespace Dataset

def lookup? (dataset : Dataset) (name : String) : Option Variable :=
  dataset.fields.find? fun stored => stored.name == name

def variableNames (dataset : Dataset) : List String :=
  dataset.fields.map Variable.name

/-- All dimensions, ordered by their first appearance. -/
def axes (dataset : Dataset) : List Axis :=
  (dataset.fields.flatMap Variable.axes).foldl
    (fun known axis => if known.any (·.name == axis.name) then known else known ++ [axis])
    []

/-- The variables that describe the cells of a variable: they lie along dimensions of it. -/
def attached (dataset : Dataset) (stored : Variable) : List Variable :=
  dataset.fields.filter fun other =>
    (other.isCoordinate || other.isLabel)
      && other.axes.all fun axis => stored.axes.any (·.name == axis.name)

/-- Whether a dimension has labels. -/
def isLabelled (dataset : Dataset) (name : String) : Bool :=
  (dataset.lookup? name).any Variable.isLabel

/-- The data variables: those that do not describe cells, not even by being named like a
dimension.
-/
def dataVariables (dataset : Dataset) : List Variable :=
  dataset.fields.filter fun stored =>
    !stored.isCoordinate && !(dataset.axes.any fun axis => axis.name == stored.name)

end Dataset

end GridTable
