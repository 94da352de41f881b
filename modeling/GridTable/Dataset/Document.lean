import GridTable.Dataset.Basic
import GridTable.Keyed

/-! Datasets described by JSON documents.
A document lists the variables with name, dimensions, shape, element type and cells. Cells are
listed one by one, or given as the start and the step of a progression of integers. Numbers are
held as their element type can hold them.
-/

namespace GridTable.Dataset

def textOf? : Json → Option String
  | .str text => some text
  | _ => none

def listOf? {α : Type} (read : Json → Option α) : Json → Option (List α)
  | .arr entries => entries.mapM read
  | _ => none

/-- The double of a cell. What no JSON number can be is written as a numeral. -/
def numberOf? : Json → Option Float
  | .bool value => some (if value then 1.0 else 0.0)
  | .int value => Decimal.ofInt? value
  | .float value => some value
  | .str text => Decimal.readFloat? text.toList
  | _ => none

/-- The number of bits of an element type of integers, and whether one of them is a sign. -/
def wordForm? : ElementType → Option (Nat × Bool)
  | .int8 => some (8, true)
  | .int16 => some (16, true)
  | .int32 => some (32, true)
  | .int64 => some (64, true)
  | .uint8 => some (8, false)
  | .uint16 => some (16, false)
  | .uint32 => some (32, false)
  | .uint64 => some (64, false)
  | _ => none

/-- The integer that a word of so many bits holds in place of an integer. -/
def wrapped (bits : Nat) (isSigned : Bool) (n : Int) : Int :=
  if isSigned then Int.bmod n (Nat.pow 2 bits) else n % (Nat.pow 2 bits : Nat)

/-- A double as the element type can hold it, if that is no type of integers. -/
def narrowed (element : ElementType) (x : Float) : Float :=
  match element with
  | .float32 => x.toFloat32.toFloat
  | .bool => if x == 0.0 then 0.0 else 1.0
  | _ => x

/-- The number that an element holds. An integer drops the fraction of a double. -/
def heldNumber? (element : ElementType) : Json → Option Float
  | .float x =>
      match wordForm? element, Decimal.parts x with
      | some (bits, isSigned), .finite negative m q =>
          Decimal.ofInt? (wrapped bits isSigned (Decimal.truncated negative m q))
      | _, _ => some (narrowed element x)
  | entry => (numberOf? entry).map (narrowed element)

/-- The cells of numbers of a description. -/
def numbersOf? (element : ElementType) (count : Nat) : Json → Option (Array Float)
  | .arr entries => do
      let numbers ← entries.mapM (heldNumber? element)
      some numbers.toArray
  | .obj members =>
      match Keyed.find? "start" members, Keyed.find? "step" members with
      | some (.int start), some (.int step) => do
          let numbers ← (List.range count).mapM fun k =>
            Decimal.ofInt? (start + step * Int.ofNat k)
          some (numbers.map (narrowed element)).toArray
      | _, _ => none
  | _ => none

/-- The element types that have a word in descriptions; `str` is the one of texts. -/
def elementTypes : List (String × ElementType) :=
  [
    ElementType.float64, .float32, .int8, .int16, .int32, .int64, .uint8, .uint16, .uint32,
    .uint64, .bool
  ].map fun element => (element.word, element)

/-- A text as an element holds it: zeros at its end are no part of it. -/
def heldText (text : String) : String :=
  String.ofList (text.toList.reverse.dropWhile (· == '\x00')).reverse

/-- The element type and the cells that a word and a list of values give. -/
def cellsOf? (word : String) (count : Nat) (data : Json) : Option (ElementType × Cells) :=
  if word = "str" then do
    let texts ← listOf? textOf? data
    let width := texts.foldl (fun width text => max width text.length) 1
    some (.text width, .texts (texts.map heldText).toArray)
  else do
    let element ← Keyed.find? word elementTypes
    let numbers ← numbersOf? element count data
    some (element, .numbers numbers)

def sizeOf? : Json → Option Nat
  | .int size => if 0 ≤ size then some size.toNat else none
  | _ => none

/-- The variable that an object describes. -/
def variableOf? : Json → Option Variable
  | .obj members => do
      let name ← (Keyed.find? "name" members).bind textOf?
      let dimensions ← (Keyed.find? "dims" members).bind (listOf? textOf?)
      let shape ← (Keyed.find? "shape" members).bind (listOf? sizeOf?)
      let word ← (Keyed.find? "dtype" members).bind textOf?
      let data ← Keyed.find? "data" members
      let axes := List.zipWith Axis.mk dimensions shape
      let (element, cells) ← cellsOf? word (Axis.cellCount axes) data
      let isCoordinate :=
        match Keyed.find? "coord" members with
        | some value => !value.isVoid
        | none => false
      let attributes :=
        match Keyed.find? "attrs" members with
        | some (.obj entries) => entries
        | _ => []
      some { name, axes, element, cells, isCoordinate, attributes }
  | _ => none

/-- The dataset of some variables: data first, then what describes it. -/
def ofVariables (fields : List Variable) : Dataset :=
  let (coordinates, data) := fields.partition Variable.isCoordinate
  ⟨data ++ coordinates⟩

/-- The dataset that a document describes. -/
def ofJson? : Json → Option Dataset
  | .obj members => do
      let fields ← (Keyed.find? "variables" members).bind (listOf? variableOf?)
      some (ofVariables fields)
  | _ => none

end GridTable.Dataset
