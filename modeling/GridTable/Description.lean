import GridTable.Dataset.Reading
import GridTable.Decimal.Layout
import GridTable.Json.Shown

/-! Descriptions of datasets: what dimensions and variables there are.
A description has a text for the eye and a JSON document.
-/

namespace GridTable

structure AxisDescription where
  name : String
  size : Nat
  hasCoordinate : Bool
  /-- The least and the greatest coordinate, unless there is no coordinate at all. -/
  bounds : Option (Float × Float)

structure VariableDescription where
  name : String
  dimensions : List String
  shape : List Nat
  element : String
  /-- Whether the variable has a number of dimensions that can be extracted. -/
  isExtractable : Bool
  attributes : List (String × String)

structure Description where
  path : Option String
  axes : List AxisDescription
  fields : List VariableDescription

namespace Description

/-- The one of two values that `isBetter` prefers; what is not a number is preferred to nothing,
and of equal values the first one stays.
-/
def preferred (isBetter : Float → Float → Bool) (first second : Float) : Float :=
  if first.isNaN then second else if isBetter second first then second else first

/-- The least and the greatest of some values. -/
def boundsOf : List Float → Option (Float × Float)
  | [] => none
  | first :: rest =>
      some (rest.foldl (preferred (· < ·)) first, rest.foldl (preferred (· > ·)) first)

def ofAxis (source : Source) (axis : Axis) : Except Failure AxisDescription := do
  match ← source.coordinate? axis.name with
  | none => pure ⟨axis.name, axis.size, false, none⟩
  | some coordinates => pure ⟨axis.name, axis.size, true, boundsOf coordinates.toList⟩

/-- A variable in words. In an attribute at most `levels` lists may stand in each other. -/
def ofVariable (levels : Nat) (stored : Variable) : Except Failure VariableDescription := do
  let attributes ← stored.attributes.mapM fun entry => do
    let shown ← entry.2.plain levels
    pure (entry.1, shown)
  pure
    {
      name := stored.name, dimensions := stored.axes.map Axis.name,
      shape := stored.axes.map Axis.size, element := stored.element.word,
      isExtractable := lowestRank ≤ stored.rank && stored.rank ≤ highestRank, attributes
    }

/-- The description of a dataset, or only that of one variable and its dimensions. -/
def ofDataset (levels : Nat) (dataset : Dataset) (path : Option String)
    (field : Option String)
    : Except Failure Description := do
  let (axes, fields) ←
    match field with
    | none => pure (dataset.axes, dataset.dataVariables)
    | some field => do
        let stored ← dataset.find field
        pure (stored.axes, [stored])
  let axes ← axes.mapM (ofAxis dataset.source)
  let fields ← fields.mapM (ofVariable levels)
  pure ⟨path, axes, fields⟩

/-- A dimension in one line: its bounds, or else that it has no coordinate. -/
def axisLine (name size : String) (hasCoordinate : Bool) (bounds : Option (Float × Float))
    : String :=
  let line := "  " ++ name ++ ": " ++ size
  match bounds with
  | some (least, greatest) =>
      line ++ " [" ++ Decimal.briefText least ++ " .. " ++ Decimal.briefText greatest ++ "]"
  | none => if hasCoordinate then line else line ++ " (no coordinate)"

/-- A variable in one line: its dimensions, its element type and whether it is of no use. -/
def variableLine (name : String) (dimensions : List String) (element : String)
    (isExtractable : Bool)
    : String :=
  "  " ++ name ++ "(" ++ Text.commaList dimensions ++ ") " ++ element
    ++ (if isExtractable then "" else "  (unsupported rank)")

/-- The lines of dimensions and variables under their headings; an empty path has none. -/
def textOf (path : String) (axisLines variableLines : List String) : String :=
  let heading := if path.isEmpty then [] else ["Dataset: " ++ path]
  String.intercalate "\n"
    (heading ++ "Dimensions:" :: axisLines ++ "Variables:" :: variableLines)

/-- The description for the eye. -/
def text (description : Description) : String :=
  textOf (description.path.getD "")
    (description.axes.map fun axis =>
      axisLine axis.name (toString axis.size) axis.hasCoordinate axis.bounds)
    (description.fields.map fun stored =>
      variableLine stored.name stored.dimensions stored.element stored.isExtractable)

/-- A bound of coordinates. What no number of JSON can be is written as a word. -/
def boundOfJson : Json → Except Failure Float
  | .str text =>
      if ["nan", "inf", "-inf"].contains text then (Json.str text).toFloat
      else raiseFault .badValue
  | value => value.toFloat

/-- The line of a dimension that a document describes. -/
def axisLineOfJson (levels : Nat) (value : Json) : Except Failure String := do
  let members ← value.members
  let name ← Json.need members "name"
  let size ← Json.need members "size"
  match Keyed.find? "min" members with
  | some least =>
      let least ← boundOfJson least
      let greatest ← boundOfJson (← Json.need members "max")
      pure
        (axisLine (← name.plain levels) (← size.plain levels) true (some (least, greatest)))
  | none =>
      let hasCoordinate ← Json.need members "has_coordinate"
      pure
        (axisLine (← name.plain levels) (← size.plain levels) (!hasCoordinate.isVoid) none)

/-- The line of a variable that a document describes; its dimensions must be texts. -/
def variableLineOfJson (levels : Nat) (value : Json) : Except Failure String := do
  let members ← value.members
  let isExtractable ← Json.need members "extractable"
  let name ← Json.need members "name"
  let dimensions ← (← (← Json.need members "dimensions").items).mapM fun
    | .str text => pure text
    | _ => raiseFault .badType
  let element ← Json.need members "dtype"
  pure
    (variableLine (← name.plain levels) dimensions (← element.plain levels)
      (!isExtractable.isVoid))

/-- The text of the description that a document holds. Values are shown as they are, with at most
`levels` lists and objects in each other.
-/
def textOfJson (levels : Nat) (document : Json) : Except Failure String := do
  match document with
  | .obj members =>
      let path := (Keyed.find? "path" members).getD .null
      let axisLines ← (← (← Json.need members "dimensions").items).mapM (axisLineOfJson levels)
      let variableLines ←
        (← (← Json.need members "variables").items).mapM (variableLineOfJson levels)
      let heading ← if path.isVoid then pure "" else path.plain levels
      pure (textOf heading axisLines variableLines)
  | _ => raiseFault .missingAttribute

def axisJson (axis : AxisDescription) : Json :=
  let bounds :=
    match axis.bounds with
    | some (least, greatest) => [("min", .float least), ("max", .float greatest)]
    | none => []
  .obj
    ([
      ("name", .str axis.name), ("size", .int axis.size),
      ("has_coordinate", .bool axis.hasCoordinate)
    ] ++ bounds)

def variableJson (stored : VariableDescription) : Json :=
  .obj
    [
      ("name", .str stored.name), ("dimensions", .arr (stored.dimensions.map .str)),
      ("shape", .arr (stored.shape.map fun (size : Nat) => .int size)),
      ("dtype", .str stored.element), ("extractable", .bool stored.isExtractable),
      ("attributes", .obj (stored.attributes.map fun entry => (entry.1, .str entry.2)))
    ]

/-- The description as a JSON value. -/
def toJson (description : Description) : Json :=
  .obj
    [
      ("path", description.path.elim .null .str),
      ("dimensions", .arr (description.axes.map axisJson)),
      ("variables", .arr (description.fields.map variableJson))
    ]

end Description

end GridTable
