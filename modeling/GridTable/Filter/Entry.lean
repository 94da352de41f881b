import GridTable.Filter.Checked
import GridTable.Json.Coercion
import GridTable.Json.Shown
import GridTable.Keyed
import GridTable.Sorting

/-! Filters out of JSON entries.
An entry names its kind, and holds the parameters of the kind itself or in a member of its own.
The member may also list names and values in pairs.
-/

namespace GridTable.Filter

/-- The kind that an entry names. -/
def kindOfEntry (members : List (String × Json)) : Except Failure Kind :=
  match (Keyed.find? "kind" members).getD .null with
  | .null => misconfigured "filter" .kindMissing
  | .str word =>
      match Kind.ofWord? word with
      | some kind => pure kind
      | none => misconfigured "filter" (.kindUnknown (Text.quoted word))
  | .arr _ | .obj _ => raiseFault .badType
  | other => do misconfigured "filter" (.kindUnknown (← other.shown 0))

/-- A name in the form in which equal names are the same: numbers are equal across their kinds. -/
def plainName : Json → Json
  | .bool value => .int (if value then 1 else 0)
  | .float value =>
      match Decimal.parts value with
      | .finite negative m q =>
          let whole := Decimal.truncated negative m q
          if (Decimal.ofInt? whole).any (· == value) then .int whole else .float value
      | _ => .float value
  | other => other

/-- Whether two names are the same one; what is not a number is one name. -/
def isSameName (first second : Json) : Bool :=
  match plainName first, plainName second with
  | .str a, .str b => a == b
  | .int a, .int b => a == b
  | .float a, .float b => a == b || (a.isNaN && b.isNaN)
  | .null, .null => true
  | _, _ => false

/-- Gives a parameter a value; a name that is there stays as it is. -/
def assignParameter (name value : Json) : List (Json × Json) → List (Json × Json)
  | [] => [(name, value)]
  | (key, old) :: rest =>
      if isSameName key name then (key, value) :: rest
      else (key, old) :: assignParameter name value rest

/-- The name and the value that an entry of a list pairs. -/
def pairOf (entry : Json) : Except Failure (Json × Json) := do
  match ← entry.items with
  | [.arr _, _] | [.obj _, _] => raiseFault .badType
  | [name, value] => pure (name, value)
  | _ => raiseFault .badValue

/-- The parameters that a value holds. -/
def parametersOf (holder : Json) : Except Failure (List (Json × Json)) := do
  match holder with
  | .obj members => pure (members.map fun entry => (.str entry.1, entry.2))
  | other => do
      let pairs ← (← other.items).mapM pairOf
      pure (pairs.foldl (fun known entry => assignParameter entry.1 entry.2 known) [])

/-- The parameters of an entry. -/
def parametersOfEntry (members : List (String × Json)) : Except Failure (List (Json × Json)) :=
  match Keyed.find? "params" members with
  | some holder => parametersOf holder
  | none =>
      pure ((members.filter fun entry => entry.1 != "kind").map fun entry =>
        (.str entry.1, entry.2))

/-- The names of the parameters of a kind: those that are needed and those that are not. -/
def parameterNames : Kind → List String × List String
  | .range => (["dimension_name", "min_value", "max_value"], [])
  | .list => (["dimension_name", "values"], ["tolerance"])
  | .point2d => (["lat_dimension_name", "lon_dimension_name", "points", "tolerance"], [])
  | .point3d =>
      (
        [
          "time_dimension_name", "lat_dimension_name", "lon_dimension_name", "steps", "points",
          "tolerance"
        ],
        []
      )

/-- The parameters by name, if they are just those of the kind. -/
def namedParameters (kind : Kind) (parameters : List (Json × Json))
    : Except Failure (List (String × Json)) := do
  let named ← parameters.mapM fun
    | (.str name, value) => pure (name, value)
    | _ => raiseFault .badType
  let (needed, optional) := parameterNames kind
  let given := Keyed.names named
  if needed.all given.contains && given.all (needed ++ optional).contains then pure named
  else raiseFault .badType

def parameter (name : String) (parameters : List (String × Json)) : Json :=
  (Keyed.find? name parameters).getD .null

/-- A dimension is named by a text that is not empty. -/
def readDimension (kind : Kind) : Json → Except Failure String
  | .str name => if name.isEmpty then senseless kind .dimensionName else pure name
  | _ => senseless kind .dimensionName

def readNumbers (listed : Json) : Except Failure (List Float) := do
  (← listed.items).mapM Json.toFloat

/-- A point is a list of two numbers, or a text of two digits. Any other is shown with at most
`levels` lists and objects in each other.
-/
def readPoint (levels : Nat) (kind : Kind) (value : Json) : Except Failure (Float × Float) := do
  match value, ← value.items with
  | .obj _, [_, _] => raiseFault .missingKey
  | _, [a, b] => pure (← a.toFloat, ← b.toFloat)
  | _, _ => senseless kind (.pointSize (← value.shown levels))

def readPoints (levels : Nat) (kind : Kind) (listed : Json)
    : Except Failure (List (Float × Float)) := do
  (← listed.items).mapM (readPoint levels kind)

/-- The filter of a kind with given parameters, whatever is wrong with them. -/
def ofNamedParameters (levels : Nat) (kind : Kind) (parameters : List (String × Json))
    : Except Failure Filter := do
  let value (name : String) := parameter name parameters
  match kind with
  | .range =>
      let dimension ← readDimension kind (value "dimension_name")
      let low ← (value "min_value").toFloat
      let high ← (value "max_value").toFloat
      checkedRange dimension low high
  | .list =>
      let dimension ← readDimension kind (value "dimension_name")
      let values ← readNumbers (value "values")
      let tolerance ← ((Keyed.find? "tolerance" parameters).getD (.float 0.0)).toFloat
      checkedList dimension values tolerance
  | .point2d =>
      let first ← readDimension kind (value "lat_dimension_name")
      let second ← readDimension kind (value "lon_dimension_name")
      let points ← readPoints levels kind (value "points")
      let tolerance ← (value "tolerance").toFloat
      checkedPoint2d first second points tolerance
  | .point3d =>
      let time ← readDimension kind (value "time_dimension_name")
      let first ← readDimension kind (value "lat_dimension_name")
      let second ← readDimension kind (value "lon_dimension_name")
      let steps ← readNumbers (value "steps")
      let points ← readPoints levels kind (value "points")
      let tolerance ← (value "tolerance").toFloat
      checkedPoint3d time first second steps points tolerance

def isNumber : Json → Bool
  | .bool _ | .int _ | .float _ => true
  | _ => false

/-- Whether a name comes before another one of its sort: texts by code point, numbers by size.
What is not a number has no size.
-/
def isBefore (first second : Json) : Bool :=
  match plainName first, plainName second with
  | .str a, .str b => a < b
  | .int a, .int b => a < b
  | .int a, .float b => Decimal.isBelow a b
  | .float a, .int b => Decimal.isAbove b a
  | .float a, .float b => a < b
  | _, _ => false

/-- Names in ascending order; several names must be all texts or all numbers. -/
def ascendingNames (names : List Json) : Except Failure (List Json) :=
  if names.length ≤ 1 || names.all Json.isText || names.all isNumber
    then pure (Sorting.sort isBefore names)
    else raiseFault .badType

/-- The filter of a kind with given parameters. -/
def ofParameters (levels : Nat) (kind : Kind) (parameters : List (Json × Json))
    : Except Failure Filter :=
  match namedParameters kind parameters >>= ofNamedParameters levels kind with
  | .error (.fault .badType) => do
      let names ← ascendingNames (parameters.map Prod.fst)
      let shown ← names.mapM (Json.shown 0)
      senseless kind (.parameters shown)
  | .error (.fault .badValue) => senseless kind (.fault .badValue)
  | outcome => outcome

/-- The filter that an entry describes. -/
def ofEntry (levels : Nat) : Json → Except Failure Filter
  | .obj members => do
      let kind ← kindOfEntry members
      let parameters ← parametersOfEntry members
      ofParameters levels kind parameters
  | other => misconfigured "filter" (.notAnObject other.kindName)

end GridTable.Filter
