import GridTable.Json.Comparison
import GridTable.Json.Shown
import GridTable.Source

/-! Errors made of a name and arguments.
Errors have names, and some are special cases of others. An error that is made by its name keeps
its arguments as they were given; its message shows them.
-/

namespace GridTable

/-- An error with the attributes that were given for it. -/
structure MadeError where
  error : Error
  given : List (String × Json)

namespace Error

/-- The name of the most general error. -/
def baseName : String :=
  "NC2ParquetError"

/-- The name of an error, after which come those of more general ones. -/
def names : Error → List String
  | general .. => [baseName]
  | dimensionNotFound .. => ["DimensionNotFoundError", baseName]
  | notACoordinate .. => ["NotACoordinateError", baseName]
  | unknownDimension .. => ["UnknownDimensionError", baseName]
  | unsupportedRank .. => ["UnsupportedRankError", baseName]
  | variablesNotFound .. => ["VariableNotFoundError", baseName]
  | dataSource .. => ["DataSourceError", baseName]
  | outputWrite .. => ["OutputWriteError", baseName]
  | outputExists .. => ["OutputExistsError", "OutputWriteError", baseName]
  | configuration .. => ["ConfigurationError", baseName]
  | rowLimitExceeded .. => ["RowLimitExceededError", baseName]

/-- An optional reason in words; a void one is none. -/
def reasonOf (levels : Nat) (value : Json) : Except Failure (Option String) :=
  if value.isVoid then pure none else some <$> value.plain levels

/-- The names that a value lists; anything else than texts is refused. -/
def listedNames (value : Json) : Except Failure (List String) := do
  (← value.items).mapM fun
    | .str text => pure text
    | _ => raiseFault .badType

/-- The names that a value lists, and the value itself if it lists any. -/
def optionalNames (value : Json) : Except Failure (List String × Json) :=
  if value.isVoid then pure ([], .null)
  else do
    let names ← listedNames value
    pure (names, if names.isEmpty then .null else .arr (names.map .str))

/-- What a list of ranks begins and ends with. -/
def rankBounds (levels : Nat) : Json → Except Failure (String × String)
  | .obj _ => raiseFault .missingKey
  | value => do
      let ranks ← value.items
      match ranks.head?, ranks.getLast? with
      | some lowest, some highest => pure (← lowest.plain levels, ← highest.plain levels)
      | _, _ => raiseFault .badIndex

/-- The least and the greatest number of arguments of each name. -/
def argumentCounts : List (String × Nat × Nat) :=
  [
    (baseName, 1, 2), ("DimensionNotFoundError", 1, 2), ("NotACoordinateError", 2, 3),
    ("UnknownDimensionError", 1, 2), ("UnsupportedRankError", 2, 3),
    ("VariableNotFoundError", 1, 2), ("DataSourceError", 2, 2), ("OutputWriteError", 2, 2),
    ("OutputExistsError", 1, 1), ("ConfigurationError", 2, 2), ("RowLimitExceededError", 2, 2)
  ]

/-- The error of a name with three arguments, those left out being null. At most `levels` lists and
objects may stand in each other in an argument that is shown.
-/
def ofThree (levels : Nat) (name : String) (first second third : Json)
    : Except Failure MadeError := do
  match name with
  | "DimensionNotFoundError" =>
      pure
        ⟨
          .dimensionNotFound (← first.plain levels) (← reasonOf levels second),
          [("dimension", first), ("details", second)]
        ⟩
  | "NotACoordinateError" =>
      let details := if third.isVoid then [] else [("details", third)]
      let reason ← reasonOf levels third
      let rank ← if reason.isNone then second.plain levels else pure ""
      pure
        ⟨
          .notACoordinate (← first.plain levels) rank reason,
          [("name", first), ("ndim", second)] ++ details
        ⟩
  | "UnknownDimensionError" =>
      let (known, listed) ← optionalNames second
      pure
        ⟨
          .unknownDimension (← first.plain levels) known,
          [("dimension", first), ("known_dimensions", listed)]
        ⟩
  | "UnsupportedRankError" =>
      let (lowest, highest) ← rankBounds levels third
      pure
        ⟨
          .unsupportedRank (← first.plain levels) (← second.plain levels) lowest highest,
          [("field", first), ("rank", second)]
        ⟩
  | "VariableNotFoundError" =>
      let missing ← listedNames first
      let (available, listed) ← optionalNames second
      pure
        ⟨
          .variablesNotFound missing available,
          [("missing_variables", .arr (missing.map .str)), ("available_variables", listed)]
        ⟩
  | "DataSourceError" =>
      pure
        ⟨
          .dataSource (← first.plain levels) ⟨(← reasonOf levels second).getD "", none⟩,
          [("operation", first), ("details", second)]
        ⟩
  | "OutputWriteError" =>
      pure
        ⟨
          .outputWrite (← first.plain levels) ⟨(← reasonOf levels second).getD "", none⟩,
          [("path", first), ("details", second)]
        ⟩
  | "OutputExistsError" => pure ⟨.outputExists (← first.plain levels), [("path", first)]⟩
  | "ConfigurationError" =>
      pure
        ⟨
          .configuration (← first.plain levels) (.other ((← reasonOf levels second).getD "")),
          [("item", first), ("details", second)]
        ⟩
  | "RowLimitExceededError" =>
      pure
        ⟨
          .rowLimitExceeded (← first.plain levels) (← second.plain levels),
          [("estimated_rows", first), ("max_rows", second)]
        ⟩
  | _ =>
      pure
        ⟨
          .general (← first.plain levels) (← reasonOf levels second),
          [("message", first), ("details", second)]
        ⟩

/-- The ranks that can be read, as they stand for a last argument that is left out. -/
def supportedRanks : Json :=
  .arr [.int lowestRank, .int highestRank]

/-- The error of a name with some arguments. -/
def ofArguments (levels : Nat) (name : String) (arguments : List Json)
    : Except Failure MadeError :=
  match Keyed.find? name argumentCounts with
  | none => raiseFault .missingAttribute
  | some (least, greatest) =>
      if arguments.length < least || greatest < arguments.length then raiseFault .badType
      else
        let otherwise := if name = "UnsupportedRankError" then supportedRanks else .null
        ofThree levels name (arguments.getD 0 .null) (arguments.getD 1 .null)
          (arguments.getD 2 otherwise)

end Error

namespace MadeError

/-- All attributes by name: what was not given is as the error tells. -/
def attributes (wording : Fault → String) (made : MadeError) : List (String × Json) :=
  let told :=
    [
      ("message", Json.str made.error.headline),
      ("details", (made.error.details wording).elim .null .str)
    ]
  let all := made.given.foldl (fun known entry => Keyed.assign entry.1 entry.2 known) told
  (Text.ascending (Keyed.names all)).filterMap fun name =>
    (Keyed.find? name all).map fun value => (name, value)

end MadeError

/-- Refuses requested names of which some are not available. -/
def checkGivenNames (requested available : Json) : Except Failure Unit := do
  let missing ← (← requested.items).filterM fun name => do
    let found ← available.contains name
    pure !found
  if !missing.isEmpty then
    let missing ← Error.listedNames (.arr missing)
    let (available, _) ← Error.optionalNames available
    .error (.error (.variablesNotFound missing available))

/-- Refuses a rank outside of an interval, all given as JSON values. -/
def checkGivenRank (levels : Nat) (field rank lowest highest : Json)
    : Except Failure Unit := do
  let isInside ← if ← lowest.isAtMost rank then rank.isAtMost highest else pure false
  if !isInside then
    .error
      (.error
        (.unsupportedRank (← field.plain levels) (← rank.plain levels) (← lowest.plain levels)
          (← highest.plain levels)))

end GridTable
