import GridTable.Decimal.Layout
import GridTable.Failure.Fault
import GridTable.Filter.Kind
import GridTable.Text.Fields

/-! What can be wrong with a configuration.
Values that a message repeats are held as they are shown.
-/

namespace GridTable

inductive Issue where
  -- names and numbers of a filter
  | dimensionName
  | pointSize (shown : String)
  | negativeTolerance (tolerance : Float)
  | tolerance (tolerance : Float)
  | interval (low high : Float)
  -- entries of a document
  | notAnObject (kind : String)
  | kindMissing
  | kindUnknown (shown : String)
  | kindUnregistered (shown : String) (known : List String)
  | parameters (shown : List String)
  | fault (cause : Fault)
  -- settings of a job
  | keysMissing (names : List String)
  | notAList
  | notAnInteger (shown : String)
  | emptyText
  | notPositive (shown : String)
  | malformedDocument
  | notADocument
  | documentMissing (path : String)
  | documentUnreadable (path : String) (cause : Fault)
  | inputMissing (path : String)
  | valueColumn
  -- compact filters
  | layout (text usage : String)
  | numbers (what text : String)
  | numberCount (count : Option Nat) (what text : String)
  | dimensionNames (usage : String)
  -- reasons given in words
  | other (text : String)

namespace Issue

/-- The text of an issue. Faults are put into words by `wording`. -/
def text (wording : Fault → String) : Issue → String
  | dimensionName => "Dimension name must be a non-empty string"
  | pointSize shown => "Point must contain exactly 2 values: " ++ shown
  | negativeTolerance value => "tolerance must be >= 0, got " ++ Decimal.exactText value
  | tolerance value => "tolerance must be > 0, got " ++ Decimal.exactText value
  | interval low high =>
      "min_value (" ++ Decimal.exactText low ++ ") must be < max_value ("
        ++ Decimal.exactText high ++ ")"
  | notAnObject kind => "Expected an object, got " ++ kind
  | kindMissing => "Missing 'kind' field"
  | kindUnknown shown =>
      "Unknown filter kind: " ++ shown ++ ". Expected one of "
        ++ Text.commaList (Filter.Kind.all.map Filter.Kind.word)
  | kindUnregistered shown known =>
      "Unknown filter kind: " ++ shown ++ ". Available: " ++ Text.commaList known
  | parameters shown =>
      "Invalid parameters " ++ Text.bracketed shown ++ ": " ++ wording .badType
  | fault cause => wording cause
  | keysMissing names => "Missing required keys: " ++ Text.commaList names
  | notAList => "Must be a list"
  | notAnInteger shown => "Expected an integer, got " ++ shown
  | emptyText => "Must be a non-empty string"
  | notPositive shown => "Must be positive, got " ++ shown
  | malformedDocument => "Invalid JSON: " ++ wording .malformedJson
  | notADocument => "Top-level JSON value must be an object"
  | documentMissing path => "Configuration file not found: " ++ path
  | documentUnreadable path cause => "Cannot read " ++ path ++ ": " ++ wording cause
  | inputMissing path => "Input file not found: " ++ path
  | valueColumn => "Value column would replace the dimension column of the same name"
  | layout text usage => "'" ++ text ++ "' must be in format '" ++ usage ++ "'"
  | numbers what text => "Invalid " ++ what ++ ": '" ++ text ++ "'"
  | numberCount count what text =>
      "Expected " ++ (count.elim "at least one value" fun n => toString n ++ " values")
        ++ " for " ++ what ++ ": '" ++ text ++ "'"
  | dimensionNames usage => "Dimensions must be '" ++ usage ++ "'"
  | other text => text

end Issue

end GridTable
