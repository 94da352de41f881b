import GridTable.Dataset.Opening
import GridTable.Job.Basic

/-! Summaries of jobs: what a job would do, found out without reading any cell. -/

namespace GridTable.Job

/-- Refuses a job whose input is no local file. Remote inputs are not looked for. -/
def check (job : Job) (store : FileStore) : Except Failure Unit :=
  if Path.isRemote job.input then pure ()
  else
    match store.isFile (Path.ofText job.input) with
    | .error fault => raiseFault fault
    | .ok true => pure ()
    | .ok false => misconfigured "nc_key" (.inputMissing job.input)

/-- What the output is to be called: the name given instead, unless it is empty, or that of the
job.
-/
def outputName (job : Job) : Option String → String
  | none => job.output
  | some name => if name.isEmpty then job.output else name

structure Summary where
  input : String
  field : String
  output : String
  axes : List Axis
  filterKinds : List String
  estimatedRows : Nat

/-- The summary of a job. -/
def summarize (job : Job) (store : FileStore) (output : Option String) : Traced Summary := do
  job.check store
  let dataset ← store.openDataset (Path.ofText job.input)
  let axes ← dataset.axesOf job.field
  let estimatedRows ← dataset.source.estimateRows job.field job.filters
  pure
    {
      input := job.input, field := job.field,
      output := Path.withTableEnding (job.outputName output), axes,
      filterKinds := job.filterKinds, estimatedRows
    }

namespace Summary

/-- The kinds of the filters on a line each, counted from `first`. -/
def kindLines (first : Nat) : List String → List String
  | [] => []
  | kind :: rest => ("    " ++ toString first ++ ". " ++ kind) :: kindLines (first + 1) rest

/-- The text of a summary out of its parts; a dimension is a name with a size. -/
def textOf (input field output : String) (axes : List (String × String))
    (filterKinds : List String) (estimatedRows : String)
    : String :=
  let axes := axes.map fun (name, size) => name ++ "(" ++ size ++ ")"
  String.intercalate "\n"
    ([
      "Configuration Summary:", "  Input: " ++ input, "  Variable: " ++ field,
      "  Output: " ++ output, "  Dimensions: " ++ Text.commaList axes,
      "  Filters: " ++ toString filterKinds.length
    ] ++ kindLines 1 filterKinds ++ ["  Estimated rows: " ++ estimatedRows])

/-- The summary as a document. -/
def toJson (summary : Summary) : Json :=
  let axes := summary.axes.map fun axis =>
    Json.obj [("name", .str axis.name), ("size", .int axis.size)]
  .obj
    [
      ("input", .str summary.input), ("variable", .str summary.field),
      ("output", .str summary.output), ("dimensions", .arr axes),
      ("filters", .arr (summary.filterKinds.map .str)),
      ("estimated_rows", .int summary.estimatedRows)
    ]

/-- The text of a dimension that a document describes. -/
def axisOfJson (levels : Nat) (value : Json) : Except Failure (String × String) := do
  let members ← value.members
  let name ← Json.need members "name"
  let size ← Json.need members "size"
  pure (← name.plain levels, ← size.plain levels)

/-- The text of the summary that a document describes. Values are shown as they are, with at most
`levels` lists and objects in each other.
-/
def textOfJson (levels : Nat) (document : Json) : Except Failure String := do
  let members ← document.members
  let input ← Json.need members "input"
  let field ← Json.need members "variable"
  let output ← Json.need members "output"
  let axes ← (← (← Json.need members "dimensions").items).mapM (axisOfJson levels)
  let kinds ← (← (← Json.need members "filters").items).mapM (Json.plain levels)
  let rows ← Json.need members "estimated_rows"
  pure
    (textOf (← input.plain levels) (← field.plain levels) (← output.plain levels) axes kinds
      (← rows.plain levels))

/-- The summary for the eye. -/
def text (summary : Summary) : String :=
  textOf summary.input summary.field summary.output
    (summary.axes.map fun axis => (axis.name, toString axis.size)) summary.filterKinds
    (toString summary.estimatedRows)

end Summary

end GridTable.Job
