import GridTable.Filter.Document
import GridTable.Filter.Entry
import GridTable.Filter.Environment
import GridTable.Job.Basic
import GridTable.Json.Comparison
import GridTable.Json.Reader

/-! Jobs described by JSON documents.
Input, variable and output must be given; all other settings have defaults, and the default of
the row limit comes from the environment.
-/

namespace GridTable

namespace Job

/-- How many lists and objects may stand in each other. Beyond that a step breaks off; how many
they are depends on how deep the calls are nested in which the step is taken.
-/
structure Room where
  /-- In the text of a document that is read. -/
  text : Nat
  /-- In an integer setting that a message shows. -/
  setting : Nat
  /-- In a point that a message shows. -/
  point : Nat

def requiredKeys : List String :=
  ["nc_key", "variable_name", "parquet_key"]

/-- Refuses a document without all required keys. -/
def checkKeys (document : Json) : Except Failure Unit := do
  let known ← requiredKeys.mapM fun key => document.contains (.str key)
  match (requiredKeys.zip known).filter fun entry => !entry.2 with
  | [] => pure ()
  | missing => misconfigured "job" (.keysMissing (missing.map Prod.fst))

/-- What is no integer setting is shown. -/
def refuseInteger (room : Room) (item : String) (value : Json) : Except Failure Int := do
  misconfigured item (.notAnInteger (← value.shown room.setting))

/-- An integer setting; truth values are none. -/
def readInteger (room : Room) (item : String) (value : Json) : Except Failure Int :=
  match value with
  | .bool _ => refuseInteger room item value
  | _ =>
      match value.toInt with
      | .error (.fault .overflow) => raiseFault .overflow
      | .error _ => refuseInteger room item value
      | .ok n => pure n

/-- The listed filter entries; whatever is void lists none. -/
def readEntries (listed : Json) : Except Failure (List Json) :=
  if listed.isVoid then pure []
  else
    match listed with
    | .arr entries => pure entries
    | _ => misconfigured "filters" .notAList

/-- The row limit of a document, or else that of the environment. -/
def readMaxRows (room : Room) (environment : Environment)
    : Json → Except Failure (Option Int)
  | .null => environment.maxRows
  | value => do
      let limit ← readInteger room "max_rows" value
      pure (some limit)

/-- The job that the members of a document describe. -/
def ofMembers (room : Room) (environment : Environment) (members : List (String × Json))
    : Except Failure Job := do
  let setting (key : String) := (Keyed.find? key members).getD .null
  let entries ← readEntries (setting "filters")
  let maxRows ← readMaxRows room environment (setting "max_rows")
  let batchSize ←
    readInteger room "batch_size"
      ((Keyed.find? "batch_size" members).getD (.int defaultBatchSize))
  let filters ← entries.mapM (Filter.ofEntry room.point)
  let compression := (Keyed.find? "compression" members).getD defaultCompression
  build (setting "nc_key") (setting "variable_name") (setting "parquet_key") filters maxRows
    batchSize compression

/-- The job that a document describes. -/
def ofJson (room : Room) (environment : Environment) (document : Json)
    : Except Failure Job := do
  checkKeys document
  match document with
  | .obj members => ofMembers room environment members
  | _ => raiseFault .missingAttribute

/-- The job that the text of a document describes. -/
def ofText (room : Room) (environment : Environment) (text : String) : Except Failure Job :=
  match Json.read room.text text with
  | .error .malformed => misconfigured "job" .malformedDocument
  | .error .tooManyDigits => raiseFault .badValue
  | .error .nestedTooDeep => raiseFault .nestedTooDeep
  | .ok (.obj members) => ofJson room environment (.obj members)
  | .ok _ => misconfigured "job" .notADocument

/-- The document of a job. -/
def toJson (job : Job) : Json :=
  .obj
    [
      ("nc_key", .str job.input), ("variable_name", .str job.field),
      ("parquet_key", .str job.output), ("max_rows", job.maxRows.elim .null .int),
      ("batch_size", .int job.batchSize), ("compression", job.compression),
      ("filters", .arr (job.filters.map Filter.toJson))
    ]

end Job

end GridTable
