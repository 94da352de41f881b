import GridTable.Job.Summary
import GridTable.Table.Saving

/-! Processing jobs: the table of a job is extracted and saved.
Nothing is written before the whole table is known.
-/

namespace GridTable.Job

/-- Each dimension with its size, as a list of pairs. -/
def shownAxes (axes : List Axis) : String :=
  Text.bracketed
    (axes.map fun axis => "(" ++ Text.quoted axis.name ++ ", " ++ toString axis.size ++ ")")

/-- The table of a job and the path it goes to. -/
def prepare (job : Job) (store : FileStore) (output : Option String) (replace : Bool)
    : Traced (String × Table) := do
  let target ← store.ensureWritable (job.outputName output) replace
  Traced.info "main"
    ("Job: " ++ job.input ++ "[" ++ job.field ++ "] -> " ++ target ++ " ("
      ++ toString job.filters.length ++ " filters)")
  let dataset ← store.openDataset (Path.ofText job.input)
  Traced.info "main" ("Dataset dimensions: " ++ shownAxes dataset.axes)
  let table ← dataset.source.extract job.field job.filters job.batchSize
    (job.maxRows.map RowLimit.ofInt)
  pure (target, table)

/-- Processes a job. Answers the path of the table, beside the store afterwards. -/
def process (job : Job) (store : FileStore) (output : Option String) (replace : Bool)
    : FileStore × Traced String :=
  let prepared := job.prepare store output replace
  match prepared.outcome with
  | .error failure => (store, ⟨prepared.events, .error failure⟩)
  | .ok (target, table) =>
      let (after, saved) := store.saveTable table job.compression target replace
      (
        after,
        do
          let _ ← prepared
          let written ← saved
          Traced.info "main" ("Wrote " ++ toString table.rowCount ++ " rows to " ++ written)
          pure written
      )

end GridTable.Job
