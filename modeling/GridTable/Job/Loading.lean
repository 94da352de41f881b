import GridTable.FileStore
import GridTable.Job.Document

/-! Loading jobs from files. -/

namespace GridTable.Job

/-- What is wrong with a document that cannot be read. Texts of no encoding and names of no
file are faults of their own.
-/
def unreadable {α : Type} (path : Path) : Fault → Except Failure α
  | .fileMissing => misconfigured "job" (.documentMissing path.text)
  | .undecodableText => raiseFault .undecodableText
  | .badValue => raiseFault .badValue
  | fault => misconfigured "job" (.documentUnreadable path.text fault)

/-- The job that a file describes. -/
def load (room : Room) (store : FileStore) (environment : Environment) (path : Path)
    : Traced Job :=
  match store.readText path with
  | .error fault => Traced.ofExcept (unreadable path fault)
  | .ok text => do
      Traced.info "io.job_config" ("Loaded configuration from " ++ path.text)
      ofText room environment text

end GridTable.Job
