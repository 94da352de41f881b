import GridTable.CommandLine.Running
import GridTable.Dataset.Document
import GridTable.Json.Reader
import Std.Time.Format

/-! The command line as a program.
A file is a dataset if its text is the document of one, and a table is written as the document
of its columns. The files that a command may look at are read beforehand, and the table that it
saves is written afterwards.
-/

namespace GridTable.CommandLine

/-- How many lists and objects may stand in each other: about as many as a stack of a thousand calls
has room for.
-/
def levelLimit : Nat :=
  985

/-- The host of the program. Its console takes all characters. -/
def consoleHost : Host where
  room := ⟨levelLimit, levelLimit, levelLimit⟩
  levels := levelLimit
  unshown := fun _ => none

/-- What a file of a given text holds. -/
def contentOf (text : String) : Content :=
  match Json.read levelLimit text with
  | .ok document => (Dataset.ofJson? document).elim (.text text) .dataset
  | .error _ => .text text

/-- The document of a table: the values of each column under its name. -/
def documentOf (table : Table) : Json :=
  .obj (table.columns.map fun column => (column.1, .arr (column.2.map .float)))

/-- The error code of a folder where a file is expected. -/
def folderCode : UInt32 :=
  21

/-- Takes over what is found at a path. -/
def discoverAt (store : FileStore) (path : Path) : IO FileStore := do
  try
    let text ← IO.FS.readFile path.text
    pure (store.withFile path (contentOf text))
  catch
    | .inappropriateType _ code _ =>
        pure (if code = folderCode then (store.makeFolders path).1 else store)
    | _ => pure store

/-- Takes over what is found at a path and on the way to it. -/
def discoverAlong (store : FileStore) (path : Path) : IO FileStore :=
  (List.range (path.components.length + 1)).foldlM
    (fun store depth =>
      discoverAt store { path with components := path.components.take depth })
    store

/-- Takes over what a text may name, with or without a tilde read as a home folder. -/
def discover (store : FileStore) (text : String) : IO FileStore :=
  [text, Path.expandUser store.homes text].foldlM
    (fun store text => discoverAlong store (Path.ofText text)) store

/-- The paths that the job of a command names, as far as the job can be loaded. -/
def jobPaths (store : FileStore) (environment : Environment) : Command → List String
  | .convert config _ _ | .validate config _ =>
      match (Job.load consoleHost.room store environment (Path.ofText config)).outcome with
      | .ok job => [job.input, Path.withTableEnding job.output]
      | .error _ => []
  | _ => []

/-- The store without files as the program finds it. -/
def currentStore : IO FileStore := do
  let here := Path.ofText (← IO.currentDir).toString
  let home ← IO.getEnv "HOME"
  pure
    { FileStore.empty with
      here := here.components
      homes := fun user => if user.isEmpty then home else none }

/-- The files that a command line may look at. -/
def storeFor (environment : Environment) (arguments : List String) : IO FileStore := do
  let bare ← currentStore
  match Invocation.ofArguments arguments with
  | .error _ => pure bare
  | .ok invocation =>
      let named ← invocation.command.paths.foldlM discover bare
      (jobPaths named environment invocation.command).foldlM discover named

/-- Writes the tables of a store. -/
def writeTables (store : FileStore) : IO Unit :=
  store.files.forM fun
    | (place, .table table) => do
        let path : Path := ⟨"/", place⟩
        IO.FS.createDirAll path.parent.text
        IO.FS.writeFile path.text (documentOf table).wide
    | _ => pure ()

/-- The variables of the environment that count. -/
def currentEnvironment : IO Environment :=
  Environment.knownNames.filterMapM fun name => do
    let value ← IO.getEnv name
    pure (value.map fun value => (name, value))

def currentMoment : IO Moment := do
  let now ← Std.Time.DateTime.now
  let plain := now.toPlainDateTime
  pure
    ⟨
      plain.date.year.toInt.toNat, plain.date.month.val.toNat, plain.date.day.val.toNat,
      plain.time.hour.val.toNat, plain.time.minute.val.toNat, plain.time.second.val.toNat,
      plain.time.nanosecond.val.toNat / 1000000, now.timezone.abbreviation,
      now.timezone.offset.second.val
    ⟩

def usage : String :=
  "usage: nc2parquet [--help] [--version] [--log-level LEVEL] COMMAND ...\n"
    ++ "commands:\n"
    ++ "  convert CONFIG [--output PATH] [--max-rows N] [--force] [--dry-run]\n"
    ++ "  extract INPUT --variable NAME --output PATH [--range FILTER] [--list FILTER]\n"
    ++ "          [--point2d FILTER] [--point3d FILTER] [--max-rows N] [--force] [--dry-run]\n"
    ++ "  validate CONFIG [--detailed]\n"
    ++ "  info INPUT [--variable NAME] [--json]\n"

end GridTable.CommandLine

open GridTable GridTable.CommandLine in
def main (arguments : List String) : IO UInt32 := do
  let environment ← currentEnvironment
  let store ← storeFor environment arguments
  let (store, reply) := run consoleHost store environment arguments
  match reply with
  | .stopped .misuse => IO.eprint usage
  | .stopped .help => IO.print usage
  | .stopped .version => IO.print Reply.versionText
  | .ran level result => do
      writeTables store
      IO.print (Reply.runOutput level (← currentMoment) result)
      IO.eprint (Reply.complaint Fault.description result)
  pure reply.exitCode.toUInt32
