import GridTable.CommandLine.Command
import GridTable.Description
import GridTable.Job.Loading
import GridTable.Job.Processing
import GridTable.Json.Writer
import GridTable.Logging.Logbook

/-! Running commands.
A run answers the lines that it shows, beside the store afterwards. Only the processing of a job
changes the store.
-/

namespace GridTable.CommandLine

/-- What a run meets besides files. -/
structure Host where
  room : Job.Room
  /-- How many lists and objects may stand in each other in an attribute that is shown. -/
  levels : Nat
  /-- Why the console does not take a line, if so: it may have no code for a character. -/
  unshown : String → Option Fault

/-- Shows lines one after the other. -/
def Host.show (host : Host) (lines : List String) : Except Failure (List String) :=
  lines.mapM fun line => (host.unshown line).elim (pure line) raiseFault

/-- The filters that compact filters of several kinds describe. -/
def readFilters (texts : List (Filter.Kind × Option String)) : Except Failure (List Filter) :=
  texts.mapM fun (kind, text) => text.elim (raiseFault .missingAttribute) (Filter.ofText kind)

/-- The job of a file with the filters that the environment adds. -/
def loadJob (room : Job.Room) (store : FileStore) (environment : Environment)
    (config : String)
    : Traced Job := do
  let job ← Job.load room store environment (Path.ofText config)
  let filters ← Filter.merge job.filters environment
  pure (job.withFilters filters)

/-- The job that a command converts. -/
def convertedJob (room : Job.Room) (store : FileStore) (environment : Environment)
    (config : String) (options : WriteOptions)
    : Traced Job := do
  let job ← loadJob room store environment config
  match options.maxRows with
  | none => pure job
  | some none => raiseFault .badType
  | some (some limit) => job.withMaxRows limit

/-- The filters of the job that is spelled out, with those that the environment adds. -/
def spelledFilters (environment : Environment) (texts : List (Filter.Kind × Option String))
    : Traced (List Filter) := do
  let explicit ← readFilters texts
  Filter.merge explicit environment

/-- The job that is spelled out. The row limit of the environment is read if no other is given. -/
def spelledJob (environment : Environment) (input field output : String)
    (texts : List (Filter.Kind × Option String)) (options : WriteOptions)
    : Traced Job := do
  let filters ← spelledFilters environment texts
  let maxRows ←
    match options.maxRows with
    | some limit => pure limit
    | none => environment.maxRows
  let job ←
    Job.build (.str input) (.str field) (.str output) filters maxRows defaultBatchSize
      Job.defaultCompression
  if options.maxRows = some none then raiseFault .badType else pure job

/-- Processes the job that some steps lead to, or summarizes it on a dry run. -/
def runJob (store : FileStore) (found : Traced Job) (output : Option String)
    (options : WriteOptions)
    : FileStore × Traced (List String) :=
  match found.outcome with
  | .error failure => (store, ⟨found.events, .error failure⟩)
  | .ok job =>
      if options.isDryRun then
        (
          store,
          do
            let _ ← found
            let summary ← job.summarize store output
            pure [summary.text]
        )
      else
        let (written, processed) := job.process store output options.replace
        (
          written,
          do
            let _ ← found
            let target ← processed
            pure [target]
        )

/-- Checks the job of a file, and summarizes it if details are asked for. -/
def runValidate (room : Job.Room) (store : FileStore) (environment : Environment)
    (config : String) (isDetailed : Bool)
    : Traced (List String) := do
  let job ← loadJob room store environment config
  job.check store
  let details ←
    if isDetailed then do
      let summary ← job.summarize store none
      pure [summary.text]
    else pure []
  pure (details ++ ["Configuration validation passed successfully"])

/-- Describes a dataset. At most `levels` lists and objects may stand in each other in an attribute.
-/
def describe (levels : Nat) (store : FileStore) (input : String)
    (field : Option (Option String))
    : Traced Description := do
  let path := Path.ofText input
  let dataset ← store.openDataset path
  if field = some none then raiseFault .badType
  else Description.ofDataset levels dataset (some path.text) field.join

def runInfo (levels : Nat) (store : FileStore) (input : String)
    (field : Option (Option String)) (asJson : Bool)
    : Traced (List String) := do
  let description ← describe levels store input field
  pure [if asJson then description.toJson.wide else description.text]

/-- Does what a command asks for. Answers the lines to be shown. -/
def Command.perform (host : Host) (store : FileStore) (environment : Environment)
    : Command → FileStore × Traced (List String)
  | .convert config output options =>
      runJob store (convertedJob host.room store environment config options) output options
  | .extract input field output filters options =>
      runJob store (spelledJob environment input field output filters options) none options
  | .validate config isDetailed =>
      (store, runValidate host.room store environment config isDetailed)
  | .info input field asJson => (store, runInfo host.levels store input field asJson)

/-- Runs a command. Nothing is shown before everything else is done. -/
def Command.run (host : Host) (store : FileStore) (environment : Environment)
    (command : Command)
    : FileStore × Traced (List String) :=
  let (after, performed) := command.perform host store environment
  (
    after,
    do
      let lines ← performed
      host.show lines
  )

/-- What a command line comes to. -/
inductive Reply where
  | stopped (reason : Stop)
  | ran (level : Int) (run : Traced (List String))

/-- Runs a command line. -/
def run (host : Host) (store : FileStore) (environment : Environment)
    (arguments : List String)
    : FileStore × Reply :=
  match Invocation.ofArguments arguments with
  | .error reason => (store, .stopped reason)
  | .ok invocation =>
      match invocation.level with
      | none => (store, .ran 0 (Traced.ofExcept (raiseFault .badType)))
      | some level =>
          let (store, run) := invocation.command.run host store environment
          (store, .ran level run)

namespace Reply

def versionText : String :=
  "nc2parquet 1.0.0\n"

def exitCode : Reply → Nat
  | stopped .misuse => 2
  | stopped _ => 0
  | ran _ run => if run.outcome.isOk then 0 else 1

/-- The lines with an end each. -/
def linesText (lines : List String) : String :=
  String.join (lines.map (· ++ "\n"))

/-- The output of a run: log lines, and then the lines to be shown. -/
def runOutput (level : Int) (moment : Moment) (run : Traced (List String)) : String :=
  Logbook.consoleText level moment run.events
    ++ run.outcome.toOption.elim "" linesText

/-- The complaint about a failed run. -/
def complaint (wording : Fault → String) (run : Traced (List String)) : String :=
  match run.outcome with
  | .ok _ => ""
  | .error failure => "error: " ++ failure.message wording ++ "\n"

end Reply

end GridTable.CommandLine
