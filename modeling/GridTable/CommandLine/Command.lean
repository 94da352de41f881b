import GridTable.CommandLine.Reading
import GridTable.Decimal.Numeral
import GridTable.Filter.Kind
import GridTable.Logging.Record
import GridTable.Path

/-! The commands and how they are asked for.
A job is taken from a file or spelled out, checked, or skipped in favour of a look at a dataset.
-/

namespace GridTable.CommandLine

/-- How a table is written. -/
structure WriteOptions where
  /-- The limit that is asked for, if any; a void one is no limit that could be kept. -/
  maxRows : Option (Option Int)
  replace : Bool
  /-- Whether the job is only summarized. -/
  isDryRun : Bool
  deriving Repr, DecidableEq

inductive Command where
  | convert (config : String) (output : Option String) (options : WriteOptions)
  | extract (input field output : String) (filters : List (Filter.Kind × Option String))
    (options : WriteOptions)
  | validate (config : String) (isDetailed : Bool)
  | info (input : String) (field : Option (Option String)) (asJson : Bool)
  deriving Repr, DecidableEq

/-- A command, and from which level on its log records are shown; a void level is none. -/
structure Invocation where
  level : Option Int
  command : Command
  deriving Repr, DecidableEq

-----------------------------------------------------------------------------------------
-- Switches
-----------------------------------------------------------------------------------------

def flag (name : String) : Switch :=
  ⟨name, [], .flag, false⟩

def valued (name : String) : Switch :=
  ⟨name, [], .value fun _ => true, false⟩

def required (name short : String) : Switch :=
  ⟨name, [short], .value fun _ => true, true⟩

def helpSwitch : Switch :=
  ⟨"--help", ["-h"], .help, false⟩

/-- The row limit, an integer. -/
def maxRowsSwitch : Switch :=
  ⟨"--max-rows", [], .value fun text => (Decimal.readInt? text.toList).isSome, false⟩

def writeSwitches : List Switch :=
  [maxRowsSwitch, flag "--force", flag "--dry-run"]

/-- The switch that gives a filter of a kind. -/
def filterSwitch : Filter.Kind → String
  | .range => "--range"
  | .list => "--list"
  | .point2d => "--point2d"
  | .point3d => "--point3d"

/-- The levels that can be asked for. -/
def shownLevels : List String :=
  ["DEBUG", "INFO", "WARNING", "ERROR"]

/-- What stands before a command. -/
def generalGrammar : Grammar where
  switches :=
    [
      helpSwitch, ⟨"--version", [], .version, false⟩,
      ⟨"--log-level", [], .value shownLevels.contains, false⟩
    ]
  isNested := true

/-- A command with some switches besides the one for help. -/
def commandGrammar (switches : List Switch) : Grammar where
  switches := helpSwitch :: switches
  isNested := false

/-- What stands behind the command of a job that is spelled out. -/
def extractGrammar : Grammar :=
  let filters := Filter.Kind.all.map fun kind => valued (filterSwitch kind)
  commandGrammar
    ([required "--variable" "-v", required "--output" "-o"] ++ filters ++ writeSwitches)

-----------------------------------------------------------------------------------------
-- Commands
-----------------------------------------------------------------------------------------

namespace Reading

def writeOptions (found : Reading) : WriteOptions where
  maxRows := (found.value? "--max-rows").map fun value =>
    value.bind fun text => Decimal.readInt? text.toList
  replace := found.hasFlag "--force"
  isDryRun := found.hasFlag "--dry-run"

/-- The compact filters of all kinds, kind by kind. -/
def filters (found : Reading) : List (Filter.Kind × Option String) :=
  Filter.Kind.all.flatMap fun kind =>
    (found.values (filterSwitch kind)).map fun value => (kind, value)

/-- From which level on log records are shown. -/
def level (found : Reading) : Option Int :=
  let named := (found.value? "--log-level").getD (some "WARNING")
  named.map fun name => (LogRecord.levelNamed? name).getD LogRecord.warningLevel

/-- The extraction that is spelled out. -/
def extraction (found : Reading) (input : String) : Except Stop Command :=
  match found.value? "--variable", found.value? "--output" with
  | some field, some output =>
      .ok (.extract input (field.getD "") (output.getD "") found.filters found.writeOptions)
  | _, _ => .error .misuse

end Reading

namespace Command

def readConvert (arguments : List String) : Except Stop Command := do
  let grammar := commandGrammar (valued "--output" :: writeSwitches)
  let (config, found) ← grammar.readAll arguments
  pure (.convert config (found.value? "--output").join found.writeOptions)

def readExtract (arguments : List String) : Except Stop Command := do
  let (input, found) ← extractGrammar.readAll arguments
  found.extraction input

def readValidate (arguments : List String) : Except Stop Command := do
  let (config, found) ← (commandGrammar [flag "--detailed"]).readAll arguments
  pure (.validate config (found.hasFlag "--detailed"))

def readInfo (arguments : List String) : Except Stop Command := do
  let (input, found) ←
    (commandGrammar [valued "--variable", flag "--json"]).readAll arguments
  pure (.info input (found.value? "--variable") (found.hasFlag "--json"))

/-- The command of a name with its arguments. -/
def ofArguments (name : String) (arguments : List String) : Except Stop Command :=
  match name with
  | "convert" => readConvert arguments
  | "extract" => readExtract arguments
  | "validate" => readValidate arguments
  | "info" => readInfo arguments
  | _ => .error .misuse

end Command

/-- The paths that a command names, as texts. -/
def Command.paths : Command → List String
  | .convert config output _ => config :: (output.map Path.withTableEnding).toList
  | .extract input _ output _ _ => [input, Path.withTableEnding output]
  | .validate config _ => [config]
  | .info input _ _ => [input]

/-- What a command line asks for. -/
def Invocation.ofArguments (arguments : List String) : Except Stop Invocation := do
  let found ← generalGrammar.read arguments
  match found.operand with
  | none => throw .misuse
  | some name =>
      let command ← Command.ofArguments name found.rest
      if found.hasExcess then throw .misuse
      else pure ⟨found.level, command⟩

end GridTable.CommandLine
