import GridTable.Failure.Issue
import GridTable.Text.Order

/-! Failures.
An error is one that the rules of the program describe, and has a headline and perhaps details;
a failure is an error or a fault. Numbers that a message repeats are held as they are shown.
-/

namespace GridTable

/-- Why a step failed: own words, and after them those of a fault. -/
structure Reason where
  text : String
  cause : Option Fault
  deriving Repr, DecidableEq

namespace Reason

def render (wording : Fault → String) (reason : Reason) : String :=
  reason.text ++ reason.cause.elim "" wording

/-- A reason that is a fault and nothing else. -/
def ofFault (fault : Fault) : Reason :=
  ⟨"", some fault⟩

end Reason

inductive Error where
  | general (message : String) (details : Option String)
  | dimensionNotFound (dimension : String) (context : Option String)
  | notACoordinate (name rank : String) (reason : Option String)
  | unknownDimension (dimension : String) (known : List String)
  | unsupportedRank (field rank lowest highest : String)
  | variablesNotFound (missing available : List String)
  | dataSource (operation : String) (reason : Reason)
  | outputWrite (path : String) (reason : Reason)
  | outputExists (path : String)
  | configuration (item : String) (issue : Issue)
  | rowLimitExceeded (estimated limit : String)

namespace Error

/-- The first line of the message. -/
def headline : Error → String
  | general message _ => message
  | dimensionNotFound dimension _ => "Dimension not found: '" ++ dimension ++ "'"
  | notACoordinate name _ _ => "Variable '" ++ name ++ "' is not a coordinate"
  | unknownDimension dimension _ => "Unknown dimension: '" ++ dimension ++ "'"
  | unsupportedRank field rank _ _ =>
      "Unsupported number of dimensions for '" ++ field ++ "': " ++ rank
  | variablesNotFound missing _ => "Variables not found: " ++ Text.commaList missing
  | dataSource operation _ => "Data source read failed during " ++ operation
  | outputWrite path _ => "Failed to write output: " ++ path
  | outputExists path => "Failed to write output: " ++ path
  | configuration item _ => "Invalid configuration for " ++ item
  | rowLimitExceeded estimated limit =>
      "Extraction would produce " ++ estimated ++ " rows (limit " ++ limit ++ ")"

/-- What stands below the headline. -/
def details (wording : Fault → String) : Error → Option String
  | general _ details => details
  | dimensionNotFound _ context => context
  | notACoordinate _ rank reason =>
      match reason with
      | some text => if text.isEmpty then some (expectedRank rank) else some text
      | none => some (expectedRank rank)
  | unknownDimension _ known =>
      if known.isEmpty then none else some ("Variable dimensions: " ++ Text.commaList known)
  | unsupportedRank _ _ lowest highest =>
      some ("Supported ranks: " ++ lowest ++ " to " ++ highest)
  | variablesNotFound _ available =>
      if available.isEmpty then none
      else some ("Available variables: " ++ Text.commaList (Text.ascending available))
  | dataSource _ reason => some (reason.render wording)
  | outputWrite _ reason => some (reason.render wording)
  | outputExists _ =>
      some "Output file already exists. Use --force (overwrite=True) to replace it"
  | configuration _ issue => some (issue.text wording)
  | rowLimitExceeded _ _ => some "Tighten the filters or raise max_rows"
where
  expectedRank (rank : String) : String :=
    "Expected 1D, got " ++ rank ++ "D"

/-- Headline and details; details without a text are left out. -/
def message (wording : Fault → String) (error : Error) : String :=
  match error.details wording with
  | none => error.headline
  | some details =>
      if details.isEmpty then error.headline else error.headline ++ "\nDetails: " ++ details

end Error

inductive Failure where
  | error (reason : Error)
  | fault (cause : Fault)

namespace Failure

/-- A failure in words. -/
def message (wording : Fault → String) : Failure → String
  | error reason => reason.message wording
  | fault cause => wording cause

end Failure

/-- An unusable setting of a configuration. -/
def misconfigured {α : Type} (item : String) (issue : Issue) : Except Failure α :=
  .error (.error (.configuration item issue))

def raiseFault {α : Type} (fault : Fault) : Except Failure α :=
  .error (.fault fault)

end GridTable
