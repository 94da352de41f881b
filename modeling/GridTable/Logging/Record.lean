import GridTable.Failure.Fault

/-! Log records and the severities that have a name. -/

namespace GridTable

/-- One message to a logger. -/
structure LogRecord where
  level : Int
  logger : String
  message : String
  /-- The message before its arguments were put in. -/
  pattern : String
  /-- The arguments, each written out. -/
  arguments : List String
  deriving Repr, DecidableEq

namespace LogRecord

/-- A message that has no arguments. -/
def plain (level : Int) (logger message : String) : LogRecord :=
  ⟨level, logger, message, message, []⟩

/-- The name of the logger above all others. -/
def rootLogger : String :=
  "nc2parquet"

/-- The name of the logger of a topic. -/
def loggerOf (topic : String) : String :=
  rootLogger ++ "." ++ topic

def debugLevel : Int :=
  10

def infoLevel : Int :=
  20

def warningLevel : Int :=
  30

/-- The severities that have a name, the usual name of each first. -/
def levelNames : List (String × Int) :=
  [
    ("CRITICAL", 50), ("FATAL", 50), ("ERROR", 40), ("WARNING", 30), ("WARN", 30), ("INFO", 20),
    ("DEBUG", 10), ("NOTSET", 0)
  ]

/-- The name of a severity; a number without one is shown as it is. -/
def levelName (level : Int) : String :=
  match levelNames.find? fun entry => entry.2 == level with
  | some (name, _) => name
  | none => "Level " ++ toString level

/-- A letter as names have it: a capital one, and two for a ligature. -/
def capitals (c : Char) : List Char :=
  if c = 'ı' then ['I']
  else if c = 'ſ' then ['S']
  else if c = 'ﬅ' || c = 'ﬆ' then ['S', 'T']
  else [c.toUpper]

/-- A name in any letters as names have it. -/
def capitalized (name : String) : String :=
  String.ofList (name.toList.flatMap capitals)

/-- The severity of a name in any letters. -/
def levelNamed? (name : String) : Option Int :=
  levelNames.lookup (capitalized name)

/-- The severity of a name in any letters, or else the one given instead. Two names are taken by
a text and by a table, which are no severities.
-/
def levelNamed (name : String) (otherwise : Int) : Except Fault Int :=
  if capitalized name = "BASIC_FORMAT" then .error .badValue
  else if capitalized name = "_STYLES" then .error .badType
  else .ok ((levelNamed? name).getD otherwise)

end LogRecord

end GridTable
