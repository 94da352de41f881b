import GridTable.FileStore
import GridTable.Journal
import GridTable.Logging.Template

/-! The logbook: where the records of the program's loggers go.
All loggers are below one. A record that is grave enough for its logger goes to each handler for
which it is grave enough, and a handler writes it as a line.
-/

namespace GridTable

/-- Where a handler writes to. -/
inductive LogTarget where
  | nowhere
  | console
  | file (path : Path)
  deriving Repr, DecidableEq

structure Handler where
  target : LogTarget
  level : Int
  template : Template
  deriving Repr, DecidableEq

structure Logbook where
  level : Int
  handlers : List Handler
  /-- Whether records also go to handlers outside the program. -/
  passesOn : Bool
  /-- What the handlers wrote to the console. -/
  console : String
  store : FileStore

namespace Logbook

/-- The logbook before anything was asked for: warnings count, and nothing is written. -/
def initial (store : FileStore) : Logbook where
  level := LogRecord.warningLevel
  handlers := [⟨.nowhere, 0, .standard⟩]
  passesOn := true
  console := ""
  store := store

/-- The least level that counts; a level of zero leaves it to what is outside the program. -/
def effectiveLevel (book : Logbook) : Int :=
  if book.level = 0 then LogRecord.warningLevel else book.level

/-- Writes a line to a target. A file that cannot be written is left as it is. -/
def writeLine (book : Logbook) (line : String) : LogTarget → Logbook
  | .nowhere => book
  | .console => { book with console := book.console ++ line ++ "\n" }
  | .file path =>
      match book.store.append path (line ++ "\n") with
      | .ok store => { book with store }
      | .error _ => book

/-- What a handler makes of a record. -/
def handle (moment : Moment) (record : LogRecord) (book : Logbook) (handler : Handler)
    : Logbook :=
  if record.level < handler.level then book
  else
    match handler.template.line? moment record with
    | some line => book.writeLine line handler.target
    | none => book

/-- Takes a record. Levels that are not positive never count. -/
def take (book : Logbook) (moment : Moment) (record : LogRecord) : Logbook :=
  if record.level ≤ 0 || record.level < book.effectiveLevel then book
  else book.handlers.foldl (handle moment record) book

/-- Takes all records of a journal. -/
def takeAll (book : Logbook) (moment : Moment) (events : List Event) : Logbook :=
  events.foldl (fun book event =>
    match event with
    | .logged record => book.take moment record
    | _ => book) book

/-- Opens a log file, whose folders are made along with it. -/
def openFile (store : FileStore) (path : Path) : FileStore × Except Fault Unit :=
  match store.makeFolders path.parent with
  | (store, .error fault) => (store, .error fault)
  | (store, .ok ()) =>
      match store.append path "" with
      | .ok store => (store, .ok ())
      | .error fault => (store, .error fault)

/-- Adds a handler for a file and reports it. -/
def addFile (book : Logbook) (template : Template) (moment : Moment) (path : Path)
    : Logbook × Except Fault Unit :=
  match openFile book.store path with
  | (store, .error fault) => ({ book with store }, .error fault)
  | (store, .ok ()) =>
      let handlers := book.handlers ++ [⟨.file path, book.level, template⟩]
      let report : LogRecord :=
        ⟨
          LogRecord.infoLevel, LogRecord.rootLogger, "Logging to file: " ++ path.text,
          "Logging to file: %s", ["PosixPath(" ++ Text.quoted path.text ++ ")"]
        ⟩
      (({ book with store, handlers }).take moment report, .ok ())

/-- Sends records to the console, and to a file if one is named. The old handlers are gone even
if a step fails.
-/
def setUp (book : Logbook) (level : Int) (template : Template) (file : Option Path)
    (moment : Moment)
    : Logbook × Except Fault Unit :=
  let book := { book with level, handlers := [] }
  if !template.isUsable then (book, .error .badValue)
  else
    let book := { book with handlers := [⟨.console, level, template⟩] }
    match file with
    | none => ({ book with passesOn := false }, .ok ())
    | some path =>
        match book.addFile template moment path with
        | (book, .ok ()) => ({ book with passesOn := false }, .ok ())
        | (book, .error fault) => (book, .error fault)

/-- Changes the level of the loggers and of all handlers. -/
def setLevel (book : Logbook) (level : Int) : Logbook :=
  { book with level, handlers := book.handlers.map fun handler => { handler with level } }

/-- The console text of a journal at a level, in the standard form. -/
def consoleText (level : Int) (moment : Moment) (events : List Event) : String :=
  let book := ((initial .empty).setUp level .standard none moment).1
  (book.takeAll moment events).console

end Logbook

end GridTable
