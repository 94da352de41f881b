import GridTable.FileStore
import GridTable.Journal
import GridTable.Json.Shown

/-! Saving tables to a store.
An existing file is replaced only on demand. The folders above a new file are made along with
it.
-/

namespace GridTable

namespace FileStore

/-- The path of the table file that a text asks for, unless a file there must not be replaced.
Whether something exists at a remote address is not looked at.
-/
def ensureWritable (store : FileStore) (text : String) (replace : Bool)
    : Except Failure String :=
  let target := Path.withTableEnding text
  if replace || Path.isRemote target then .ok target
  else
    match store.exists? (Path.ofText target) with
    | .error fault => raiseFault fault
    | .ok true => .error (.error (.outputExists target))
    | .ok false => .ok target

/-- Makes the folders above a target. They stay as far as they could be made. -/
def makeParents (store : FileStore) (target : String) : FileStore × Except Fault Unit :=
  if Path.isRemote target then (store, .ok ())
  else store.makeFolders (Path.ofText target).parent

/-- The names of the columns with their element type. -/
def shownSchema (table : Table) : String :=
  let parts := table.columnNames.map fun name =>
    Text.quoted name ++ ": " ++ Text.quoted Table.elementWord
  "\x7b" ++ Text.commaList parts ++ "\x7d"

/-- The report of a table that is about to be written. -/
def reportTable (table : Table) (target : String) : Traced Unit := do
  Traced.info "io.table_sink"
    ("Writing " ++ toString table.rowCount ++ " rows x " ++ toString table.columns.length
      ++ " columns to " ++ target)
  Traced.debug "io.table_sink" ("Schema: " ++ shownSchema table)

/-- The path of the file into which the table of a target is put. A tilde in front is read as a home
folder here, and only here.
-/
def tablePath (store : FileStore) (target : String) : Path :=
  Path.ofText (Path.expandUser store.homes target)

/-- The place of the table of a target, whose folder must be there by now. -/
def placeOfTable (store : FileStore) (target : String) : Except Fault Place :=
  if store.isFolderAt (Path.ofText target) then .error .isDirectory
  else do
    store.checkFolder (store.tablePath target).parent .folderMissing
    if (store.tablePath target).name.contains '\x00' then .error .unusablePath
    else store.placeToWrite (store.tablePath target)

/-- Puts a table into the file of a target. The codec is looked at last. -/
def writeTable (store : FileStore) (table : Table) (codec : Json) (target : String)
    : Except Fault FileStore := do
  let place ← store.placeOfTable target
  match store.unsaved codec table with
  | some fault => .error fault
  | none => .ok (store.put place (.table table))

/-- The failure that a fault of writing makes. Only some faults are taken for errors of writing. -/
def writeFailure (target : String) (fault : Fault) : Failure :=
  if fault.isOfSystemOrValue then .error (.outputWrite target (.ofFault fault)) else .fault fault

/-- Writes a table to the table file that a text asks for. The store afterwards differs by the
table, or else by folders only.
-/
def saveTable (store : FileStore) (table : Table) (codec : Json) (text : String)
    (replace : Bool)
    : FileStore × Traced String :=
  match store.ensureWritable text replace with
  | .error failure => (store, Traced.ofExcept (.error failure))
  | .ok target =>
      match store.makeParents target with
      | (made, .error fault) => (made, Traced.ofExcept (raiseFault fault))
      | (made, .ok ()) =>
          match made.writeTable table codec target with
          | .ok written =>
              (
                written,
                do
                  reportTable table target
                  pure target
              )
          | .error fault =>
              (
                made,
                do
                  reportTable table target
                  Traced.ofExcept (.error (writeFailure target fault))
              )

end FileStore

end GridTable
