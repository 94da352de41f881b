import GridTable.Dataset.Basic
import GridTable.Json.Value
import GridTable.Path
import GridTable.Table
import GridTable.Text.LineEnd
import GridTable.Text.Order

/-! Stores of files: what is found where.
A place is a list of names from the root on. The folders around a file exist along with it. On the
way along a path symbolic links are followed, and each folder must allow to be searched.
-/

namespace GridTable

/-- What a file holds. -/
inductive Content where
  | text (content : String)
  | dataset (content : Dataset)
  | table (content : Table)

/-- The names that lead to a file or folder. -/
abbrev Place :=
  List String

/-- What a place is used for. -/
inductive Access where
  /-- Looking for a name in a folder. -/
  | search
  | read
  | write
  /-- Making a file or a folder in a folder. -/
  | add
  deriving Repr, DecidableEq

/-- What is found where, and what comes with it: the users' home folders, the rights of the current
user, and the writer of table files, which is not part of the program.
-/
structure FileStore where
  folders : List Place
  files : List (Place × Content)
  /-- Symbolic links with the paths they stand for. -/
  links : List (Place × Path) := []
  /-- The folder that relative paths start from. -/
  here : Place := []
  /-- The home folder of each user, that of the current one under the empty name. -/
  homes : String → Option String := fun _ => none
  /-- Whether an access to a place is denied: for want of rights, or because nothing can be written
  there. -/
  denied : Access → Place → Bool := fun _ _ => false
  /-- Why a table is not saved with a codec, if so. -/
  unsaved : Json → Table → Option Fault := fun _ _ => none

/-- What is found at a place. -/
inductive Entry where
  | folder
  | file (content : Content)

namespace FileStore

def empty : FileStore where
  folders := []
  files := []

/-- The content of the file at a place. -/
def content? (place : Place) : List (Place × Content) → Option Content
  | [] => none
  | (key, content) :: rest => if key = place then some content else content? place rest

/-- Whether a place is a folder: by itself, or because something is below it. -/
def isFolder (store : FileStore) (place : Place) : Bool :=
  (store.here :: store.folders).any place.isPrefixOf
  || (store.files.map Prod.fst ++ store.links.map Prod.fst).any fun other =>
      other != place && place.isPrefixOf other

def occupant? (store : FileStore) (place : Place) : Option Entry :=
  match content? place store.files with
  | some content => some (.file content)
  | none => if store.isFolder place then some .folder else none

/-- The path that the link at a place stands for. -/
def link? (store : FileStore) (place : Place) : Option Path :=
  store.links.lookup place

-----------------------------------------------------------------------------------------
-- Finding
-----------------------------------------------------------------------------------------

/-- The greatest number of bytes in a name. -/
def nameLimit : Nat :=
  255

/-- The greatest number of bytes in a path. -/
def pathLimit : Nat :=
  4095

/-- The greatest number of links that are followed along a path. -/
def linkLimit : Nat :=
  40

/-- The place that a name in a folder names. Nothing is above the root. -/
def step (store : FileStore) (place : Place) (name : String) : Except Fault Place :=
  match store.occupant? place with
  | none => .error .fileMissing
  | some (.file _) => .error .notDirectory
  | some .folder =>
      if store.denied .search place then .error .accessDenied
      else if nameLimit < name.utf8ByteSize then .error .nameTooLong
      else .ok (if name == ".." then place.dropLast else place ++ [name])

/-- The place that a path starts from. -/
def start (store : FileStore) (path : Path) : Place :=
  if path.root.isEmpty then store.here else []

/-- Walks from a place along names. Where a link is met, `follow` goes on from the place that its
path starts from, along the names of that path and the rest. Answers the place at the end, and how
many more links may be followed.
-/
def walkOn (store : FileStore) (left : Nat)
    (follow : Place → List String → Except Fault (Place × Nat)) (place : Place)
    : List String → Except Fault (Place × Nat)
  | [] => .ok (place, left)
  | name :: rest => do
      let next ← store.step place name
      match store.link? next with
      | none => store.walkOn left follow next rest
      | some target => follow (store.start target) (target.components ++ rest)

/-- Walks from a place along names and at most so many links. -/
def walk (store : FileStore) : Nat → Place → List String → Except Fault (Place × Nat)
  | 0 => store.walkOn 0 fun _ _ => .error .tooManyLinks
  | left + 1 => store.walkOn (left + 1) (store.walk left)

/-- Refuses a path that leads nowhere: no name holds the character zero, and there are not too many
bytes.
-/
def checkPath (path : Path) : Except Fault Unit :=
  if path.components.any fun name => name.contains '\x00' then .error .badValue
  else if pathLimit < path.text.utf8ByteSize then .error .nameTooLong
  else .ok ()

/-- The place that a path leads to, whether there is something or not. -/
def place (store : FileStore) (path : Path) : Except Fault Place := do
  checkPath path
  let (last, _) ← store.walk linkLimit (store.start path) path.components
  pure last

/-- The place of the last name of a path, even if there is a link. -/
def site (store : FileStore) (path : Path) : Except Fault Place := do
  checkPath path
  match path.components.getLast? with
  | none => pure (store.start path)
  | some name => do
      let (above, _) ← store.walk linkLimit (store.start path) path.components.dropLast
      store.step above name

/-- What a path leads to. -/
def find (store : FileStore) (path : Path) : Except Fault Entry := do
  match store.occupant? (← store.place path) with
  | some entry => .ok entry
  | none => .error .fileMissing

/-- What a path leads to, if anything. Some faults only mean that there is nothing. -/
def lookup? (store : FileStore) (path : Path) : Except Fault (Option Entry) :=
  match store.find path with
  | .ok entry => .ok (some entry)
  | .error fault => if fault.isAbsence then .ok none else .error fault

def exists? (store : FileStore) (path : Path) : Except Fault Bool :=
  (store.lookup? path).map Option.isSome

def isFile (store : FileStore) (path : Path) : Except Fault Bool :=
  (store.lookup? path).map fun
    | some (.file _) => true
    | _ => false

/-- Whether a path leads to a folder, as far as that can be found out. -/
def isFolderAt (store : FileStore) (path : Path) : Bool :=
  match store.find path with
  | .ok .folder => true
  | _ => false

/-- Refuses a path that leads to no folder, for a given fault unless the search has its own. -/
def checkFolder (store : FileStore) (path : Path) (fault : Fault) : Except Fault Unit := do
  match ← store.lookup? path with
  | some .folder => .ok ()
  | _ => .error fault

-----------------------------------------------------------------------------------------
-- Reading
-----------------------------------------------------------------------------------------

/-- What a path leads to, if it may be read. -/
def fetch (store : FileStore) (path : Path) : Except Fault Entry := do
  let place ← store.place path
  match store.occupant? place with
  | none => .error .fileMissing
  | some entry => if store.denied .read place then .error .accessDenied else .ok entry

/-- The text of the file that a path leads to, as it is stored. -/
def storedText (store : FileStore) (path : Path) : Except Fault String :=
  match store.fetch path with
  | .error fault => .error fault
  | .ok .folder => .error .isDirectory
  | .ok (.file (.text content)) => .ok content
  | .ok (.file _) => .error .undecodableText

/-- The text of the file that a path leads to, with all line ends alike. -/
def readText (store : FileStore) (path : Path) : Except Fault String :=
  (store.storedText path).map Text.withPlainLineEnds

-----------------------------------------------------------------------------------------
-- Writing
-----------------------------------------------------------------------------------------

/-- Puts a content at a place; what was there is replaced and keeps its position. -/
def putContent (place : Place) (content : Content)
    : List (Place × Content) → List (Place × Content)
  | [] => [(place, content)]
  | (key, old) :: rest =>
      if key = place then (key, content) :: rest else (key, old) :: putContent place content rest

def put (store : FileStore) (place : Place) (content : Content) : FileStore :=
  { store with files := putContent place content store.files }

/-- The place of the file that a path leads to, if it may be written. Its folder must be there. -/
def placeToWrite (store : FileStore) (path : Path) : Except Fault Place := do
  let place ← store.place path
  match store.occupant? place with
  | some .folder => .error .isDirectory
  | some (.file _) => if store.denied .write place then .error .accessDenied else .ok place
  | none => if store.denied .add place.dropLast then .error .accessDenied else .ok place

/-- Appends to the text of the file that a path leads to; a file that is missing is made. -/
def append (store : FileStore) (path : Path) (more : String) : Except Fault FileStore := do
  let place ← store.placeToWrite path
  match content? place store.files with
  | none => .ok (store.put place (.text more))
  | some (.text text) => .ok (store.put place (.text (text ++ more)))
  | some _ => .error .undecodableText

/-- The store with a folder more. -/
def withFolder (store : FileStore) (place : Place) : FileStore :=
  { store with folders := store.folders ++ [place] }

/-- Makes the folder that a path leads to; what is above it must be there. -/
def makeFolder (store : FileStore) (path : Path) : Except Fault FileStore := do
  let place ← store.site path
  if (store.link? place).isSome || (store.occupant? place).isSome then .error .fileExists
  else if store.denied .add place.dropLast then .error .accessDenied
  else .ok (store.withFolder place)

/-- Makes the folder that a path leads to. If it cannot be made, there must be one already, unless
something above it is missing.
-/
def ensureFolder (store : FileStore) (path : Path) : FileStore × Except Fault Unit :=
  match store.makeFolder path with
  | .ok made => (made, .ok ())
  | .error .fileMissing => (store, .error .fileMissing)
  | .error fault => (store, store.checkFolder path fault)

/-- Makes the folders that a path leads to and those above it, `depth` of them at most. The
folders made before a fault stay.
-/
def makeFoldersUpTo (store : FileStore) (path : Path) : Nat → FileStore × Except Fault Unit
  | 0 => (store, .error .fileMissing)
  | depth + 1 =>
      match store.ensureFolder path with
      | (_, .error .fileMissing) =>
          match store.makeFoldersUpTo path.parent depth with
          | (made, .ok ()) => made.ensureFolder path
          | stopped => stopped
      | ended => ended

/-- Makes the folders that a path leads to, as far as they are missing. -/
def makeFolders (store : FileStore) (path : Path) : FileStore × Except Fault Unit :=
  store.makeFoldersUpTo path (path.components.length + 1)

-----------------------------------------------------------------------------------------
-- Contents as a whole
-----------------------------------------------------------------------------------------

/-- The paths of all files below the folder that relative paths start from, by code point. -/
def listing (store : FileStore) : List String :=
  let own := store.files.filter fun entry => store.here.isPrefixOf entry.1
  Text.ascending
    (own.map fun entry => String.intercalate "/" (entry.1.drop store.here.length))

/-- The store with a file more, whose folders are made along with it. -/
def withFile (store : FileStore) (path : Path) (content : Content) : FileStore :=
  let place := (store.place path).toOption.getD (store.start path ++ path.components)
  store.put place content

end FileStore

end GridTable
