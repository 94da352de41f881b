import GridTable.Text.Fields
import GridTable.Text.Occurrence

/-! Paths of files.
A path is the list of its components from a starting point. Empty components and single dots
leave no trace; double dots are kept, since they mean something only where folders exist.
-/

namespace GridTable

structure Path where
  /-- What stands before the first component: nothing, or the slashes of an absolute path. -/
  root : String
  components : List String
  deriving Repr, DecidableEq

namespace Path

/-- The slashes before an absolute path: two stay two, any other number is one. -/
def rootOf (text : List Char) : String :=
  match (text.takeWhile (· == '/')).length with
  | 0 => ""
  | 2 => "//"
  | _ => "/"

def ofText (text : String) : Path where
  root := rootOf text.toList
  components :=
    ((Text.fields '/' text.toList).map String.ofList).filter fun name =>
      !name.isEmpty && name != "."

/-- The path as a text; the starting point itself is a dot. -/
def text (path : Path) : String :=
  let joined := path.root ++ String.intercalate "/" path.components
  if joined.isEmpty then "." else joined

/-- A text without the slashes at its end. -/
def withoutSlashes (text : String) : String :=
  String.ofList (text.toList.reverse.dropWhile (· == '/')).reverse

/-- A text with a tilde in front read as the home folder of a user: of the one whose name stands
between the tilde and the first slash, or of the current one, who goes without a name. A text
without a home folder to it stays as it is.
-/
def expandUser (homes : String → Option String) (text : String) : String :=
  match text.toList with
  | '~' :: rest =>
      let (user, below) := rest.span (· != '/')
      match homes (String.ofList user) with
      | none => text
      | some home =>
          let expanded := withoutSlashes home ++ String.ofList below
          if expanded.isEmpty then "/" else expanded
  | _ => text

/-- One component more behind others (last one first): double dots take the last one away, if
there is one to take.
-/
def collapse (isAbsolute : Bool) (reversed : List String) (name : String) : List String :=
  if name != ".." then name :: reversed
  else
    match reversed with
    | [] => if isAbsolute then [] else [".."]
    | ".." :: _ => ".." :: reversed
    | _ :: rest => rest

/-- The path without its double dots, which is found by its text alone: no folder is looked
at.
-/
def collapsed (path : Path) : Path :=
  let reversed := path.components.foldl (collapse (!path.root.isEmpty)) []
  { path with components := reversed.reverse }

/-- The path without its last component. -/
def parent (path : Path) : Path :=
  { path with components := path.components.dropLast }

def name (path : Path) : String :=
  path.components.getLastD ""

/-- The end of the name from its last dot on, if more than dots stands before it. -/
def suffix (path : Path) : String :=
  let reversed := path.name.toList.reverse
  let ending := reversed.takeWhile (· != '.')
  if (reversed.drop (ending.length + 1)).all (· == '.') then ""
  else String.ofList ('.' :: ending.reverse)

/-- What follows the kind of an address that is no local file. -/
def remoteMark : String :=
  "://"

/-- Whether a text is the address of something that is no local file. -/
def isRemote (text : String) : Bool :=
  Text.occursIn remoteMark.toList text.toList

/-- The ending of table files. -/
def tableEnding : String :=
  ".parquet"

/-- A path of a table file: the ending is appended when it is missing. -/
def withTableEnding (text : String) : String :=
  if tableEnding.toList.isSuffixOf text.toList then text else text ++ tableEnding

end Path

end GridTable
