/-! Cutting a text at a separator, and joining texts again.
A text with `n` separators has `n + 1` fields, empty ones included.
-/

namespace GridTable.Text

/-- The fields between the separators, in order. -/
def fields (separator : Char) : List Char → List (List Char)
  | [] => [[]]
  | c :: rest =>
      if c = separator then [] :: fields separator rest
      else
        match fields separator rest with
        | [] => [[c]]
        | first :: more => (c :: first) :: more

/-- The names of a list, as messages show them. -/
def commaList (names : List String) : String :=
  String.intercalate ", " names

/-- The entries of a list in brackets, already written out. -/
def bracketed (entries : List String) : String :=
  "[" ++ commaList entries ++ "]"

/-- The entries of a group in parentheses, already written out; a single one keeps its comma. -/
def parenthesized : List String → String
  | [entry] => "(" ++ entry ++ ",)"
  | entries => "(" ++ commaList entries ++ ")"

end GridTable.Text
