/-! Line ends of texts.
A carriage return, a line feed, or the one followed by the other ends a line.
-/

namespace GridTable.Text

/-- The characters of a text with a line feed for each line end. -/
def plainLineEnds : List Char → List Char
  | [] => []
  | '\r' :: '\n' :: rest => '\n' :: plainLineEnds rest
  | '\r' :: rest => '\n' :: plainLineEnds rest
  | c :: rest => c :: plainLineEnds rest

def withPlainLineEnds (text : String) : String :=
  String.ofList (plainLineEnds text.toList)

end GridTable.Text
