/-! Ascending order of texts by code point.
Lists of names in messages and listings of files are shown in this order.
-/

namespace GridTable.Text

/-- Inserts a text before the first one that is not smaller. -/
def insertText (text : String) : List String → List String
  | [] => [text]
  | first :: rest =>
      if first < text then first :: insertText text rest else text :: first :: rest

/-- The texts in ascending order, equal ones kept. -/
def ascending (texts : List String) : List String :=
  texts.foldr insertText []

end GridTable.Text
