/-! Texts that occur in other texts. -/

namespace GridTable.Text

/-- Whether a text occurs in another one, its characters in a row. -/
def occursIn (part : List Char) : List Char → Bool
  | [] => part.isEmpty
  | c :: rest => part.isPrefixOf (c :: rest) || occursIn part rest

end GridTable.Text
