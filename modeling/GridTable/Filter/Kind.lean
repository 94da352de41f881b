/-! The four kinds of filters and the words by which configurations call them. -/

namespace GridTable

inductive Filter.Kind where
  | range
  | list
  | point2d
  | point3d
  deriving Repr, DecidableEq

namespace Filter.Kind

/-- The kinds in the order in which messages and environments list them. -/
def all : List Kind :=
  [range, list, point2d, point3d]

def word : Kind → String
  | range => "range"
  | list => "list"
  | point2d => "2d_point"
  | point3d => "3d_point"

/-- The kind that a word calls. -/
def ofWord? (word : String) : Option Kind :=
  all.find? fun kind => kind.word == word

end Filter.Kind

end GridTable
