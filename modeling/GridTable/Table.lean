import GridTable.Keyed

/-! Flat tables of doubles.
All columns have one length. Columns have different names: a later column takes the place of an
earlier one of its name.
-/

namespace GridTable

structure Table where
  columns : List (String × List Float)

namespace Table

def ofColumns (columns : List (String × List Float)) : Table where
  columns := columns.foldl (fun known column => Keyed.assign column.1 column.2 known) []

def columnNames (table : Table) : List String :=
  Keyed.names table.columns

def rowCount (table : Table) : Nat :=
  match table.columns with
  | [] => 0
  | column :: _ => column.2.length

/-- The element type of all columns. -/
def elementWord : String :=
  "float64"

end Table

end GridTable
