import GridTable.Decimal.Numeral
import GridTable.Filter.Checked
import GridTable.Text.Blank

/-! Compact filters: one line of text each.
Colons separate the parts of a filter and commas the entries of a part. Blanks around parts and
entries do not count.
-/

namespace GridTable.Filter

/-- How a compact filter of a kind is written. -/
def usage : Kind → String
  | .range => "dimension:min:max"
  | .list => "dimension:val1,val2,val3"
  | .point2d => "lat_dim,lon_dim:lat,lon:tolerance"
  | .point3d => "time_dim,lat_dim,lon_dim:time,lat,lon:tolerance"

/-- What is wrong with a compact filter. -/
def illegible {α : Type} (issue : Issue) : Except Failure α :=
  misconfigured "filter string" issue

/-- The parts between colons; none is blank. -/
def partsOf (kind : Kind) (text : String) : Except Failure (List (List Char)) :=
  let parts := (Text.fields ':' (Text.trim text.toList)).map Text.trim
  if parts.any List.isEmpty then illegible (.layout text (usage kind)) else pure parts

/-- The numbers between commas; blank entries are skipped. -/
def numbersOf (what : String) (count : Option Nat) (part : List Char)
    : Except Failure (List Float) :=
  let entries := (Text.fields ',' part).filter fun entry => !Text.blankText entry
  match entries.mapM Decimal.readFloat? with
  | none => illegible (.numbers what (String.ofList part))
  | some values =>
      if values.isEmpty || count.any (· != values.length)
        then illegible (.numberCount count what (String.ofList part))
        else pure values

/-- The only number of a part. -/
def numberOf (what : String) (part : List Char) : Except Failure Float := do
  match ← numbersOf what (some 1) part with
  | [value] => pure value
  | _ => illegible (.numberCount (some 1) what (String.ofList part))

/-- The names between commas. -/
def namesOf (part : List Char) : List String :=
  (Text.fields ',' part).map fun name => String.ofList (Text.trim name)

/-- The filter of a kind that a line describes. -/
def ofText (kind : Kind) (text : String) : Except Failure Filter := do
  let parts ← partsOf kind text
  match kind, parts with
  | .range, [dimension, low, high] =>
      let low ← numberOf "minimum value" low
      let high ← numberOf "maximum value" high
      checkedRange (String.ofList dimension) low high
  | .list, [dimension, values] =>
      let values ← numbersOf "list values" none values
      checkedList (String.ofList dimension) values 0.0
  | .point2d, [names, point, tolerance] =>
      match namesOf names with
      | [first, second] =>
          if first.isEmpty || second.isEmpty then illegible (.dimensionNames "lat_dim,lon_dim")
          match ← numbersOf "point coordinates" (some 2) point with
          | [a, b] =>
              let tolerance ← numberOf "tolerance" tolerance
              checkedPoint2d first second [(a, b)] tolerance
          | _ => illegible (.layout text (usage kind))
      | _ => illegible (.dimensionNames "lat_dim,lon_dim")
  | .point3d, [names, point, tolerance] =>
      match namesOf names with
      | [time, first, second] =>
          if time.isEmpty || first.isEmpty || second.isEmpty
            then illegible (.dimensionNames "time_dim,lat_dim,lon_dim")
          match ← numbersOf "point coordinates" (some 3) point with
          | [step, a, b] =>
              let tolerance ← numberOf "tolerance" tolerance
              checkedPoint3d time first second [step] [(a, b)] tolerance
          | _ => illegible (.layout text (usage kind))
      | _ => illegible (.dimensionNames "time_dim,lat_dim,lon_dim")
  | _, _ => illegible (.layout text (usage kind))

end GridTable.Filter
