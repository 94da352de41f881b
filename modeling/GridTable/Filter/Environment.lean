import GridTable.Filter.Compact
import GridTable.Keyed

/-! Settings out of the environment.
Each kind of filters has a variable that lists compact filters, and one variable limits the
rows. Filters given otherwise keep the variable of their kind from counting.
-/

namespace GridTable

/-- The variables that are set. -/
abbrev Environment :=
  List (String × String)

namespace Environment

/-- The text of a variable; one that is not set is empty. -/
def text (environment : Environment) (name : String) : String :=
  (Keyed.find? name environment).getD ""

/-- The variable that lists the filters of a kind. -/
def filtersVariable : Filter.Kind → String
  | .range => "NC2PARQUET_RANGE_FILTERS"
  | .list => "NC2PARQUET_LIST_FILTERS"
  | .point2d => "NC2PARQUET_POINT2D_FILTERS"
  | .point3d => "NC2PARQUET_POINT3D_FILTERS"

def rowsVariable : String :=
  "NC2PARQUET_MAX_ROWS"

/-- All variables that count. -/
def knownNames : List String :=
  Filter.Kind.all.map filtersVariable ++ [rowsVariable]

/-- What separates the filters of a kind: commas where no filter holds one. -/
def separator : Filter.Kind → Char
  | .range => ','
  | _ => ';'

/-- The filter that an item of a variable describes. What is wrong with it is said of the
variable.
-/
def readItem (kind : Filter.Kind) (item : List Char) : Except Failure Filter :=
  match Filter.ofText kind (String.ofList item) with
  | .error (.error (.configuration _ issue)) => misconfigured (filtersVariable kind) issue
  | outcome => outcome

/-- The filters of a kind; blank items are skipped. -/
def filtersOf (environment : Environment) (kind : Filter.Kind) : Except Failure (List Filter) :=
  let items := Text.fields (separator kind) (environment.text (filtersVariable kind)).toList
  (items.filter fun item => !Text.blankText item).mapM (readItem kind)

/-- The filters of all kinds. -/
def filters (environment : Environment) : Except Failure (List (Filter.Kind × List Filter)) :=
  Filter.Kind.all.mapM fun kind => do
    let filters ← environment.filtersOf kind
    pure (kind, filters)

/-- The row limit, if one is set. Limits that are not positive do not count. -/
def maxRows (environment : Environment) : Except Failure (Option Int) :=
  let value := Text.trim (environment.text rowsVariable).toList
  if value.isEmpty then pure none
  else
    match Decimal.readInt? value with
    | some limit => pure (if 0 < limit then some limit else none)
    | none =>
        misconfigured rowsVariable (.notAnInteger ("'" ++ String.ofList value ++ "'"))

end Environment

namespace Filter

/-- Appends the filters of those kinds that no explicit filter has. -/
def appendMissing (explicit : List Filter)
    : List (Kind × List Filter) → Traced (List Filter)
  | [] => pure []
  | (kind, filters) :: rest => do
      if (explicit.any fun filter => filter.kind == kind) || filters.isEmpty then
        appendMissing explicit rest
      else
        Traced.debug "io.job_config"
          ("Using " ++ toString filters.length ++ " " ++ kind.word
            ++ " filter(s) from environment")
        let more ← appendMissing explicit rest
        pure (filters ++ more)

/-- Explicit filters, and those of the environment of all other kinds. The whole environment is
read, whether it counts or not.
-/
def merge (explicit : List Filter) (environment : Environment) : Traced (List Filter) := do
  let known ← environment.filters
  let more ← appendMissing explicit known
  pure (explicit ++ more)

end Filter

end GridTable
