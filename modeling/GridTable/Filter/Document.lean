import GridTable.Filter.Basic

/-! Filters as entries of documents.
An entry names the kind of a filter and its parameters.
-/

namespace GridTable.Filter

def pointJson (point : Float × Float) : Json :=
  .arr [.float point.1, .float point.2]

/-- The parameters of a filter by name, in order. -/
def parameters : Filter → List (String × Json)
  | range dimension low high =>
      [("dimension_name", .str dimension), ("min_value", .float low), ("max_value", .float high)]
  | list dimension values tolerance =>
      [
        ("dimension_name", .str dimension), ("values", .arr (values.map .float)),
        ("tolerance", .float tolerance)
      ]
  | point2d first second points tolerance =>
      [
        ("lat_dimension_name", .str first), ("lon_dimension_name", .str second),
        ("points", .arr (points.map pointJson)), ("tolerance", .float tolerance)
      ]
  | point3d time first second steps points tolerance =>
      [
        ("time_dimension_name", .str time), ("lat_dimension_name", .str first),
        ("lon_dimension_name", .str second), ("steps", .arr (steps.map .float)),
        ("points", .arr (points.map pointJson)), ("tolerance", .float tolerance)
      ]

/-- The entry of a filter. -/
def toJson (filter : Filter) : Json :=
  .obj (("kind", .str filter.kind.word) :: filter.parameters)

end GridTable.Filter
