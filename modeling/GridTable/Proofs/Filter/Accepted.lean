import GridTable.Filter.Document
import GridTable.Filter.Environment
import GridTable.Proofs.Filter.Compact
import GridTable.Proofs.Filter.Entry

/-! Which filters are accepted, by any of the ways in which filters are given: those that pass all
checks. Settings that cannot be compared pass, though they make no sense.
-/

namespace GridTable.Filter

open Outcome

variable {filter : Filter}

-----------------------------------------------------------------------------------------
-- Filters written down
-----------------------------------------------------------------------------------------

theorem kindOfEntry_toJson (filter : Filter)
    : kindOfEntry (("kind", .str filter.kind.word) :: filter.parameters) = .ok filter.kind := by
  cases filter <;> rfl

theorem parametersOfEntry_toJson (filter : Filter)
    : parametersOfEntry (("kind", .str filter.kind.word) :: filter.parameters)
      = .ok (filter.parameters.map fun entry => (.str entry.1, entry.2)) := by
  cases filter <;> rfl

theorem namedParameters_toJson (filter : Filter)
    : namedParameters filter.kind (filter.parameters.map fun entry => (.str entry.1, entry.2))
      = .ok filter.parameters := by
  cases filter <;> rfl

theorem readDimension_str {name : String} (kind : Kind) (filled : name ≠ "")
    : readDimension kind (.str name) = .ok name := by
  rw [readDimension, if_neg (by simpa using filled)]
  rfl

theorem readNumbers_floats (values : List Float)
    : readNumbers (.arr (values.map .float)) = .ok values := by
  have reads : values.mapM (Json.toFloat ∘ Json.float) = .ok (values.map id) :=
    mapM_eq_ok_map fun _ _ => rfl
  change (values.map Json.float).mapM Json.toFloat = .ok values
  rw [List.mapM_map, reads, List.map_id]

theorem readPoints_pointJson (levels : Nat) (kind : Kind) (points : List (Float × Float))
    : readPoints levels kind (.arr (points.map pointJson)) = .ok points := by
  have reads : points.mapM (readPoint levels kind ∘ pointJson) = .ok (points.map id) :=
    mapM_eq_ok_map fun _ _ => rfl
  change (points.map pointJson).mapM (readPoint levels kind) = .ok points
  rw [List.mapM_map, reads, List.map_id]

theorem check_of_passes {condition : Prop} [Decidable condition] {kind : Kind} {issue : Issue}
    (passes : filter.Passes) (refused : condition → filter.IsSenseless)
    : (if condition then senseless kind issue else pure filter) = .ok filter :=
  if_neg fun holds => passes.allowed (refused holds)

/-- The parameters of a filter that passes all checks are read back, by kind. -/
theorem ofNamedParameters_parameters (levels : Nat) (passes : filter.Passes)
    : ofNamedParameters levels filter.kind filter.parameters = .ok filter := by
  have named := passes.named
  cases filter with
  | range dimension low high =>
      have filled : dimension ≠ "" := by simpa [dimensions] using named
      change (do
        let dimension ← readDimension .range (.str dimension)
        checkedRange dimension low high) = _
      rw [readDimension_str _ filled, ok_bind]
      exact check_of_passes passes id
  | list dimension values tolerance =>
      have filled : dimension ≠ "" := by simpa [dimensions] using named
      change (do
        let dimension ← readDimension .list (.str dimension)
        let values ← readNumbers (.arr (values.map .float))
        checkedList dimension values tolerance) = _
      rw [readDimension_str _ filled, ok_bind, readNumbers_floats, ok_bind]
      exact check_of_passes passes id
  | point2d first second points tolerance =>
      have filled : first ≠ "" ∧ second ≠ "" := by simpa [dimensions] using named
      change (do
        let first ← readDimension .point2d (.str first)
        let second ← readDimension .point2d (.str second)
        let points ← readPoints levels .point2d (.arr (points.map pointJson))
        checkedPoint2d first second points tolerance) = _
      rw [readDimension_str _ filled.1, ok_bind, readDimension_str _ filled.2, ok_bind,
        readPoints_pointJson, ok_bind]
      exact check_of_passes passes id
  | point3d time first second steps points tolerance =>
      have filled : time ≠ "" ∧ first ≠ "" ∧ second ≠ "" := by simpa [dimensions] using named
      change (do
        let time ← readDimension .point3d (.str time)
        let first ← readDimension .point3d (.str first)
        let second ← readDimension .point3d (.str second)
        let steps ← readNumbers (.arr (steps.map .float))
        let points ← readPoints levels .point3d (.arr (points.map pointJson))
        checkedPoint3d time first second steps points tolerance) = _
      rw [readDimension_str _ filled.1, ok_bind, readDimension_str _ filled.2.1, ok_bind,
        readDimension_str _ filled.2.2, ok_bind, readNumbers_floats, ok_bind,
        readPoints_pointJson, ok_bind]
      exact check_of_passes passes id

/-- The entry of a filter that passes all checks is read back. -/
theorem ofEntry_toJson (levels : Nat) (passes : filter.Passes)
    : ofEntry levels filter.toJson = .ok filter := by
  rw [toJson, ofEntry, kindOfEntry_toJson, ok_bind, parametersOfEntry_toJson, ok_bind,
    ofParameters, namedParameters_toJson, ok_bind, ofNamedParameters_parameters levels passes]

-----------------------------------------------------------------------------------------
-- Filters that are accepted
-----------------------------------------------------------------------------------------

theorem ends_filters (environment : Environment)
    : Ends (fun listed => ∀ entry ∈ listed, ∀ filter ∈ entry.2, filter.Passes) (fun _ => True)
        environment.filters := by
  refine Ends.mapM fun kind _ => ?_
  refine Ends.bind (Ends.mapM fun item _ => ?_) fun filters known => .pure known
  rw [Environment.readItem]
  split
  · exact .error trivial
  · exact (ends_ofText kind _).imp (fun _ known => known.1) fun _ _ => trivial

/-- A filter is accepted if an entry or a line of text describes it, or if it is among those of an
environment.
-/
inductive Accepted (filter : Filter) : Prop
  | entry {levels : Nat} {entry : Json} (read : ofEntry levels entry = .ok filter)
  | text {kind : Kind} {text : String} (read : ofText kind text = .ok filter)
  | variable {environment : Environment} {listed : List (Kind × List Filter)} {kind : Kind}
      {filters : List Filter} (read : environment.filters = .ok listed)
      (found : (kind, filters) ∈ listed) (own : filter ∈ filters)

theorem accepted_iff_passes : filter.Accepted ↔ filter.Passes := by
  constructor
  · rintro (read | read | ⟨read, found, own⟩)
    · exact (ends_ofEntry _ _).of_ok read
    · exact ((ends_ofText _ _).of_ok read).1
    · exact (ends_filters _).of_ok read _ found filter own
  · intro passes
    exact .entry (ofEntry_toJson 0 passes)

/-- A filter is accepted just if its dimensions have names, and its settings make sense or cannot
be compared.
-/
theorem accepted_iff (filter : Filter)
    : filter.Accepted
      ↔ (∀ name ∈ filter.dimensions, name ≠ "")
        ∧ (filter.MakesSense ∨ ∃ bound ∈ filter.bounds, bound.isNaN) := by
  rw [accepted_iff_passes, ← not_isSenseless_iff]
  constructor
  · rintro ⟨named, allowed⟩
    exact ⟨named, allowed⟩
  · rintro ⟨named, allowed⟩
    exact ⟨named, allowed⟩

/-- The double that is no number. -/
def incomparable : Float :=
  0.0 / 0.0

/-- A line, an entry and an environment each give a filter with a setting that is no number. -/
theorem accepted_senseless
    : ofText .range "x:nan:1" = .ok (.range "x" incomparable 1.0)
      ∧ ¬(range "x" incomparable 1.0).MakesSense
      ∧ (∀ levels,
          ofEntry levels
            (.obj
              [
                ("kind", .str "list"), ("dimension_name", .str "x"), ("values", .arr []),
                ("tolerance", .float incomparable)
              ])
          = .ok (.list "x" [] incomparable))
      ∧ ¬(list "x" [] incomparable).MakesSense
      ∧ Environment.filters [("NC2PARQUET_POINT2D_FILTERS", "y,x:1,2:nan")]
        = .ok
            [
              (.range, []), (.list, []), (.point2d, [.point2d "y" "x" [(1.0, 2.0)] incomparable]),
              (.point3d, [])
            ]
      ∧ ¬(point2d "y" "x" [(1.0, 2.0)] incomparable).MakesSense := by
  exact ⟨rfl, by decide, fun _ => rfl, by decide, rfl, by decide⟩

end GridTable.Filter
