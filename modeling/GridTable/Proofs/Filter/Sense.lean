import GridTable.Filter.Checked
import GridTable.Proofs.Decimal.Order
import GridTable.Proofs.Ends

/-! Which settings of filters make sense, and which pass the checks: a check refuses the opposite
of what makes sense, so that settings pass that cannot be compared at all.
-/

namespace GridTable.Filter

open Outcome

-----------------------------------------------------------------------------------------
-- Sense
-----------------------------------------------------------------------------------------

/-- The settings that are compared with each other or with zero. -/
def bounds : Filter → List Float
  | range _ low high => [low, high]
  | list _ _ tolerance => [tolerance]
  | point2d _ _ _ tolerance => [tolerance]
  | point3d _ _ _ _ _ tolerance => [tolerance]

/-- An interval has more than one point, and a tolerance is no negative number; for points it is
not zero either.
-/
def MakesSense : Filter → Prop
  | range _ low high => low < high
  | list _ _ tolerance => 0.0 ≤ tolerance
  | point2d _ _ _ tolerance => 0.0 < tolerance
  | point3d _ _ _ _ _ tolerance => 0.0 < tolerance

instance : DecidablePred MakesSense
  | range _ low high => inferInstanceAs (Decidable (low < high))
  | list _ _ tolerance => inferInstanceAs (Decidable (0.0 ≤ tolerance))
  | point2d _ _ _ tolerance => inferInstanceAs (Decidable (0.0 < tolerance))
  | point3d _ _ _ _ _ tolerance => inferInstanceAs (Decidable (0.0 < tolerance))

/-- What is refused is the opposite comparison. -/
def IsSenseless : Filter → Prop
  | range _ low high => low ≥ high
  | list _ _ tolerance => tolerance < 0.0
  | point2d _ _ _ tolerance => tolerance ≤ 0.0
  | point3d _ _ _ _ _ tolerance => tolerance ≤ 0.0

/-- A filter that passes all checks. -/
structure Passes (filter : Filter) : Prop where
  named : ∀ name ∈ filter.dimensions, name ≠ ""
  allowed : ¬filter.IsSenseless

variable {filter : Filter} {kind : Kind}

/-- Settings are not refused just if they make sense or cannot be compared. -/
theorem not_isSenseless_iff
    : ¬filter.IsSenseless ↔ filter.MakesSense ∨ ∃ bound ∈ filter.bounds, bound.isNaN := by
  -- Zero is a number, so that a tolerance can be compared with it just if it is one as well.
  have alone (tolerance : Float)
      : tolerance.isNaN ∨ (0.0 : Float).isNaN ↔ ∃ bound ∈ [tolerance], bound.isNaN := by
    have zero : ¬(0.0 : Float).isNaN := by decide
    simp only [or_iff_left zero, List.mem_singleton, exists_eq_left]
  cases filter with
  | range dimension low high =>
      have both : low.isNaN ∨ high.isNaN ↔ ∃ bound ∈ [low, high], bound.isNaN := by
        simp only [List.mem_pair, exists_eq_or_imp, exists_eq_left]
      exact Decimal.not_le_iff.trans (or_congr Iff.rfl (or_comm.trans both))
  | list dimension values tolerance =>
      exact Decimal.not_lt_iff.trans (or_congr Iff.rfl (alone tolerance))
  | point2d first second points tolerance =>
      exact Decimal.not_le_iff.trans (or_congr Iff.rfl (alone tolerance))
  | point3d time first second steps points tolerance =>
      exact Decimal.not_le_iff.trans (or_congr Iff.rfl (alone tolerance))

-----------------------------------------------------------------------------------------
-- Checks
-----------------------------------------------------------------------------------------

theorem settles_check {condition : Prop} [Decidable condition] (issue : Issue) (filter : Filter)
    : Settles (if condition then senseless kind issue else pure filter) :=
  .ite (fun _ => ends_misconfigured kind.word issue) fun _ => .pure trivial

/-- A check complains or passes the filter on. -/
theorem ends_check {condition : Prop} [Decidable condition] {issue : Issue}
    (named : ∀ name ∈ filter.dimensions, name ≠ "") (own : filter.kind = kind)
    (refused : filter.IsSenseless → condition)
    : Ends (fun filter => filter.Passes ∧ filter.kind = kind) IsComplaint
        (if condition then senseless kind issue else pure filter) :=
  .ite (fun _ => ends_misconfigured kind.word issue)
    fun allowed => .pure ⟨⟨named, fun h => allowed (refused h)⟩, own⟩

theorem ends_checkedRange {dimension : String} (named : dimension ≠ "") (low high : Float)
    : Ends (fun filter => filter.Passes ∧ filter.kind = .range) IsComplaint
        (checkedRange dimension low high) :=
  ends_check (by simpa [dimensions] using named) rfl id

theorem ends_checkedList {dimension : String} (named : dimension ≠ "") (values : List Float)
    (tolerance : Float)
    : Ends (fun filter => filter.Passes ∧ filter.kind = .list) IsComplaint
        (checkedList dimension values tolerance) :=
  ends_check (by simpa [dimensions] using named) rfl id

theorem ends_checkedPoint2d {first second : String} (named : first ≠ "" ∧ second ≠ "")
    (points : List (Float × Float)) (tolerance : Float)
    : Ends (fun filter => filter.Passes ∧ filter.kind = .point2d) IsComplaint
        (checkedPoint2d first second points tolerance) :=
  ends_check (by simpa [dimensions] using named) rfl id

theorem ends_checkedPoint3d {time first second : String}
    (named : time ≠ "" ∧ first ≠ "" ∧ second ≠ "") (steps : List Float)
    (points : List (Float × Float)) (tolerance : Float)
    : Ends (fun filter => filter.Passes ∧ filter.kind = .point3d) IsComplaint
        (checkedPoint3d time first second steps points tolerance) :=
  ends_check (by simpa [dimensions] using named) rfl id

end GridTable.Filter
