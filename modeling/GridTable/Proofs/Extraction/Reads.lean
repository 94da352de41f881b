import GridTable.Proofs.Extraction.Outcome
import GridTable.Proofs.Reads

/-! What an extraction reads, and in which order: the coordinates that its filters need, those of
all dimensions of the variable, and its values in batches.
-/

namespace GridTable

open Outcome Traced

-----------------------------------------------------------------------------------------
-- Filters
-----------------------------------------------------------------------------------------

namespace Filter

/-- The coordinates that filters need, filter by filter. -/
def coordinateReads (filters : List Filter) : List Event :=
  filters.flatMap fun filter => filter.dimensions.map .coordinateRead

theorem follows_apply (source : Source) (filter : Filter)
    : (filter.apply source).Follows (filter.dimensions.map .coordinateRead) := by
  have read (name : String) : (source.readCoordinate name).Follows [.coordinateRead name] :=
    .of_reads_eq rfl
  cases filter with
  | range name low high | list name values tolerance =>
      exact (read name).andPure
  | point2d first second points tolerance =>
      exact (read first).bind fun _ _ => (read second).andPure
  | point3d time first second steps points tolerance =>
      exact (read time).bind fun _ _ => (read first).bind fun _ _ => (read second).andPure

/-- Filters read one after the other, by list induction. -/
theorem follows_applyFrom (source : Source) (position : Nat) (filters : List Filter)
    : (applyFrom source position filters).Follows (coordinateReads filters) := by
  induction filters generalizing position with
  | nil => exact .of_reads_eq rfl
  | cons filter rest ih =>
      refine (follows_apply source filter).bind fun finding _ => ?_
      exact .after (reads_debug ..) fun _ _ => (ih (position + 1)).andPure

end Filter

theorem Selection.reads_foldAll (selection : Selection) (findings : List Finding)
    : (selection.foldAll findings).reads = [] := by
  have silent : (selection.foldAll findings).Follows [] := by
    induction findings generalizing selection with
    | nil => exact .of_reads_eq rfl
    | cons finding rest ih =>
        refine .after (reads_liftM _) fun description _ => ?_
        refine .after (reads_debug ..) fun _ _ => ?_
        refine .after (reads_liftM _) fun narrowed _ => ?_
        exact .after (reads_debug ..) fun _ _ => ih narrowed
  exact List.prefix_nil.mp silent.early

namespace Source

variable {source : Source} {field : String} {filters : List Filter}

theorem follows_select (source : Source) (field : String) (filters : List Filter)
    : (source.select field filters).Follows (Filter.coordinateReads filters) := by
  refine .after (reads_liftM _) fun axes _ => ?_
  refine .after (reads_liftM _) fun _ _ => ?_
  have applied := (Filter.follows_applyFrom source 1 filters).bind fun findings _ =>
    .of_reads_eq ((Selection.ofAxes axes).reads_foldAll findings)
  rwa [List.append_nil] at applied

theorem reads_select_of_unlocated {failure : Failure} (h : source.axesOf field = .error failure)
    : (source.select field filters).reads = [] :=
  reads_bind_of_error _ (h : (liftM (source.axesOf field) : Traced _).outcome = _)

theorem reads_select_of_unsupported {axes : List Axis} {failure : Failure}
    (located : source.axesOf field = .ok axes)
    (h : checkSupportedRank field axes.length = .error failure)
    : (source.select field filters).reads = [] := by
  rw [select, reads_bind_of_ok _ (located : (liftM (source.axesOf field) : Traced _).outcome = _)]
  exact reads_bind_of_error _ (h : (liftM (checkSupportedRank field _) : Traced _).outcome = _)

/-- Filters that can all be applied have read all that they need before a finding is folded. -/
theorem reads_select_of_applied {axes : List Axis} {findings : List Finding}
    (located : source.axesOf field = .ok axes)
    (supported : checkSupportedRank field axes.length = .ok ())
    (applied : filters.mapM (fun filter => (filter.apply source).outcome) = .ok findings)
    : (source.select field filters).reads = Filter.coordinateReads filters := by
  have found : (Filter.applyAll source filters).outcome = .ok findings := by
    rw [Filter.applyAll, Filter.outcome_applyFrom, applied]
  have read : (Filter.applyAll source filters).reads = Filter.coordinateReads filters :=
    (Filter.follows_applyFrom source 1 filters).whole findings found
  rw [select, reads_bind_of_ok _ (located : (liftM (source.axesOf field) : Traced _).outcome = _),
    reads_bind_of_ok _ (supported : (liftM (checkSupportedRank field _) : Traced _).outcome = _),
    reads_bind_of_ok _ found, Selection.reads_foldAll, read]
  simp

/-- The coordinates of all dimensions are read in turn, those that there are none of as well. -/
theorem follows_displayCoordinates (source : Source) (names : List String)
    : (source.displayCoordinates names).Follows (names.map .coordinateRead) := by
  induction names with
  | nil => exact .of_reads_eq rfl
  | cons name rest ih =>
      have read : (source.readCoordinate name).attempt.Follows [.coordinateRead name] :=
        .of_reads_eq rfl
      refine read.bind fun answer _ => ?_
      cases answer with
      | ok values => exact .after (reads_pure _) fun _ _ => ih.andPure
      | error failure =>
          change Follows (if failure.meansNoCoordinate then _ else _) _
          split
          · refine .after (reads_debug ..) fun _ _ => ?_
            exact .after (reads_pure _) fun _ _ => ih.andPure
          · exact .after (reads_ofExcept _) fun _ _ => ih.andPure

end Source

namespace Extraction

variable {source : Source} {field : String} {selection : Selection} {batchSize : Int}
variable {maxRows : Option RowLimit}

theorem follows_readBatches (source : Source) (field : String) (read : List (List CellIndex))
    : (readBatches source field read).Follows
        (read.map fun batch => .pointsRead field batch.length) := by
  induction read with
  | nil => exact .of_reads_eq rfl
  | cons batch rest ih =>
      have points : (source.readPoints field batch).Follows [.pointsRead field batch.length] :=
        .of_reads_eq rfl
      exact points.bind fun values _ => ih.andPure

/-- An extraction reads nothing before all checks are passed, then the coordinates of all
dimensions, and only then values, if it comes to that.
-/
theorem follows_extract {later : List Event}
    (cut : ∀ coordinates read,
      selection.dimensions.mapM source.coordinate? = .ok coordinates
      → batches batchSize selection.enumerate = .ok read
      → (read.map fun batch => .pointsRead field batch.length) = later)
    : (extract source field selection batchSize maxRows).Follows
        (selection.dimensions.map .coordinateRead ++ later) := by
  refine .after (reads_liftM _) fun _ _ => ?_
  change Follows (if selection.dimensions.contains field then _ else _) _
  split
  · exact .after (reads_fail _) nofun
  · refine .after (reads_liftM _) fun _ _ => ?_
    refine .after (reads_info ..) fun _ _ => ?_
    refine (source.follows_displayCoordinates _).bind fun coordinates shown => ?_
    refine .after (reads_liftM _) fun read usable => ?_
    rw [Source.outcome_displayCoordinates] at shown
    rw [← cut coordinates read shown usable, ← List.append_nil (List.map _ read)]
    refine (follows_readBatches source field read).bind fun values _ => ?_
    refine .after (reads_liftM _) fun columns _ => ?_
    exact .after (reads_info ..) fun _ _ => .of_reads_eq (reads_pure _)

theorem reads_extract_of_refused
    (refused : field ∈ selection.dimensions
      ∨ ∃ failure, checkRows selection.estimate maxRows = .error failure)
    : (extract source field selection batchSize maxRows).reads = [] := by
  have silent : (extract source field selection batchSize maxRows).Follows [] := by
    refine .after (reads_liftM _) fun _ _ => ?_
    change Follows (if selection.dimensions.contains field then _ else _) _
    split
    · exact .after (reads_fail _) nofun
    · next apart =>
        obtain ⟨failure, failed⟩ := refused.resolve_left (by simpa using apart)
        refine .after (reads_liftM _) fun _ allowed => ?_
        cases failed.symm.trans allowed
  exact List.prefix_nil.mp silent.early

end Extraction

namespace Source

variable {source : Source} {field : String} {filters : List Filter} {batchSize : Int}
variable {maxRows : Option RowLimit}

/-- An extraction that cannot select reads no more than selecting does. -/
theorem reads_extract_of_select_error {failure : Failure}
    (h : (source.select field filters).outcome = .error failure)
    : (source.extract field filters batchSize maxRows).reads
      = (source.select field filters).reads :=
  reads_bind_of_error _ h

theorem reads_extract_of_select {selection : Selection}
    (h : (source.select field filters).outcome = .ok selection)
    : (source.extract field filters batchSize maxRows).reads
      = Filter.coordinateReads filters
        ++ (Extraction.extract source field selection batchSize maxRows).reads := by
  rw [extract, reads_bind_of_ok _ h, (source.follows_select field filters).whole selection h]

end Source

end GridTable
