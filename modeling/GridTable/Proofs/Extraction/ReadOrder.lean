import GridTable.Proofs.Extraction.Display
import GridTable.Proofs.Extraction.Reads
import GridTable.Proofs.Selection.Refusals

/-! In which order an extraction reads from a dataset, whether it ends with a table or fails: what
is refused is refused before anything is read that the refusal is not about.
-/

namespace GridTable

open Outcome Traced

namespace Source

variable {source : Source} {field : String} {filters : List Filter} {batchSize : Int}
variable {maxRows : Option RowLimit}

/-- What is selected lies along the dimensions of the variable, and all filters are applied. -/
theorem axes_of_select {selection : Selection}
    (h : (source.select field filters).outcome = .ok selection)
    : ∃ axes,
        source.axesOf field = .ok axes
        ∧ selection.dimensions = axes.map Axis.name
        ∧ ∀ filter ∈ filters, ∃ finding, (filter.apply source).outcome = .ok finding := by
  obtain ⟨axes, findings, located, -, applied, -, rfl⟩ := select_eq_ok_iff_folded.mp h
  refine ⟨axes, located, Selection.dimensions_foldl_folded _ _, fun filter hm => ?_⟩
  exact exists_answer_of_mem applied hm

/-- An extraction that ends with a table reads all coordinates, and then values in batches. -/
theorem reads_of_extract_eq_ok {table : Table} (positive : 1 ≤ batchSize)
    (h : (source.extract field filters batchSize maxRows).outcome = .ok table)
    : ∃ axes counts,
        source.axesOf field = .ok axes
        ∧ BatchCounts batchSize.toNat table.rowCount counts
        ∧ (source.extract field filters batchSize maxRows).reads
          = Filter.coordinateReads filters
            ++ axes.map (fun axis => .coordinateRead axis.name)
            ++ counts.map (.pointsRead field) := by
  obtain ⟨selection, selected, extracted⟩ := bind_eq_ok_iff.mp ((outcome_bind ..).symm.trans h)
  obtain ⟨axes, located, dimensions, -⟩ := axes_of_select selected
  obtain ⟨-, -, -, coordinates, read, -, -, -, cut, -⟩ := Extraction.extract_eq_ok_iff.mp extracted
  obtain ⟨-, rfl⟩ := Extraction.batches_eq_ok_iff.mp cut
  have rows := Extraction.rowCount_of_extract extracted
  rw [if_neg (by omega)] at rows
  refine ⟨axes, (pieces batchSize.toNat selection.enumerate).map List.length, located, ?_, ?_⟩
  · rw [rows]
    exact batchCounts_pieces (by omega) _
  · have follows : (Extraction.extract source field selection batchSize maxRows).Follows
        (selection.dimensions.map .coordinateRead
        ++ (pieces batchSize.toNat selection.enumerate).map fun batch =>
            .pointsRead field batch.length) :=
      Extraction.follows_extract fun _ read _ again => by
        rw [Except.ok.inj (again.symm.trans cut)]
    rw [reads_extract_of_select selected, follows.whole table extracted, dimensions]
    simp [Function.comp_def]

/-- A finding that cannot be folded ends an extraction once all filters have read. -/
theorem reads_extract_of_fold_eq_error {axes : List Axis} {findings : List Finding}
    {failure : Failure} (located : source.axesOf field = .ok axes)
    (supported : checkSupportedRank field axes.length = .ok ())
    (applied : filters.mapM (fun filter => (filter.apply source).outcome) = .ok findings)
    (folded : findings.foldlM Selection.fold (.ofAxes axes) = .error failure)
    : (source.extract field filters batchSize maxRows).outcome = .error failure
      ∧ (source.extract field filters batchSize maxRows).reads
        = Filter.coordinateReads filters := by
  have failed : (source.select field filters).outcome = .error failure := by
    rw [outcome_select, located, ok_bind, supported, ok_bind, applied, ok_bind, folded]
  constructor
  · rw [extract, outcome_bind, failed, error_bind]
  · rw [reads_extract_of_select_error failed, reads_select_of_applied located supported applied]

/-- Where a filter or the coordinates of a dimension cannot be read, an extraction fails and reads
no more than coordinates.
-/
theorem reads_extract_of_unread {axes : List Axis} (located : source.axesOf field = .ok axes)
    (unread : (∃ filter ∈ filters, ∃ failure, (filter.apply source).outcome = .error failure)
      ∨ ∃ axis ∈ axes, ∃ failure, source.coordinate? axis.name = .error failure)
    : (∃ failure, (source.extract field filters batchSize maxRows).outcome = .error failure)
      ∧ (source.extract field filters batchSize maxRows).reads
        <+: Filter.coordinateReads filters
          ++ axes.map (fun axis => .coordinateRead axis.name) := by
  cases selected : (source.select field filters).outcome with
  | error failure =>
      refine ⟨⟨failure, by rw [extract, outcome_bind, selected, error_bind]⟩, ?_⟩
      rw [reads_extract_of_select_error selected]
      exact (source.follows_select field filters).early.trans (List.prefix_append _ _)
  | ok selection =>
      obtain ⟨others, again, dimensions, applied⟩ := axes_of_select selected
      obtain rfl := Except.ok.inj (located.symm.trans again)
      obtain ⟨axis, hm, failure, failed⟩ : ∃ axis ∈ axes, ∃ failure,
          source.coordinate? axis.name = .error failure := by
        rcases unread with ⟨filter, hf, failure, own⟩ | unread
        · obtain ⟨finding, found⟩ := applied filter hf
          cases own.symm.trans found
        · exact unread
      have stuck (coordinates : List (Option (Array Float)))
          : selection.dimensions.mapM source.coordinate? ≠ .ok coordinates := by
        intro shown
        rw [dimensions] at shown
        obtain ⟨values, own⟩ := exists_answer_of_mem shown (List.mem_map_of_mem hm)
        cases failed.symm.trans own
      constructor
      · cases outcome : (source.extract field filters batchSize maxRows).outcome with
        | error failure => exact ⟨failure, rfl⟩
        | ok table =>
            rw [extract, outcome_bind, selected, ok_bind] at outcome
            obtain ⟨-, -, -, coordinates, -, -, -, shown, -⟩ :=
              Extraction.extract_eq_ok_iff.mp outcome
            exact absurd shown (stuck coordinates)
      · have follows : (Extraction.extract source field selection batchSize maxRows).Follows
            (selection.dimensions.map .coordinateRead ++ []) :=
          Extraction.follows_extract fun coordinates _ shown _ =>
            absurd shown (stuck coordinates)
        rw [reads_extract_of_select selected]
        refine (List.prefix_append_right_inj _).mpr ?_
        simpa [dimensions, Function.comp_def] using follows.early

end Source

-----------------------------------------------------------------------------------------
-- Checks
-----------------------------------------------------------------------------------------

/-- Whether a failure is that of a check of the variable, its rank or its rows. -/
def Failure.isOfCheck : Failure → Bool
  | error (.variablesNotFound ..) => true
  | error (.unsupportedRank ..) => true
  | error (.rowLimitExceeded ..) => true
  | _ => false

namespace Outcome

variable {α β : Type}

/-- A computation is refused if it ends with the failure of a check. -/
def Refused (outcome : Except Failure α) : Prop :=
  ∃ failure, outcome = .error failure ∧ failure.isOfCheck

@[simp] theorem not_refused_ok (answer : α) : ¬Refused (.ok answer) := by
  simp [Refused]

@[simp] theorem not_refused_pure (answer : α) : ¬Refused (pure answer) :=
  not_refused_ok answer

@[simp] theorem refused_error_iff {failure : Failure}
    : Refused (.error failure : Except _ α) ↔ failure.isOfCheck := by
  simp [Refused]

@[simp] theorem not_refused_raiseFault (cause : Fault)
    : ¬Refused (raiseFault cause : Except _ α) := by
  simp [raiseFault, Failure.isOfCheck]

/-- A computation is refused in its first step, or after the answer of that. -/
theorem refused_bind_iff {first : Except Failure α} {next : α → Except Failure β}
    : Refused (first >>= next)
      ↔ Refused first ∨ ∃ answer, first = .ok answer ∧ Refused (next answer) := by
  cases first <;> simp

theorem not_refused_mapM {step : α → Except Failure β} {entries : List α}
    (h : ∀ entry ∈ entries, ¬Refused (step entry))
    : ¬Refused (entries.mapM step) := by
  intro refused
  obtain ⟨failure, failed, check⟩ := refused
  obtain ⟨entry, hm, own⟩ := exists_of_mapM_eq_error failed
  exact h entry hm ⟨failure, own, check⟩

end Outcome

/-- Findings are folded or not whatever the checks are. -/
theorem Selection.not_refused_foldlM_fold {selection : Selection} (valid : selection.Valid)
    (findings : List Finding)
    : ¬Refused (findings.foldlM fold selection) := by
  intro refused
  obtain ⟨failure, failed, check⟩ := refused
  obtain ⟨finding, -, own⟩ := exists_refusedFor_of_foldlM_fold valid failed
  cases own <;> cases check

namespace Dataset

variable {dataset : Dataset} {source : Source} {field : String} {filters : List Filter}
variable {batchSize : Int} {maxRows : Option RowLimit} {failure : Failure}

/-- A source that answers what a dataset answers. Any read may fail instead, as that of a file
does.
-/
structure Serves (dataset : Dataset) (source : Source) : Prop where
  axesOf : source.axesOf = dataset.axesOf
  coordinate (name : String)
    : source.coordinate name = dataset.coordinate name
      ∨ ∃ operation reason,
          source.coordinate name = .error (.error (.dataSource operation reason))
  points (field : String) (cells : List CellIndex)
    : source.points field cells = dataset.points field cells
      ∨ ∃ operation reason,
          source.points field cells = .error (.error (.dataSource operation reason))

theorem serves_source (dataset : Dataset) : dataset.Serves dataset.source where
  axesOf := rfl
  coordinate := fun _ => Or.inl rfl
  points := fun _ _ => Or.inl rfl

theorem Serves.not_refused_coordinate (serves : dataset.Serves source) (name : String)
    : ¬Refused (source.coordinate name) := by
  rcases serves.coordinate name with same | ⟨operation, reason, failed⟩
  · rw [same, Dataset.coordinate]
    split
    · simp [Failure.isOfCheck]
    · split
      · simp [Failure.isOfCheck]
      · split
        · simp [Failure.isOfCheck]
        · split <;> simp
  · simp [failed, Failure.isOfCheck]

theorem Serves.not_refused_coordinate? (serves : dataset.Serves source) (name : String)
    : ¬Refused (source.coordinate? name) := by
  have unrefused := serves.not_refused_coordinate name
  rw [Source.coordinate?]
  split
  · exact not_refused_ok _
  · next failed =>
      split
      · exact not_refused_ok _
      · rwa [failed, refused_error_iff, ← refused_error_iff] at unrefused

theorem Serves.not_refused_points (serves : dataset.Serves source) {stored : Variable}
    (readable : dataset.findReadable field = .ok stored) (cells : List CellIndex)
    : ¬Refused (source.points field cells) := by
  rcases serves.points field cells with same | ⟨operation, reason, failed⟩
  · rw [same]
    by_cases whole : ∀ cell ∈ cells, cell.length = stored.rank
    · rw [points_of_whole readable whole]
      split
      · simp [readFailure, Failure.isOfCheck]
      · split
        · simp [readFailure, Failure.isOfCheck]
        · refine not_refused_mapM fun cell _ refused => ?_
          obtain ⟨failure, failed, check⟩ := refused
          cases failure with
          | error reason => exact stored.valueAt_ne_error cell reason failed
          | fault cause => cases check
    · rw [points_of_ragged readable (by simpa using whole)]
      exact not_refused_raiseFault .badValue
  · simp [failed, Failure.isOfCheck]

/-- Once a variable may be read, no check is left to refuse what is selected of it. -/
theorem Serves.not_refused_readTable (serves : dataset.Serves source) {stored : Variable}
    (readable : dataset.findReadable field = .ok stored) (selection : Selection)
    : ¬Refused (Extraction.readTable source field selection batchSize) := by
  simp only [Extraction.readTable, refused_bind_iff]
  rintro (shown | ⟨_, -, cut | ⟨read, -, values | ⟨_, -, columns | ⟨_, -, made⟩⟩⟩⟩)
  · exact not_refused_mapM (fun name _ => serves.not_refused_coordinate? name) shown
  · rw [Extraction.batches] at cut
    split at cut
    · exact not_refused_pure _ cut
    · exact not_refused_raiseFault _ cut
  · rw [map_eq_pure_bind, refused_bind_iff] at values
    rcases values with points | ⟨parts, -, joined⟩
    · exact not_refused_mapM (fun cells _ => serves.not_refused_points readable cells) points
    · exact not_refused_pure _ joined
  · obtain ⟨failure, failed, check⟩ := columns
    obtain rfl := Extraction.eq_badIndex_of_dimensionColumns failed
    cases check
  · exact not_refused_pure _ made

theorem findReadable_of_axesOf {axes : List Axis} (located : dataset.axesOf field = .ok axes)
    (supported : checkSupportedRank field axes.length = .ok ())
    : ∃ stored, dataset.findReadable field = .ok stored := by
  obtain ⟨stored, found, same⟩ := bind_eq_ok_iff.mp located
  obtain rfl := pure_eq_ok_iff.mp same
  exact ⟨stored, bind_eq_ok_iff.mpr ⟨stored, found, bind_eq_ok_iff.mpr ⟨(), supported, rfl⟩⟩⟩

/-- An extraction that ends with the failure of a check was refused by it: the variable is not
there, has an unsupported rank, or has too many rows selected.
-/
theorem Serves.refused_of_isOfCheck (serves : dataset.Serves source)
    (failed : (source.extract field filters batchSize maxRows).outcome = .error failure)
    (check : failure.isOfCheck)
    : dataset.axesOf field = .error failure
      ∨ (∃ axes,
          dataset.axesOf field = .ok axes
          ∧ checkSupportedRank field axes.length = .error failure)
      ∨ ∃ selection,
          (source.select field filters).outcome = .ok selection
          ∧ Extraction.checkRows selection.estimate maxRows = .error failure := by
  rw [Source.extract, outcome_bind, bind_eq_error_iff] at failed
  rcases failed with failed | ⟨selection, selected, failed⟩
  · rw [Source.outcome_select, serves.axesOf] at failed
    rcases bind_eq_error_iff.mp failed with missing | ⟨axes, located, failed⟩
    · exact Or.inl missing
    rcases bind_eq_error_iff.mp failed with ranked | ⟨_, -, failed⟩
    · exact Or.inr (Or.inl ⟨axes, located, ranked⟩)
    rcases bind_eq_error_iff.mp failed with applied | ⟨findings, -, folded⟩
    · obtain ⟨filter, -, own⟩ := exists_of_mapM_eq_error applied
      obtain ⟨name, -, unread⟩ := Filter.exists_of_apply_eq_error own
      exact absurd ⟨failure, unread, check⟩ (serves.not_refused_coordinate name)
    · exact absurd ⟨failure, folded, check⟩
        (Selection.not_refused_foldlM_fold (Selection.valid_ofAxes axes) findings)
  · rw [Extraction.outcome_extract_eq_readTable, Source.checkSupportedRank_of_select selected,
      ok_bind] at failed
    by_cases own : field ∈ selection.dimensions
    · rw [if_pos own] at failed
      cases failed
      cases check
    rw [if_neg own] at failed
    rcases bind_eq_error_iff.mp failed with limited | ⟨_, -, failed⟩
    · exact Or.inr (Or.inr ⟨selection, selected, limited⟩)
    · obtain ⟨axes, findings, located, supported, -⟩ := Source.select_eq_ok_iff.mp selected
      obtain ⟨stored, readable⟩ := findReadable_of_axesOf (serves.axesOf ▸ located) supported
      exact absurd ⟨failure, failed, check⟩ (serves.not_refused_readTable readable selection)

/-- A variable that is not there or has an unsupported rank is refused before anything is read. -/
theorem Serves.reads_of_unreadable (serves : dataset.Serves source)
    (failed : (source.extract field filters batchSize maxRows).outcome = .error failure)
    (check : failure.isOfCheck)
    (unlimited : ∀ estimated limit, failure ≠ .error (.rowLimitExceeded estimated limit))
    : (source.extract field filters batchSize maxRows).reads = [] := by
  rcases serves.refused_of_isOfCheck failed check with
    missing | ⟨axes, located, ranked⟩ | ⟨selection, -, limited⟩
  · rw [← serves.axesOf] at missing
    have unselected : (source.select field filters).outcome = .error failure := by
      rw [Source.outcome_select, missing, error_bind]
    rw [Source.reads_extract_of_select_error unselected,
      Source.reads_select_of_unlocated missing]
  · rw [← serves.axesOf] at located
    have unselected : (source.select field filters).outcome = .error failure := by
      rw [Source.outcome_select, located, ok_bind, ranked, error_bind]
    rw [Source.reads_extract_of_select_error unselected,
      Source.reads_select_of_unsupported located ranked]
  · obtain ⟨limit, rfl⟩ := Extraction.exists_limit_of_checkRows_eq_error limited
    exact absurd rfl (unlimited _ _)

/-- Too many rows are refused once the filters have read. -/
theorem Serves.reads_of_limited (serves : dataset.Serves source) {estimated limit : String}
    (failed : (source.extract field filters batchSize maxRows).outcome
      = .error (.error (.rowLimitExceeded estimated limit)))
    : (source.extract field filters batchSize maxRows).reads
      = Filter.coordinateReads filters := by
  rcases serves.refused_of_isOfCheck failed rfl with
    missing | ⟨axes, -, ranked⟩ | ⟨selection, selected, limited⟩
  · rw [Dataset.axesOf, find] at missing
    split at missing <;> cases missing
  · rw [checkSupportedRank, checkRank] at ranked
    split at ranked <;> cases ranked
  · rw [Source.reads_extract_of_select selected,
      Extraction.reads_extract_of_refused (Or.inr ⟨_, limited⟩), List.append_nil]

/-- What a dataset is read for, and in which order. An extraction that ends with a table reads the
coordinates that its filters need, then those of all dimensions of the variable, and then its values
in batches that are full but for the last one. If the variable is not there or has an unsupported
rank nothing is read, and if a finding cannot be folded or too many rows are selected, just what the
filters need. If a filter or a coordinate cannot be read no value has been, and just a first part of
the coordinates.
-/
theorem extract_reads_in_order (serves : dataset.Serves source) (field : String)
    (filters : List Filter) {batchSize : Int} (positive : 1 ≤ batchSize)
    (maxRows : Option RowLimit)
    : (∀ table,
        (source.extract field filters batchSize maxRows).outcome = .ok table
        → ∃ axes counts,
            dataset.axesOf field = .ok axes
            ∧ BatchCounts batchSize.toNat table.rowCount counts
            ∧ (source.extract field filters batchSize maxRows).reads
              = Filter.coordinateReads filters
                ++ axes.map (fun axis => .coordinateRead axis.name)
                ++ counts.map (.pointsRead field))
      ∧ (∀ missing known,
          (source.extract field filters batchSize maxRows).outcome
            = .error (.error (.variablesNotFound missing known))
          → (source.extract field filters batchSize maxRows).reads = [])
      ∧ (∀ name rank lowest highest,
          (source.extract field filters batchSize maxRows).outcome
            = .error (.error (.unsupportedRank name rank lowest highest))
          → (source.extract field filters batchSize maxRows).reads = [])
      ∧ (∀ axes findings failure,
          dataset.axesOf field = .ok axes
          → checkSupportedRank field axes.length = .ok ()
          → filters.mapM (fun filter => (filter.apply source).outcome) = .ok findings
          → findings.foldlM Selection.fold (.ofAxes axes) = .error failure
          → (source.extract field filters batchSize maxRows).outcome = .error failure
            ∧ (source.extract field filters batchSize maxRows).reads
              = Filter.coordinateReads filters)
      ∧ (∀ estimated limit,
          (source.extract field filters batchSize maxRows).outcome
            = .error (.error (.rowLimitExceeded estimated limit))
          → (source.extract field filters batchSize maxRows).reads
            = Filter.coordinateReads filters)
      ∧ ∀ axes,
          dataset.axesOf field = .ok axes
          → (∃ filter ∈ filters, ∃ failure, (filter.apply source).outcome = .error failure)
            ∨ (∃ axis ∈ axes, ∃ failure, source.coordinate? axis.name = .error failure)
          → (∃ failure,
              (source.extract field filters batchSize maxRows).outcome = .error failure)
            ∧ (source.extract field filters batchSize maxRows).reads
              <+: Filter.coordinateReads filters
                ++ axes.map (fun axis => .coordinateRead axis.name)
            ∧ ∀ name count,
                .pointsRead name count
                ∉ (source.extract field filters batchSize maxRows).reads := by
  rw [← serves.axesOf]
  refine ⟨?_, ?_, ?_, ?_, ?_, ?_⟩
  · intro table ends
    exact Source.reads_of_extract_eq_ok positive ends
  · intro missing known ends
    exact serves.reads_of_unreadable ends rfl nofun
  · intro name rank lowest highest ends
    exact serves.reads_of_unreadable ends rfl nofun
  · intro axes findings failure located supported applied folded
    exact Source.reads_extract_of_fold_eq_error located supported applied folded
  · intro estimated limit ends
    exact serves.reads_of_limited ends
  · intro axes located unread
    obtain ⟨fails, early⟩ := Source.reads_extract_of_unread located unread
    refine ⟨fails, early, fun name count hm => ?_⟩
    simpa [Filter.coordinateReads] using early.subset hm

/-- The sample in a file whose coordinates along one dimension cannot be read. -/
def torn : Source where
  axes := (sample "height").axes
  axesOf := (sample "height").axesOf
  coordinate := fun name =>
    if name = "y" then
      .error (.error (.dataSource "coordinate read of 'y'" ⟨"disk error", none⟩))
    else (sample "height").coordinate name
  points := (sample "height").points

theorem serves_torn : (sample "height").Serves torn where
  axesOf := rfl
  coordinate := fun name => by
    by_cases own : name = "y"
    · exact Or.inr ⟨_, _, if_pos own⟩
    · exact Or.inl (if_neg own)
  points := fun _ _ => Or.inl rfl

/-- An extraction with two filters reads three coordinates for them and two to show, and then values
in batches of one. Where the last coordinates cannot be read it ends with them.
-/
theorem extract_reads_in_order_sample
    : (∃ table counts,
        ((sample "height").source.extract "v" sampleFilters 1 none).outcome = .ok table
        ∧ BatchCounts 1 table.rowCount counts
        ∧ ((sample "height").source.extract "v" sampleFilters 1 none).reads
          = [
              .coordinateRead "x", .coordinateRead "y", .coordinateRead "x",
              .coordinateRead "x", .coordinateRead "y"
            ]
            ++ counts.map (.pointsRead "v"))
      ∧ (∃ failure, (torn.extract "v" [.range "x" 15.0 30.0] 1 none).outcome = .error failure)
      ∧ (torn.extract "v" [.range "x" 15.0 30.0] 1 none).reads
        <+: [.coordinateRead "x", .coordinateRead "x", .coordinateRead "y"] := by
  constructor
  · have made : ((sample "height").source.extract "v" sampleFilters 1 none).outcome = _ :=
      (tabular_sample "height").outcome_extract_selected (sound_sample "height")
        (usableOn_sample "height") (by decide)
    rw [if_neg (by decide), if_neg fun blocked => absurd blocked.2 (by decide)] at made
    obtain ⟨axes, counts, located, cut, reads⟩ :=
      (extract_reads_in_order (serves_source (sample "height")) "v" sampleFilters
        (by decide : (1 : Int) ≤ 1) none).1 _ made
    obtain rfl : sampled.axes = axes := Except.ok.inj located
    exact ⟨_, counts, made, cut, reads⟩
  · obtain ⟨-, -, -, -, -, unread⟩ := extract_reads_in_order serves_torn "v" [.range "x" 15.0 30.0]
      (by decide : (1 : Int) ≤ 1) none
    obtain ⟨fails, early, -⟩ := unread sampled.axes rfl (Or.inr ⟨⟨"y", 2⟩, by decide, _, rfl⟩)
    exact ⟨fails, early⟩

end Dataset

end GridTable
