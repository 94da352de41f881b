import GridTable.Proofs.Extraction.ReadOrder
import GridTable.Proofs.Selection.Refusals

/-! Extractions of a variable that is named like one of its own dimensions. They are refused, but
only once the filters are through: these have read their coordinates by then, and a filter that
fails ends the extraction first.
-/

namespace GridTable

open Outcome Traced

namespace Filter

/-- A filter suits dimensions if its own are among them and a source has coordinates along each. -/
def Suits (source : Source) (dimensions : List String) (filter : Filter) : Prop :=
  ∀ name ∈ filter.dimensions,
    name ∈ dimensions ∧ ∃ values, source.coordinate name = .ok values

theorem Suits.appliesTo {source : Source} {dimensions : List String} {filter : Filter}
    (suits : filter.Suits source dimensions) (coordinatesOf : String → Array Float)
    : (filter.found coordinatesOf).AppliesTo dimensions where
  supported := filter.found_ne_unsupported coordinatesOf
  known := by
    intro name hn
    exact (suits name (by simpa using hn)).1

/-- A filter reads at least one coordinate, also if that fails. -/
theorem reads_apply_ne_nil (source : Source) (filter : Filter)
    : (filter.apply source).reads ≠ [] := by
  have read (name : String) (next : Array Float → Traced Finding)
      : (source.readCoordinate name >>= next).reads ≠ [] := by
    have early := reads_prefix_bind (source.readCoordinate name) next
    intro none
    rw [none, List.prefix_nil] at early
    cases early
  cases filter with
  | range | list | point2d | point3d => exact read _ _

end Filter

namespace Source

variable {source : Source} {field : String} {filters : List Filter} {axes : List Axis}

/-- Filters select something just if all of them suit the dimensions of the variable. -/
theorem exists_select_iff (located : source.axesOf field = .ok axes)
    (supported : checkSupportedRank field axes.length = .ok ())
    : (∃ selection, (source.select field filters).outcome = .ok selection)
      ↔ ∀ filter ∈ filters, filter.Suits source (axes.map Axis.name) := by
  constructor
  · intro selects filter hm name hn
    obtain ⟨selection, selected⟩ := selects
    obtain ⟨own, findings, again, -, applied, applies, -⟩ := select_eq_ok_iff_folded.mp selected
    obtain rfl := Except.ok.inj (located.symm.trans again)
    obtain ⟨finding, hf, found⟩ := exists_mem_answers_of_mem applied hm
    obtain ⟨readable, rfl⟩ := Filter.apply_eq_ok_iff.mp found
    exact ⟨(applies _ hf).known name (by simpa using hn), readable name hn⟩
  · intro suits
    have applied : filters.mapM (fun filter => (filter.apply source).outcome)
        = .ok (filters.map fun filter =>
            filter.found fun name => (source.coordinate name).toOption.getD #[]) := by
      refine mapM_eq_ok_map fun filter hm => Filter.apply_eq_ok_iff.mpr ⟨?_, rfl⟩
      intro name hn
      exact (suits filter hm name hn).2
    refine ⟨_, select_eq_ok_iff_folded.mpr ⟨axes, _, located, supported, applied, ?_, rfl⟩⟩
    intro finding hf
    obtain ⟨filter, hm, rfl⟩ := List.mem_map.mp hf
    exact (suits filter hm).appliesTo _

/-- Filters have read something, if there are any and the variable may be read. -/
theorem reads_select_eq_nil_iff (located : source.axesOf field = .ok axes)
    (supported : checkSupportedRank field axes.length = .ok ())
    : (source.select field filters).reads = [] ↔ filters = [] := by
  have early : (Filter.applyAll source filters).reads <+: (source.select field filters).reads := by
    rw [select, reads_bind_of_ok _ (located : (liftM (source.axesOf field) : Traced _).outcome = _),
      reads_bind_of_ok _ (supported : (liftM (checkSupportedRank field _) : Traced _).outcome = _)]
    exact reads_prefix_bind _ _
  constructor
  · intro unread
    cases filters with
    | nil => rfl
    | cons filter rest =>
        rw [unread, List.prefix_nil] at early
        have first : (filter.apply source).reads
            <+: (Filter.applyAll source (filter :: rest)).reads :=
          reads_prefix_bind _ _
        rw [early, List.prefix_nil] at first
        exact absurd first (filter.reads_apply_ne_nil source)
  · intro none
    subst none
    exact List.prefix_nil.mp (source.follows_select field []).early

/-- A variable that is named like one of its dimensions is refused once filters have selected. -/
theorem outcome_extract_of_own (located : source.axesOf field = .ok axes)
    (own : field ∈ axes.map Axis.name) (filters : List Filter) (batchSize : Int)
    (maxRows : Option RowLimit)
    : (source.extract field filters batchSize maxRows).outcome
      = (source.select field filters).outcome >>= fun _ =>
          .error (.error (.configuration field .valueColumn)) := by
  cases selected : (source.select field filters).outcome with
  | error failure => rw [extract, outcome_bind, selected, error_bind, error_bind]
  | ok selection =>
      obtain ⟨others, again, dimensions, -⟩ := axes_of_select selected
      obtain rfl := Except.ok.inj (located.symm.trans again)
      rw [outcome_extract_of_select selected, Extraction.outcome_extract_eq_readTable,
        checkSupportedRank_of_select selected, ok_bind, if_pos (dimensions ▸ own)]
      rfl

/-- An extraction reads what selecting does: after that it is refused or has failed already. -/
theorem reads_extract_of_own (located : source.axesOf field = .ok axes)
    (own : field ∈ axes.map Axis.name) (filters : List Filter) (batchSize : Int)
    (maxRows : Option RowLimit)
    : (source.extract field filters batchSize maxRows).reads
      = (source.select field filters).reads := by
  cases selected : (source.select field filters).outcome with
  | error failure => exact reads_extract_of_select_error selected
  | ok selection =>
      obtain ⟨others, again, dimensions, -⟩ := axes_of_select selected
      obtain rfl := Except.ok.inj (located.symm.trans again)
      rw [reads_extract_of_select selected,
        Extraction.reads_extract_of_refused (Or.inl (dimensions ▸ own)), List.append_nil,
        (source.follows_select field filters).whole selection selected]

end Source

namespace Dataset

variable {dataset : Dataset} {source : Source} {field item : String} {stored : Variable}

-----------------------------------------------------------------------------------------
-- What else filters end with
-----------------------------------------------------------------------------------------

theorem Serves.coordinate_ne_valueColumn (serves : dataset.Serves source) (name : String)
    : source.coordinate name ≠ .error (.error (.configuration item .valueColumn)) := by
  intro failed
  rcases serves.coordinate name with same | ⟨operation, reason, torn⟩
  · rw [same, Dataset.coordinate] at failed
    split at failed
    · cases failed
    · split at failed
      · cases failed
      · split at failed
        · cases failed
        · split at failed <;> cases failed
  · cases torn.symm.trans failed

/-- Filters that do not select anything fail for another reason than the name of a variable. -/
theorem Serves.select_ne_valueColumn (serves : dataset.Serves source) {axes : List Axis}
    (located : source.axesOf field = .ok axes)
    (supported : checkSupportedRank field axes.length = .ok ()) (filters : List Filter)
    : (source.select field filters).outcome
      ≠ .error (.error (.configuration item .valueColumn)) := by
  intro failed
  rw [Source.outcome_select, located, ok_bind, supported, ok_bind] at failed
  rcases bind_eq_error_iff.mp failed with applied | ⟨findings, -, folded⟩
  · obtain ⟨filter, -, own⟩ := exists_of_mapM_eq_error applied
    obtain ⟨name, -, unread⟩ := Filter.exists_of_apply_eq_error own
    exact serves.coordinate_ne_valueColumn name unread
  · obtain ⟨finding, -, refused⟩ :=
      Selection.exists_refusedFor_of_foldlM_fold (Selection.valid_ofAxes axes) folded
    cases refused

-----------------------------------------------------------------------------------------
-- Variables that are named like a dimension of theirs
-----------------------------------------------------------------------------------------

theorem axesOf_of_lookup? (found : dataset.lookup? field = some stored)
    : dataset.axesOf field = .ok stored.axes := by
  rw [axesOf, find, found]
  rfl

/-- A variable that is named like one of its dimensions is never extracted, and no value of it is
read. Its filters count first: they are applied and folded, and the first of them that fails ends
the extraction. Just if all of them suit the variable it is refused for its name, and then the
coordinates that they need have been read. So nothing has been read just if there are no filters.
-/
theorem own_dimension_refused_after_filters (serves : dataset.Serves source)
    (found : dataset.lookup? field = some stored)
    (ranked : lowestRank ≤ stored.rank ∧ stored.rank ≤ highestRank)
    (own : field ∈ stored.axes.map Axis.name) (filters : List Filter) (batchSize : Int)
    (maxRows : Option RowLimit)
    : (source.extract field filters batchSize maxRows).outcome
        = (do
            let findings ← filters.mapM fun filter => (filter.apply source).outcome
            let _ ← findings.foldlM Selection.fold (.ofAxes stored.axes)
            .error (.error (.configuration field .valueColumn)))
      ∧ ((source.extract field filters batchSize maxRows).outcome
          = .error (.error (.configuration field .valueColumn))
        ↔ ∀ filter ∈ filters, filter.Suits source (stored.axes.map Axis.name))
      ∧ ((source.extract field filters batchSize maxRows).outcome
          = .error (.error (.configuration field .valueColumn))
        → (source.extract field filters batchSize maxRows).reads
          = Filter.coordinateReads filters)
      ∧ ((source.extract field filters batchSize maxRows).reads = [] ↔ filters = [])
      ∧ ∀ name count,
          .pointsRead name count
          ∉ (source.extract field filters batchSize maxRows).reads := by
  have located : source.axesOf field = .ok stored.axes := by
    rw [serves.axesOf, axesOf_of_lookup? found]
  have supported : checkSupportedRank field stored.axes.length = .ok () :=
    checkSupportedRank_eq_ok_iff.mpr ranked
  have outcome := Source.outcome_extract_of_own located own filters batchSize maxRows
  have reads := Source.reads_extract_of_own located own filters batchSize maxRows
  have refused : (source.extract field filters batchSize maxRows).outcome
        = .error (.error (.configuration field .valueColumn))
      ↔ ∃ selection, (source.select field filters).outcome = .ok selection := by
    rw [outcome, bind_eq_error_iff,
      or_iff_right (serves.select_ne_valueColumn located supported filters)]
    simp
  refine ⟨?_, ?_, ?_, ?_, ?_⟩
  · rw [outcome, Source.outcome_select, located, ok_bind, supported, ok_bind, bind_assoc]
  · rw [refused, Source.exists_select_iff located supported]
  · intro ends
    obtain ⟨selection, selected⟩ := refused.mp ends
    rw [reads, (source.follows_select field filters).whole selection selected]
  · rw [reads, Source.reads_select_eq_nil_iff located supported]
  · intro name count hm
    rw [reads] at hm
    have planned := (source.follows_select field filters).early.subset hm
    simp [Filter.coordinateReads] at planned

/-- A coordinate is refused after a filter has read it, and if a filter is about something else it
is not refused for its name at all.
-/
theorem own_dimension_refused_after_filters_sample
    : ((sample "height").source.extract "x" [.range "x" 15.0 30.0] 1 none).outcome
        = .error (.error (.configuration "x" .valueColumn))
      ∧ ((sample "height").source.extract "x" [.range "x" 15.0 30.0] 1 none).reads
        = [.coordinateRead "x"]
      ∧ ((sample "height").source.extract "x" [.range "z" 15.0 30.0] 1 none).outcome
        ≠ .error (.error (.configuration "x" .valueColumn)) := by
  have found : (sample "height").lookup? "x"
      = some ⟨"x", [⟨"x", 3⟩], .float64, .numbers #[10.0, 20.0, 30.0], true, []⟩ :=
    rfl
  obtain ⟨-, refused, reads, -⟩ := own_dimension_refused_after_filters
    (serves_source (sample "height")) found (by decide) (by decide) [.range "x" 15.0 30.0] 1 none
  obtain ⟨-, other, -⟩ := own_dimension_refused_after_filters
    (serves_source (sample "height")) found (by decide) (by decide) [.range "z" 15.0 30.0] 1 none
  have suits : ∀ filter ∈ [Filter.range "x" 15.0 30.0],
      filter.Suits (sample "height").source ["x"] := by
    intro filter hf name hn
    obtain rfl := List.mem_singleton.mp hf
    obtain rfl := List.mem_singleton.mp hn
    exact ⟨List.mem_singleton_self _, _, rfl⟩
  refine ⟨refused.mpr suits, reads (refused.mpr suits), ?_⟩
  intro ends
  obtain ⟨known, -⟩ := other.mp ends _ (List.mem_singleton_self _) "z" (List.mem_singleton_self _)
  exact absurd known (by decide)

/-- A variable that is named like one of its dimensions is not refused before all reads. -/
theorem own_dimension_not_refused_unread
    : ¬∀ (dataset : Dataset) (field : String) (stored : Variable) (filters : List Filter)
        (batchSize : Int) (maxRows : Option RowLimit),
        dataset.lookup? field = some stored
        → lowestRank ≤ stored.rank ∧ stored.rank ≤ highestRank
        → field ∈ stored.axes.map Axis.name
        → (dataset.source.extract field filters batchSize maxRows).outcome
            = .error (.error (.configuration field .valueColumn))
          ∧ (dataset.source.extract field filters batchSize maxRows).reads = [] := by
  intro unread
  obtain ⟨-, reads⟩ := unread (sample "height") "x" _ [.range "x" 15.0 30.0] 1 none rfl
    (by decide) (by decide)
  have located : (sample "height").source.axesOf "x" = .ok [⟨"x", 3⟩] := rfl
  rw [Source.reads_extract_of_own located (by decide),
    Source.reads_select_eq_nil_iff located rfl] at reads
  cases reads

end Dataset

end GridTable
