import GridTable.Proofs.Extraction.FullScan
import GridTable.Proofs.Extraction.RowLimit
import GridTable.Proofs.Selection.Reordering
import GridTable.Proofs.Selection.Tightness

/-! Which extractions a row limit refuses: those whose estimate exceeds it. The estimate counts what
points spell out more than once, or what no other filter leaves a candidate, so that an extraction
of fewer rows may be refused as well.
-/

namespace GridTable

/-- Whether a filter is about points rather than about one dimension. -/
def Filter.isPoint : Filter → Bool
  | range .. | list .. => false
  | point2d .. | point3d .. => true

theorem Filter.isJoint_of_apply {source : Source} {filter : Filter} {finding : Finding}
    (h : (filter.apply source).outcome = .ok finding)
    : finding.isJoint = filter.isPoint := by
  obtain ⟨coordinatesOf, rfl⟩ := exists_found_of_apply h
  cases filter <;> rfl

namespace Source

variable {source : Source} {field : String} {filters : List Filter} {selection : Selection}

-----------------------------------------------------------------------------------------
-- What filters select
-----------------------------------------------------------------------------------------

theorem valid_of_select (h : (source.select field filters).outcome = .ok selection)
    : selection.Valid := by
  obtain ⟨axes, findings, -, -, -, applies, rfl⟩ := select_eq_ok_iff_folded.mp h
  exact (Selection.valid_ofAxes axes).foldl_folded applies

theorem checkSupportedRank_of_select
    (h : (source.select field filters).outcome = .ok selection)
    : checkSupportedRank field selection.dimensions.length = .ok () := by
  obtain ⟨axes, findings, -, supported, -, -, rfl⟩ := select_eq_ok_iff_folded.mp h
  simpa [Selection.ofAxes] using supported

/-- Without points nothing is spelled out, and the estimate is exact. -/
theorem tight_of_select (h : (source.select field filters).outcome = .ok selection)
    (single : ∀ filter ∈ filters, ¬filter.isPoint)
    : selection.Tight := by
  obtain ⟨axes, findings, -, -, found, applies, rfl⟩ := select_eq_ok_iff_folded.mp h
  refine Selection.tight_foldl_folded applies fun finding hm => ?_
  obtain ⟨filter, hf, own⟩ := Outcome.exists_entry_of_mem found hm
  rw [Filter.isJoint_of_apply own]
  exact single filter hf

/-- Filters in another order select the same cells. -/
theorem select_of_perm (h : (source.select field filters).outcome = .ok selection)
    {reordered : List Filter} (same : reordered.Perm filters)
    : ∃ other,
        (source.select field reordered).outcome = .ok other
        ∧ other.dimensions = selection.dimensions
        ∧ ∀ cell, cell ∈ other.enumerate ↔ cell ∈ selection.enumerate := by
  obtain ⟨axes, findings, located, supported, found, run⟩ := select_eq_ok_iff.mp h
  have valid := Selection.valid_ofAxes axes
  obtain ⟨others, again, swapped⟩ := Outcome.mapM_of_perm same found
  obtain ⟨other, rerun, cells⟩ := Selection.foldlM_fold_of_perm valid swapped run
  refine ⟨other, select_eq_ok_iff.mpr ⟨axes, others, located, supported, again, rerun⟩, ?_, cells⟩
  obtain ⟨-, rfl⟩ := (Selection.foldlM_fold_eq_ok_iff valid).mp run
  obtain ⟨-, rfl⟩ := (Selection.foldlM_fold_eq_ok_iff valid).mp rerun
  simp

-----------------------------------------------------------------------------------------
-- What a limit refuses
-----------------------------------------------------------------------------------------

/-- A row limit refuses what filters select of a variable: it could be read, and more rows are
estimated than allowed.
-/
structure Refuses (source : Source) (field : String) (filters : List Filter) (limit : RowLimit)
    (selection : Selection)
    : Prop where
  selected : (source.select field filters).outcome = .ok selection
  apart : field ∉ selection.dimensions
  beyond : limit.rows < selection.estimate

variable {batchSize : Int} {limit : RowLimit}

theorem outcome_extract_of_select
    (h : (source.select field filters).outcome = .ok selection) (maxRows : Option RowLimit)
    : (source.extract field filters batchSize maxRows).outcome
      = (Extraction.extract source field selection batchSize maxRows).outcome := by
  rw [Source.extract, Traced.outcome_bind, h, Outcome.ok_bind]

/-- What is refused under a limit is read without one. -/
theorem Refuses.outcome_extract (refuses : source.Refuses field filters limit selection)
    (batchSize : Int)
    : (source.extract field filters batchSize (some limit)).outcome
        = .error (.error (.rowLimitExceeded (toString selection.estimate) limit.shown))
      ∧ (source.extract field filters batchSize none).outcome
        = Extraction.readTable source field selection batchSize := by
  have supported := checkSupportedRank_of_select refuses.selected
  simp only [outcome_extract_of_select refuses.selected,
    Extraction.outcome_extract_eq_readTable, supported, if_neg refuses.apart, Outcome.ok_bind]
  constructor
  · rw [Extraction.checkRows, if_pos refuses.beyond]
    rfl
  · rfl

/-- A limit that refuses nothing changes nothing. -/
theorem outcome_extract_of_not_refuses
    (free : ∀ selection, ¬source.Refuses field filters limit selection)
    : (source.extract field filters batchSize (some limit)).outcome
      = (source.extract field filters batchSize none).outcome := by
  cases h : (source.select field filters).outcome with
  | error failure => simp [Source.extract, h]
  | ok selection =>
      rw [outcome_extract_of_select h, outcome_extract_of_select h,
        Extraction.outcome_extract_eq_readTable, Extraction.outcome_extract_eq_readTable,
        checkSupportedRank_of_select h]
      by_cases hm : field ∈ selection.dimensions
      · simp [hm]
      · have within : ¬limit.rows < selection.estimate := fun beyond => free _ ⟨h, hm, beyond⟩
        have allowed : Extraction.checkRows selection.estimate (some limit) = .ok () := by
          rw [Extraction.checkRows, if_neg within]
          rfl
        rw [allowed]
        rfl

/-- A tight selection is refused in every order of its filters. -/
theorem Refuses.of_perm (refuses : source.Refuses field filters limit selection)
    (tight : selection.Tight) {reordered : List Filter} (same : reordered.Perm filters)
    : ∃ other, source.Refuses field reordered limit other := by
  obtain ⟨other, selected, dimensions, cells⟩ := select_of_perm refuses.selected same
  have lower := tight.estimate_le (valid_of_select refuses.selected) fun cell hm =>
    (cells cell).mpr hm
  have beyond := refuses.beyond
  exact ⟨other, selected, dimensions ▸ refuses.apart, by omega⟩

/-- An extraction is refused just if its estimate exceeds the row limit; otherwise the limit
changes nothing. Without a limit the refused cells are read, and a table of them has at most as
many rows as estimated. If they are tight, then it has more rows than allowed, and they are refused
in whatever order the filters come. Filters without points select tightly.
-/
theorem refused_over_estimate (source : Source) (field : String) (filters : List Filter)
    (batchSize : Int) (limit : RowLimit)
    : (∀ selection,
        source.Refuses field filters limit selection
        → (source.extract field filters batchSize (some limit)).outcome
            = .error (.error (.rowLimitExceeded (toString selection.estimate) limit.shown))
          ∧ (source.extract field filters batchSize none).outcome
            = Extraction.readTable source field selection batchSize
          ∧ (∀ table,
              (source.extract field filters batchSize none).outcome = .ok table
              → table.rowCount ≤ selection.estimate
                ∧ (selection.Tight → batchSize ≠ 0 → limit.rows < table.rowCount))
          ∧ (selection.Tight → ∀ reordered : List Filter,
              reordered.Perm filters → ∃ other, source.Refuses field reordered limit other))
      ∧ ((∀ selection, ¬source.Refuses field filters limit selection)
        → (source.extract field filters batchSize (some limit)).outcome
          = (source.extract field filters batchSize none).outcome)
      ∧ ((∀ filter ∈ filters, ¬filter.isPoint)
        → ∀ selection,
            (source.select field filters).outcome = .ok selection → selection.Tight) := by
  refine ⟨fun selection refuses => ?_, fun free => ?_, fun single selection selected => ?_⟩
  · obtain ⟨refused, read⟩ := refuses.outcome_extract batchSize
    refine ⟨refused, read, fun table made => ?_, fun tight reordered same => ?_⟩
    · rw [outcome_extract_of_select refuses.selected] at made
      refine ⟨Extraction.rowCount_le_estimate made, fun tight counted => ?_⟩
      have exact :=
        (Selection.length_enumerate_eq_estimate_iff (valid_of_select refuses.selected)).mpr tight
      have beyond := refuses.beyond
      rw [Extraction.rowCount_of_extract made, if_neg counted]
      omega
    · exact refuses.of_perm tight same
  · exact outcome_extract_of_not_refuses free
  · exact tight_of_select selected single

/-- A filter of the sample for some points. -/
def samplePoints (points : List (Float × Float)) : Filter :=
  .point2d "x" "y" points 0.5

/-- The cells of the sample for some points each. -/
def sampleSelected (lists : List (List (Float × Float))) : Selection :=
  (Dataset.sample "height").selected Dataset.sampled (lists.map samplePoints)

/-- The table of the sample for some points each, read one by one. -/
def sampleTable (lists : List (List (Float × Float))) (maxRows : Option RowLimit)
    : Except Failure Table :=
  ((Dataset.sample "height").source.extract "v" (lists.map samplePoints) 1 maxRows).outcome

theorem usableOn_samplePoints (points : List (Float × Float))
    : (Dataset.sample "height").UsableOn Dataset.sampled (samplePoints points) where
  apart := by
    change ["x", "y"].Nodup
    decide
  known := by
    change ∀ name ∈ ["x", "y"], name ∈ ["x", "y"]
    decide
  labelled := by
    change ∀ name ∈ ["x", "y"], _
    simp only [List.forall_mem_cons]
    exact ⟨⟨_, rfl⟩, ⟨_, rfl⟩, nofun⟩

theorem usableOn_map_samplePoints (lists : List (List (Float × Float)))
    : ∀ filter ∈ lists.map samplePoints,
        (Dataset.sample "height").UsableOn Dataset.sampled filter :=
  List.forall_mem_map.mpr fun points _ => usableOn_samplePoints points

theorem select_sample (lists : List (List (Float × Float)))
    : ((Dataset.sample "height").source.select "v" (lists.map samplePoints)).outcome
      = .ok (sampleSelected lists) :=
  (Dataset.tabular_sample "height").outcome_select (usableOn_map_samplePoints lists)

theorem exists_sampleTable (lists : List (List (Float × Float)))
    : ∃ table, sampleTable lists none = .ok table := by
  have read := (Dataset.tabular_sample "height").outcome_extract_selected
    (Dataset.sound_sample "height") (usableOn_map_samplePoints lists)
    (by decide : (1 : Int) ≤ 1)
  rw [if_neg (by decide), if_neg fun blocked => absurd blocked.2 (by decide)] at read
  exact ⟨_, read⟩

theorem rowCount_sampleTable {lists : List (List (Float × Float))} {table : Table}
    (h : sampleTable lists none = .ok table)
    : table.rowCount = (sampleSelected lists).enumerate.length := by
  rw [sampleTable, outcome_extract_of_select (select_sample lists)] at h
  exact Extraction.rowCount_of_extract h

theorem refuses_sample (lists : List (List (Float × Float))) {limit : RowLimit}
    : (Dataset.sample "height").source.Refuses "v" (lists.map samplePoints) limit
        (sampleSelected lists)
      ↔ limit.rows < (sampleSelected lists).estimate := by
  have named : (sampleSelected lists).dimensions = ["x", "y"] := Dataset.dimensions_selected _
  refine ⟨Refuses.beyond, fun beyond => ⟨select_sample lists, ?_, beyond⟩⟩
  rw [named]
  decide

/-- Points found in other points: of the cells of the first those of the second are kept. -/
theorem explicit_sampleSelected {first second : List (Float × Float)}
    {cells known : List CellIndex}
    (hfirst : (sampleSelected [first]).explicit = some cells)
    (hsecond : (sampleSelected [second]).explicit = some known)
    : (sampleSelected [first, second]).explicit = some (Selection.keepCommon cells known) := by
  have common := Selection.explicit_withGroups_of_some hfirst ["x", "y"]
    ((samplePoints second).found (Dataset.sample "height").coordinatesOf).groups
  rw [← Option.some.inj hsecond]
  exact common

/-- Two different points are more rows than one, and are refused for that. -/
theorem refused_over_estimate_sample
    : sampleTable [[(20.0, 0.0), (10.0, 0.0)]] (some (.ofInt 1))
        = .error (.error (.rowLimitExceeded "2" "1"))
      ∧ ∃ table,
          sampleTable [[(20.0, 0.0), (10.0, 0.0)]] none = .ok table
          ∧ (1 : Int) < table.rowCount := by
  have estimated : (sampleSelected [[(20.0, 0.0), (10.0, 0.0)]]).estimate = 2 := by
    decide
  have beyond : (RowLimit.ofInt 1).rows
      < (sampleSelected [[(20.0, 0.0), (10.0, 0.0)]]).estimate := by
    rw [estimated]
    decide
  have spelled : (sampleSelected [[(20.0, 0.0), (10.0, 0.0)]]).explicit
      = some [[1, 0], [0, 0]] := by
    decide
  have candidates : ∀ cell ∈ [[1, 0], [0, 0]],
      (sampleSelected [[(20.0, 0.0), (10.0, 0.0)]]).Candidate cell := by
    unfold Selection.Candidate
    decide
  have tight : (sampleSelected [[(20.0, 0.0), (10.0, 0.0)]]).Tight := fun cells hs =>
    Option.some.inj (spelled.symm.trans hs) ▸ ⟨by decide, candidates⟩
  obtain ⟨table, read⟩ := exists_sampleTable [[(20.0, 0.0), (10.0, 0.0)]]
  obtain ⟨refusal, -, -⟩ := refused_over_estimate (Dataset.sample "height").source "v"
    [samplePoints [(20.0, 0.0), (10.0, 0.0)]] 1 (.ofInt 1)
  obtain ⟨refused, -, more, -⟩ := refusal _ ((refuses_sample _).mpr beyond)
  rw [estimated] at refused
  exact ⟨refused, table, read, (more table read).2 tight (by decide)⟩

/-- A point that is spelled out twice is refused under a limit of one row, although without a
limit its table has one row, and although the same filters in another order are not refused.
-/
theorem refused_repeated_point
    : sampleTable [[(20.0, 0.0), (20.0, 0.0)], [(20.0, 0.0)]] (some (.ofInt 1))
        = .error (.error (.rowLimitExceeded "2" "1"))
      ∧ (∃ table,
          sampleTable [[(20.0, 0.0), (20.0, 0.0)], [(20.0, 0.0)]] none = .ok table
          ∧ table.rowCount ≤ 1)
      ∧ ∃ table,
          sampleTable [[(20.0, 0.0)], [(20.0, 0.0), (20.0, 0.0)]] (some (.ofInt 1))
            = .ok table := by
  have twice : (sampleSelected [[(20.0, 0.0), (20.0, 0.0)]]).explicit
      = some [[1, 0], [1, 0]] := by
    decide
  have once : (sampleSelected [[(20.0, 0.0)]]).explicit = some [[1, 0]] := by
    decide
  have two : (sampleSelected [[(20.0, 0.0), (20.0, 0.0)], [(20.0, 0.0)]]).estimate = 2 := by
    rw [Selection.estimate, explicit_sampleSelected twice once]
    simp [Selection.keepCommon]
  have beyond : (RowLimit.ofInt 1).rows
      < (sampleSelected [[(20.0, 0.0), (20.0, 0.0)], [(20.0, 0.0)]]).estimate := by
    rw [two]
    decide
  have one : (sampleSelected [[(20.0, 0.0)], [(20.0, 0.0), (20.0, 0.0)]]).estimate = 1 := by
    rw [Selection.estimate, explicit_sampleSelected once twice]
    simp [Selection.keepCommon]
  have swapped : ([[(20.0, 0.0)], [(20.0, 0.0), (20.0, 0.0)]].map samplePoints).Perm
      ([[(20.0, 0.0), (20.0, 0.0)], [(20.0, 0.0)]].map samplePoints) :=
    .swap ..
  refine ⟨?_, ?_, ?_⟩
  · have refused := ((refuses_sample _).mpr beyond).outcome_extract 1
    rw [two] at refused
    exact refused.1
  · obtain ⟨table, read⟩ := exists_sampleTable [[(20.0, 0.0), (20.0, 0.0)], [(20.0, 0.0)]]
    refine ⟨table, read, ?_⟩
    obtain ⟨other, selected, -, same⟩ := select_of_perm (select_sample _) swapped
    obtain rfl := Except.ok.inj (selected.symm.trans (select_sample _))
    have fewer := (Selection.nodup_enumerate _).length_le_of_subset fun cell hm =>
      (same cell).mpr hm
    have most := Selection.length_enumerate_le_estimate
      (sampleSelected [[(20.0, 0.0)], [(20.0, 0.0), (20.0, 0.0)]])
    rw [rowCount_sampleTable read]
    omega
  · obtain ⟨table, read⟩ := exists_sampleTable [[(20.0, 0.0)], [(20.0, 0.0), (20.0, 0.0)]]
    refine ⟨table, (outcome_extract_of_not_refuses fun selection refuses => ?_).trans read⟩
    obtain rfl := Except.ok.inj (refuses.selected.symm.trans (select_sample _))
    have beyond := refuses.beyond
    rw [one] at beyond
    exact absurd beyond (by decide)

end Source

end GridTable
