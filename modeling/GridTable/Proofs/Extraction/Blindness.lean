import GridTable.Proofs.Dataset.SameBut
import GridTable.Proofs.Extraction.FullScan
import GridTable.Proofs.Selection.Refusals

/-! Selecting is blind to the values of the variable that is extracted: other numbers in its cells
change its own column of the table and nothing else, and no failure either.
-/

namespace GridTable

open Outcome

/-- Findings that are refused alike, and that are the same unless a name is among their dimensions.
-/
structure Finding.SameUnless (field : String) (first second : Finding) : Prop where
  refused : first.refusal? = second.refusal?
  same : field ∉ first.dimensions → first = second

/-- Tables with the same columns but for the last one, which has a given name and is as long in
both.
-/
structure Table.SameRows (field : String) (first second : Table) : Prop where
  columns : ∃ columns values others,
    first.columns = columns ++ [(field, values)]
    ∧ second.columns = columns ++ [(field, others)]
    ∧ field ∉ Keyed.names columns
    ∧ values.length = others.length
  rows : first.rowCount = second.rowCount

theorem Table.sameRows_ofColumns {field : String} {columns : List (String × List Float)}
    (apart : field ∉ Keyed.names columns) {values others : List Float}
    (sized : values.length = others.length)
    : SameRows field (ofColumns (columns ++ [(field, values)]))
        (ofColumns (columns ++ [(field, others)])) := by
  have apart : field ∉ Keyed.names (Keyed.collect columns) :=
    fun hm => apart (Keyed.mem_names_collect.mp hm)
  have last (numbers : List Float)
      : ofColumns (columns ++ [(field, numbers)])
        = ⟨Keyed.collect columns ++ [(field, numbers)]⟩ :=
    congrArg Table.mk
      ((Keyed.collect_concat columns (field, numbers)).trans (Keyed.assign_of_notMem _ apart))
  rw [last, last]
  refine ⟨⟨Keyed.collect columns, values, others, rfl, rfl, apart, sized⟩, ?_⟩
  cases Keyed.collect columns with
  | nil => exact sized
  | cons column rest => rfl

namespace Source

variable {field : String} {first second : Source}

/-- Sources that differ at most in the coordinates that are named like a variable and in its
values.
-/
structure SameBut (field : String) (first second : Source) : Prop where
  axesOf : first.axesOf field = second.axesOf field
  coordinate (name : String)
    : Together (fun values others => name ≠ field → values = others) (first.coordinate name)
        (second.coordinate name)
  points (cells : List CellIndex)
    : Together (fun values others => values.length = others.length) (first.points field cells)
        (second.points field cells)

theorem SameBut.coordinate_eq (same : SameBut field first second) {name : String}
    (other : name ≠ field)
    : first.coordinate name = second.coordinate name :=
  ((same.coordinate name).imp fun _ _ equal => equal other).eq

-----------------------------------------------------------------------------------------
-- Selecting
-----------------------------------------------------------------------------------------

/-- A filter that reads the variable as a coordinate may find something else, but nothing that is
refused otherwise.
-/
theorem SameBut.apply (same : SameBut field first second) (filter : Filter)
    : Together (Finding.SameUnless field) (filter.apply first).outcome
        (filter.apply second).outcome := by
  rw [Filter.outcome_apply_eq, Filter.outcome_apply_eq]
  have read : Together (List.Forall₂ fun _ _ => True) (filter.dimensions.mapM first.coordinate)
      (filter.dimensions.mapM second.coordinate) :=
    Together.mapM fun name _ => (same.coordinate name).imp fun _ _ _ => trivial
  refine read.map fun _ _ _ => ⟨?_, fun apart => Filter.found_congr fun name hm => ?_⟩
  · cases filter <;> rfl
  · rw [Filter.dimensions_found] at apart
    rw [same.coordinate_eq fun own => apart (own ▸ hm)]

/-- What is selected is the same unless a dimension has the name of the variable: otherwise a
finding along that is refused.
-/
theorem SameBut.select (same : SameBut field first second) (filters : List Filter)
    : Together
        (fun selection other =>
          selection.dimensions = other.dimensions
          ∧ (field ∉ selection.dimensions → selection = other))
        (first.select field filters).outcome (second.select field filters).outcome := by
  rw [outcome_select, outcome_select, same.axesOf]
  refine (Together.refl (fun _ => rfl) _).bind fun axes _ equal => ?_
  cases equal
  refine (Together.refl (fun _ => rfl) _).bind fun _ _ _ => ?_
  refine (Together.mapM fun filter _ => same.apply filter).bind fun findings others each => ?_
  have valid := Selection.valid_ofAxes axes
  rw [Selection.foldlM_fold_eq valid, Selection.foldlM_fold_eq valid,
    ← findSome?_eq_of_forall₂ (fun _ _ alike => congrFun alike.refused _) each]
  cases refused : findings.findSome? fun finding =>
      finding.refusal? (Selection.ofAxes axes).dimensions with
  | some failure => exact .error failure
  | none =>
      refine .ok ⟨by simp, fun apart => ?_⟩
      rw [Selection.dimensions_foldl_folded] at apart
      have applies (finding : Finding) (hm : finding ∈ findings)
          : finding.AppliesTo (Selection.ofAxes axes).dimensions :=
        Finding.refusal?_eq_none_iff.mp (List.findSome?_eq_none_iff.mp refused finding hm)
      have equal : findings = others := by
        rw [← List.forall₂_eq_eq_eq]
        refine (List.forall₂_and_left _ _ |>.mpr ⟨applies, each⟩).imp ?_
        intro finding other alike
        exact alike.2.same fun hm => apart (alike.1.known field hm)
      rw [equal]

-----------------------------------------------------------------------------------------
-- Extracting
-----------------------------------------------------------------------------------------

theorem SameBut.readTable (same : SameBut field first second) {selection : Selection}
    (apart : field ∉ selection.dimensions) (batchSize : Int)
    : Together (Table.SameRows field) (Extraction.readTable first field selection batchSize)
        (Extraction.readTable second field selection batchSize) := by
  have coordinates : selection.dimensions.mapM first.coordinate?
      = selection.dimensions.mapM second.coordinate? := by
    refine mapM_congr fun name hm => ?_
    rw [coordinate?, coordinate?, same.coordinate_eq fun own => apart (own ▸ hm)]
  have values (read : List (List CellIndex))
      : Together (fun values others => values.length = others.length)
          (List.flatten <$> read.mapM (first.points field))
          (List.flatten <$> read.mapM (second.points field)) := by
    refine (Together.mapM fun batch _ => same.points batch).map fun values others each => ?_
    rw [List.length_flatten, List.length_flatten]
    exact congrArg List.sum (by
      rwa [← List.forall₂_eq_eq_eq, List.forall₂_map_left_iff, List.forall₂_map_right_iff])
  rw [Extraction.readTable, Extraction.readTable, coordinates]
  cases located : selection.dimensions.mapM second.coordinate? with
  | error failure => exact .error failure
  | ok shown =>
      have one := (mapM_eq_ok_iff.mp located).length_eq
      rw [ok_bind, ok_bind]
      refine (Together.refl (fun _ => rfl) _).bind fun read _ equal => ?_
      cases equal
      refine (values read).bind fun values others sized => ?_
      cases columns : Extraction.dimensionColumns read.flatten 0
          (selection.dimensions.zip shown) with
      | error failure => exact .error failure
      | ok made =>
          have names := (Extraction.names_and_lengths_of_dimensionColumns columns).1
          rw [List.map_fst_zip (Nat.le_of_eq one)] at names
          exact .ok (Table.sameRows_ofColumns (names ▸ apart) sized)

theorem SameBut.extract (same : SameBut field first second) (filters : List Filter)
    (batchSize : Int) (maxRows : Option RowLimit)
    : Together (Table.SameRows field) (first.extract field filters batchSize maxRows).outcome
        (second.extract field filters batchSize maxRows).outcome := by
  rw [Source.extract, Source.extract, Traced.outcome_bind, Traced.outcome_bind]
  refine (same.select filters).bind fun selection other alike => ?_
  rw [Extraction.outcome_extract_eq_readTable, Extraction.outcome_extract_eq_readTable,
    ← alike.1]
  refine (Together.refl (fun _ => rfl) _).bind fun _ _ _ => ?_
  by_cases own : field ∈ selection.dimensions
  · rw [if_pos own, if_pos own]
    exact .error _
  · obtain rfl := alike.2 own
    rw [if_neg own, if_neg own]
    refine (Together.refl (fun _ => rfl) _).bind fun _ _ _ => ?_
    exact same.readTable own batchSize

end Source

namespace Dataset

variable {field : String} {first second : Dataset}

theorem SameBut.source (same : SameBut field first second)
    : Source.SameBut field first.source second.source where
  axesOf := congrFun same.axesOf_eq field
  coordinate := same.coordinate
  points := same.points field

/-- Datasets that are the same but for the numbers of one variable: an extraction of that fails with
the same failure from both, or makes tables with as many rows and the same columns but for the last
one, that of the variable.
-/
theorem extract_ignores_values (same : SameBut field first second) (filters : List Filter)
    (batchSize : Int) (maxRows : Option RowLimit)
    : (∃ failure,
        (first.source.extract field filters batchSize maxRows).outcome = .error failure
        ∧ (second.source.extract field filters batchSize maxRows).outcome = .error failure)
      ∨ ∃ table other columns values others,
          (first.source.extract field filters batchSize maxRows).outcome = .ok table
          ∧ (second.source.extract field filters batchSize maxRows).outcome = .ok other
          ∧ table.columns = columns ++ [(field, values)]
          ∧ other.columns = columns ++ [(field, others)]
          ∧ field ∉ Keyed.names columns
          ∧ values.length = others.length
          ∧ table.rowCount = other.rowCount := by
  have ends := same.source.extract filters batchSize maxRows
  generalize (first.source.extract field filters batchSize maxRows).outcome = one,
    (second.source.extract field filters batchSize maxRows).outcome = two at ends
  cases ends with
  | error failure => exact Or.inl ⟨failure, rfl, rfl⟩
  | @ok table other tables =>
      obtain ⟨columns, values, others, left, right, apart, sized⟩ := tables.columns
      exact Or.inr
        ⟨table, other, columns, values, others, rfl, rfl, left, right, apart, sized, tables.rows⟩

/-- The sample with other numbers in the cells of its variable. -/
def resample : Dataset where
  fields :=
    { sampled with cells := .numbers #[6.0, 5.0, 4.0, 3.0, 2.0, 1.0] }
    :: (sample "height").fields.tail

theorem sameBut_resample : SameBut "v" (sample "height") resample :=
  .cons
    (.refilled (rfl : sampled.name = "v") (Cells.doubles?_numbers _) (Cells.doubles?_numbers _)
      (by decide))
    (List.forall₂_same.mpr fun stored _ => .kept stored)

/-- A variable along a dimension without coordinates. -/
def lone (values : Array Float) : Variable :=
  ⟨"v", [⟨"x", 2⟩], .float64, .numbers values, false, []⟩

/-- Other numbers make a table of as many rows. A filter that reads the variable itself finds
something else among them, and fails with the same failure as before.
-/
theorem extract_ignores_values_sample
    : (∃ table other,
        ((sample "height").source.extract "v" sampleFilters 1 none).outcome = .ok table
        ∧ (resample.source.extract "v" sampleFilters 1 none).outcome = .ok other
        ∧ table.rowCount = other.rowCount)
      ∧ ∃ failure,
          ((Dataset.mk [lone #[1.0, 2.0]]).source.extract "v" [.range "v" 1.5 3.5] 1 none).outcome
            = .error failure
          ∧ ((Dataset.mk [lone #[2.0, 3.0]]).source.extract "v" [.range "v" 1.5 3.5] 1
              none).outcome
            = .error failure := by
  constructor
  · have read : ((sample "height").source.extract "v" sampleFilters 1 none).outcome = _ :=
      (tabular_sample "height").outcome_extract_selected (sound_sample "height")
        (usableOn_sample "height") (by decide)
    rw [if_neg (by decide), if_neg fun blocked => absurd blocked.2 (by decide)] at read
    rcases extract_ignores_values sameBut_resample sampleFilters 1 none with
      ⟨failure, failed, -⟩ | ⟨table, other, -, -, -, first, second, -, -, -, -, rows⟩
    · cases read.symm.trans failed
    · exact ⟨table, other, first, second, rows⟩
  · have same : SameBut "v" ⟨[lone #[1.0, 2.0]]⟩ ⟨[lone #[2.0, 3.0]]⟩ :=
      .cons (.refilled (rfl : (lone #[1.0, 2.0]).name = "v") (Cells.doubles?_numbers _)
        (Cells.doubles?_numbers _) (by decide)) .nil
    rcases extract_ignores_values same [.range "v" 1.5 3.5] 1 none with
      failed | ⟨table, other, -, -, -, first, -⟩
    · exact failed
    · cases first

end Dataset

end GridTable
