import GridTable.Proofs.Extraction.Batches
import GridTable.Proofs.Grid
import GridTable.Proofs.Keyed

/-! The columns of an extraction: their names and lengths, and the number of rows they make.
-/

namespace GridTable

/-- The number in a row of a table. -/
def Table.entry (table : Table) (row : Nat) (name : String) : Float :=
  ((Keyed.find? name table.columns).getD []).getD row 0.0

theorem Table.entry_of_mem {table : Table} (different : table.columnNames.Nodup) {name : String}
    {column : List Float} (hm : (name, column) ∈ table.columns) (row : Nat)
    : table.entry row name = column.getD row 0.0 := by
  rw [entry, Keyed.find?_of_mem different hm, Option.getD_some]

/-- Columns with different names all stay. -/
theorem Table.ofColumns_of_nodup {columns : List (String × List Float)}
    (different : (Keyed.names columns).Nodup)
    : ofColumns columns = ⟨columns⟩ :=
  congrArg Table.mk (Keyed.collect_of_nodup different)

/-- What is assigned to a table that begins with a name and a column of some length leaves it so,
if the columns of that name have the length.
-/
theorem Table.rowCount_foldl_assign {name : String} {count : Nat}
    {later : List (String × List Float)}
    (h : ∀ column ∈ later, column.1 = name → column.2.length = count)
    {first : List Float} (hfirst : first.length = count) (known : List (String × List Float))
    : (Table.mk (later.foldl (fun known column => Keyed.assign column.1 column.2 known)
        ((name, first) :: known))).rowCount = count := by
  induction later generalizing first known with
  | nil => exact hfirst
  | cons column rest ih =>
      obtain ⟨hcolumn, hrest⟩ := List.forall_mem_cons.mp h
      rw [List.foldl_cons, Keyed.assign]
      split
      · next same => exact ih hrest (hcolumn same.symm) known
      · exact ih hrest hfirst _

theorem Table.rowCount_ofColumns {name : String} {first : List Float}
    {rest : List (String × List Float)} {count : Nat}
    (h : ∀ column ∈ (name, first) :: rest, column.1 = name → column.2.length = count)
    : (ofColumns ((name, first) :: rest)).rowCount = count := by
  obtain ⟨hfirst, hrest⟩ := List.forall_mem_cons.mp h
  exact rowCount_foldl_assign hrest (hfirst rfl) []

namespace Extraction

/-- Each dimension has a column of its name with one entry per cell, by induction on the
dimensions.
-/
theorem names_and_lengths_of_dimensionColumns {cells : List CellIndex} {position : Nat}
    {named : List (String × Option (Array Float))} {columns : List (String × List Float)}
    (h : dimensionColumns cells position named = .ok columns)
    : Keyed.names columns = named.map Prod.fst
      ∧ ∀ column ∈ columns, column.2.length = cells.length := by
  induction named generalizing position columns with
  | nil =>
      cases Outcome.pure_eq_ok_iff.mp h
      exact ⟨rfl, nofun⟩
  | cons entry rest ih =>
      obtain ⟨column, hcolumn, h⟩ := Outcome.bind_eq_ok_iff.mp h
      obtain ⟨others, hothers, h⟩ := Outcome.bind_eq_ok_iff.mp h
      cases Outcome.pure_eq_ok_iff.mp h
      obtain ⟨names, lengths⟩ := ih hothers
      have whole := (Outcome.mapM_eq_ok_iff.mp hcolumn).length_eq
      exact ⟨congrArg (entry.1 :: ·) names, List.forall_mem_cons.mpr ⟨whole.symm, lengths⟩⟩

/-- The column of each dimension is among the columns, by induction on the dimensions from a
position on.
-/
theorem exists_column_of_dimensionColumns {cells : List CellIndex} {position : Nat}
    {named : List (String × Option (Array Float))} {columns : List (String × List Float)}
    (h : dimensionColumns cells position named = .ok columns) {offset : Nat}
    (ho : offset < named.length)
    : ∃ column,
        (named[offset].1, column) ∈ columns
        ∧ dimensionColumn cells (position + offset) named[offset].2 = .ok column := by
  induction named generalizing position columns offset with
  | nil => simp at ho
  | cons entry rest ih =>
      obtain ⟨column, hcolumn, h⟩ := Outcome.bind_eq_ok_iff.mp h
      obtain ⟨others, hothers, h⟩ := Outcome.bind_eq_ok_iff.mp h
      cases Outcome.pure_eq_ok_iff.mp h
      cases offset with
      | zero => exact ⟨column, List.mem_cons_self, hcolumn⟩
      | succ offset =>
          have inside : offset < rest.length := by simpa using ho
          obtain ⟨other, hm, own⟩ := ih hothers inside
          rw [Nat.add_right_comm] at own
          exact ⟨other, List.mem_cons_of_mem _ hm, own⟩

/-- Where names differ, each dimension has a column of what it shows for the indices along it.
The induction is on the dimensions from a position on, which is the number of earlier ones.
-/
theorem dimensionColumns_eq_ok_map {names : List String} (hd : names.Nodup)
    (cells : List CellIndex) (shown : String → Int → Float) (earlier : List String)
    (named : List (String × Option (Array Float)))
    (split : names = earlier ++ named.map Prod.fst)
    (h : ∀ entry ∈ named, ∀ cell ∈ cells,
      shownIndex entry.2 (entryAlong names cell entry.1)
      = .ok (shown entry.1 (entryAlong names cell entry.1)))
    : dimensionColumns cells earlier.length named
      = .ok (named.map fun entry =>
          (entry.1, cells.map fun cell => shown entry.1 (entryAlong names cell entry.1))) := by
  induction named generalizing earlier with
  | nil => rfl
  | cons entry rest ih =>
      obtain ⟨hentry, hrest⟩ := List.forall_mem_cons.mp h
      have fresh : entry.1 ∉ earlier := fun hm => by
        rw [split, List.map_cons] at hd
        exact (List.nodup_append.mp hd).2.2 _ hm _ List.mem_cons_self rfl
      have position : names.idxOf entry.1 = earlier.length := by
        simp [split, List.idxOf_append, fresh]
      have column : dimensionColumn cells earlier.length entry.2
          = .ok (cells.map fun cell => shown entry.1 (entryAlong names cell entry.1)) := by
        refine Outcome.mapM_eq_ok_map fun cell hm => ?_
        rw [← hentry cell hm, entryAlong, position]
      have others := ih (earlier ++ [entry.1]) (by simp [split]) hrest
      rw [List.length_append, List.length_singleton] at others
      simp [dimensionColumns, column, others]

/-- An extraction that ends with a table has one row per enumerated cell. -/
theorem rowCount_of_extract {source : Source} {field : String} {selection : Selection}
    {batchSize : Int} {maxRows : Option RowLimit} {table : Table}
    (h : (extract source field selection batchSize maxRows).outcome = .ok table)
    : table.rowCount = if batchSize = 0 then 0 else selection.enumerate.length := by
  obtain ⟨hrank, hfield, -, coordinates, read, values, columns, hc, hread, -, hcolumns, rfl⟩ :=
    extract_eq_ok_iff.mp h
  have count : read.flatten.length
      = if batchSize = 0 then 0 else selection.enumerate.length := by
    rw [flatten_batches hread]
    split <;> rfl
  obtain ⟨names, lengths⟩ := names_and_lengths_of_dimensionColumns hcolumns
  have one := (Outcome.mapM_eq_ok_iff.mp hc).length_eq
  rw [List.map_fst_zip (Nat.le_of_eq one)] at names
  cases columns with
  | nil => simp [← names, Keyed.names, checkSupportedRank, checkRank, lowestRank] at hrank
  | cons column others =>
      refine Table.rowCount_ofColumns fun other hm same => ?_
      rw [← count]
      rcases List.mem_append (s := column :: others).mp hm with hm | hm
      · exact lengths other hm
      · have value : other.1 = field := congrArg Prod.fst (List.mem_singleton.mp hm)
        have own : other.1 ∈ selection.dimensions := by simp [same, ← names, Keyed.names]
        exact absurd (value ▸ own) hfield

section

variable {source : Source} {field : String} {selection : Selection} {batchSize : Int}
variable {maxRows : Option RowLimit} {table : Table}

/-- Where names differ, the column of each dimension shows the indices of the enumerated cells along
it, and the last column is that of the variable.
-/
theorem columns_of_extract (distinct : selection.dimensions.Nodup)
    (h : (extract source field selection batchSize maxRows).outcome = .ok table)
    : table.columnNames = selection.dimensions ++ [field]
      ∧ ∀ name ∈ selection.dimensions,
          ∃ coordinates column,
            source.coordinate? name = .ok coordinates
            ∧ (name, column) ∈ table.columns
            ∧ List.Forall₂
                (fun cell number =>
                  shownIndex coordinates (entryAlong selection.dimensions cell name)
                  = .ok number)
                (if batchSize = 0 then [] else selection.enumerate) column := by
  obtain ⟨-, apart, -, coordinates, read, values, columns, shown, cut, -, made, rfl⟩ :=
    extract_eq_ok_iff.mp h
  have one := (Outcome.mapM_eq_ok_iff.mp shown).length_eq
  obtain ⟨names, -⟩ := names_and_lengths_of_dimensionColumns made
  rw [List.map_fst_zip (Nat.le_of_eq one)] at names
  have all : Keyed.names (columns ++ [(field, values)]) = selection.dimensions ++ [field] := by
    rw [← names, Keyed.names, List.map_append]
    rfl
  have different : (Keyed.names (columns ++ [(field, values)])).Nodup := by
    rw [all, ← List.concat_eq_append]
    exact (List.nodup_concat _ _).mpr ⟨apart, distinct⟩
  rw [Table.ofColumns_of_nodup different]
  refine ⟨all, fun name hn => ?_⟩
  obtain ⟨position, hp, rfl⟩ := List.mem_iff_getElem.mp hn
  have hc : position < coordinates.length := one ▸ hp
  have hz : position < (selection.dimensions.zip coordinates).length := by
    rw [List.length_zip]
    omega
  obtain ⟨column, hm, own⟩ := exists_column_of_dimensionColumns made hz
  rw [Nat.zero_add, List.getElem_zip, flatten_batches cut] at own
  rw [List.getElem_zip] at hm
  refine ⟨coordinates[position], column, ?_, List.mem_append_left _ hm, ?_⟩
  · exact (Outcome.mapM_eq_ok_iff.mp shown).get hp hc
  · simp only [entryAlong_getElem distinct _ hp]
    exact Outcome.mapM_eq_ok_iff.mp own

/-- Each row of a table is that of an enumerated cell: every dimension shows the index of the cell
along it.
-/
theorem exists_cell_of_row (distinct : selection.dimensions.Nodup)
    (h : (extract source field selection batchSize maxRows).outcome = .ok table) {row : Nat}
    (hr : row < table.rowCount)
    : ∃ cell ∈ selection.enumerate,
        ∀ name ∈ selection.dimensions,
          ∃ coordinates,
            source.coordinate? name = .ok coordinates
            ∧ shownIndex coordinates (entryAlong selection.dimensions cell name)
              = .ok (table.entry row name) := by
  obtain ⟨names, columns⟩ := columns_of_extract distinct h
  obtain ⟨-, apart, -⟩ := extract_eq_ok_iff.mp h
  have different : table.columnNames.Nodup := by
    rw [names, ← List.concat_eq_append]
    exact (List.nodup_concat _ _).mpr ⟨apart, distinct⟩
  have count := rowCount_of_extract h
  have positive : batchSize ≠ 0 := by
    intro zero
    rw [count, if_pos zero] at hr
    exact absurd hr (Nat.not_lt_zero row)
  rw [count, if_neg positive] at hr
  rw [if_neg positive] at columns
  refine ⟨selection.enumerate[row], List.getElem_mem hr, fun name hn => ?_⟩
  obtain ⟨coordinates, column, read, hm, shown⟩ := columns name hn
  have inside : row < column.length := shown.length_eq ▸ hr
  refine ⟨coordinates, read, ?_⟩
  rw [Table.entry_of_mem different hm, List.getD_eq_getElem?_getD,
    List.getElem?_eq_getElem inside, Option.getD_some]
  exact shown.get hr inside

end

end Extraction

end GridTable
