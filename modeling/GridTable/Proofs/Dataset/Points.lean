import GridTable.Proofs.Alike
import GridTable.Proofs.Dataset.Cells

/-! Reading many cells at once from a dataset, and in several parts.
All cells of a read are looked up before any value is, so that a cell that is not found hides
a text that is no numeral, unless another read has met the text before.
-/

namespace GridTable

namespace Variable

/-- The value of the cell that indices lead to, as it is read with others. -/
def valueAt (stored : Variable) (cell : CellIndex) : Except Failure Float :=
  (locate? stored.axes cell).elim (raiseFault .badIndex) stored.inBlock

/-- Indices that lead to no cell. -/
def IsLost (stored : Variable) (cell : CellIndex) : Prop :=
  locate? stored.axes cell = none

instance (stored : Variable) : DecidablePred stored.IsLost :=
  fun _ => inferInstanceAs (Decidable (_ = none))

/-- Indices that lead to a cell without a value, such as a text that is no numeral. -/
def IsUnreadable (stored : Variable) (cell : CellIndex) : Prop :=
  ¬stored.IsLost cell ∧ ∃ failure, stored.valueAt cell = .error failure

instance (stored : Variable) : DecidablePred stored.IsUnreadable :=
  fun cell =>
    match h : stored.valueAt cell with
    | .ok _ => isFalse fun unreadable => by simp [IsUnreadable, h] at unreadable
    | .error failure =>
        decidable_of_iff (¬stored.IsLost cell)
          ⟨fun located => ⟨located, failure, h⟩, fun unreadable => unreadable.1⟩

end Variable

namespace Dataset

variable {dataset : Dataset} {field : String} {stored : Variable}

/-- A read of cells that have one index per dimension: they are all found, the dimension of the
read has a name of its own, and then the values are as they are one by one.
-/
theorem points_of_whole (found : dataset.findReadable field = .ok stored)
    {cells : List CellIndex} (whole : ∀ cell ∈ cells, cell.length = stored.rank)
    : dataset.points field cells
      = if ∃ cell ∈ cells, stored.IsLost cell then
          readFailure ("batched read of '" ++ field ++ "'") ""
            (some (dataset.cellsFault stored (indexVectors stored.axes cells)))
        else if cells ≠ [] ∧ dataset.isPointsTaken then
          readFailure ("batched read of '" ++ field ++ "'") "" (some .badValue)
        else cells.mapM stored.valueAt := by
  have sized : (cells.any fun cell => cell.length != stored.rank) = false := by
    simpa using whole
  rw [points, found]
  simp only [Outcome.ok_bind, sized, Bool.false_eq_true, if_false,
    selected?_indexVectors stored.axes whole]
  cases located : cells.mapM (Variable.locate? stored.axes) with
  | none =>
      have lost : ∃ cell ∈ cells, stored.IsLost cell := Outcome.mapM_eq_none_iff.mp located
      rw [if_pos lost]
  | some offsets =>
      have all : ¬∃ cell ∈ cells, stored.IsLost cell := fun lost =>
        nomatch located.symm.trans (Outcome.mapM_eq_none_iff.mpr lost)
      have same : offsets = [] ↔ cells = [] := by
        have each := (Outcome.mapM_eq_some_iff.mp located).length_eq
        rw [← List.length_eq_zero_iff, ← each, List.length_eq_zero_iff]
      have values : offsets.mapM stored.inBlock = cells.mapM stored.valueAt :=
        Outcome.mapM_of_mapM_eq_some located (raiseFault .badIndex)
      rw [if_neg all]
      simp [values, same]

/-- Cells of which one has not one index per dimension are not even looked up. -/
theorem points_of_ragged (found : dataset.findReadable field = .ok stored)
    {cells : List CellIndex} (ragged : ∃ cell ∈ cells, cell.length ≠ stored.rank)
    : dataset.points field cells = raiseFault .badValue := by
  have sized : (cells.any fun cell => cell.length != stored.rank) = true := by
    simpa using ragged
  rw [points, found]
  simp only [Outcome.ok_bind, sized, if_true]

theorem findReadable_eq_ok_iff
    : dataset.findReadable field = .ok stored
      ↔ dataset.lookup? field = some stored
        ∧ checkSupportedRank field stored.rank = .ok () := by
  rw [findReadable, find]
  cases dataset.lookup? field with
  | none => simp
  | some other =>
      simp only [pure_bind, Outcome.bind_eq_ok_iff, Outcome.pure_eq_ok_iff,
        Option.some.injEq]
      constructor
      · rintro ⟨checked, supported, rfl⟩
        exact ⟨rfl, supported⟩
      · rintro ⟨rfl, supported⟩
        exact ⟨_, supported, rfl⟩

-----------------------------------------------------------------------------------------
-- Reading in parts
-----------------------------------------------------------------------------------------

/-- A read in two parts of cells that have one index per dimension ends like the whole read.
Where the first part fails for a cell without a value, the whole read looks up the cells of the
second part before, which must all be found.
-/
theorem points_append_of_whole (found : dataset.findReadable field = .ok stored)
    {first rest : List CellIndex} (whole : ∀ cell ∈ first ++ rest, cell.length = stored.rank)
    (ordered : ∀ cell ∈ first, ∀ other ∈ rest, stored.IsUnreadable cell → ¬stored.IsLost other)
    (filled : first ≠ [])
    : Outcome.Alike
        (do
          let values ← dataset.points field first
          let others ← dataset.points field rest
          pure (values ++ others))
        (dataset.points field (first ++ rest)) := by
  obtain ⟨wholeFirst, wholeRest⟩ := List.forall_mem_append.mp whole
  have either : (∃ cell ∈ first ++ rest, stored.IsLost cell)
      ↔ (∃ cell ∈ first, stored.IsLost cell) ∨ ∃ cell ∈ rest, stored.IsLost cell := by
    simp only [List.mem_append, or_and_right, exists_or]
  rw [points_of_whole found wholeFirst, points_of_whole found wholeRest,
    points_of_whole found whole]
  by_cases lost : ∃ cell ∈ first, stored.IsLost cell
  · rw [if_pos lost, if_pos (either.mpr (Or.inl lost))]
    exact .error (.error rfl)
  rw [if_neg lost]
  by_cases taken : dataset.isPointsTaken
  · have blocked : first ++ rest ≠ [] ∧ dataset.isPointsTaken := by simp [filled, taken]
    rw [if_pos ⟨filled, taken⟩, if_pos blocked, readFailure, Outcome.error_bind]
    split <;> exact .error (.error rfl)
  simp only [taken, Bool.false_eq_true, and_false, if_false]
  by_cases later : ∃ cell ∈ rest, stored.IsLost cell
  · rw [if_pos later, if_pos (either.mpr (Or.inr later))]
    cases values : first.mapM stored.valueAt with
    | ok answers => exact .error (.error rfl)
    | error failure =>
        obtain ⟨cell, hm, failed⟩ := Outcome.exists_of_mapM_eq_error values
        obtain ⟨other, ho, hlost⟩ := later
        have located : ¬stored.IsLost cell := fun own => lost ⟨cell, hm, own⟩
        exact absurd hlost (ordered cell hm other ho ⟨located, failure, failed⟩)
  · rw [if_neg later, if_neg fun all => (either.mp all).elim lost later, List.mapM_append]
    exact .refl _

/-- Cells that may be read in any parts: they have one number of indices, and no cell without a
value comes before one that is not found.
-/
structure Divisible (dataset : Dataset) (field : String) (cells : List CellIndex) : Prop where
  uniform : ∀ cell ∈ cells, ∀ other ∈ cells, cell.length = other.length
  ordered : ∀ stored, dataset.lookup? field = some stored →
    cells.Pairwise fun earlier later => stored.IsUnreadable earlier → ¬stored.IsLost later

theorem Divisible.tail {first rest : List CellIndex}
    (h : dataset.Divisible field (first ++ rest))
    : dataset.Divisible field rest where
  uniform := fun cell hm other ho =>
    h.uniform cell (List.mem_append_right _ hm) other (List.mem_append_right _ ho)
  ordered := fun stored found => (List.pairwise_append.mp (h.ordered stored found)).2.1

theorem Divisible.points_append {first rest : List CellIndex}
    (h : dataset.Divisible field (first ++ rest)) (filled : first ≠ [])
    : Outcome.Alike
        (do
          let values ← dataset.points field first
          let others ← dataset.points field rest
          pure (values ++ others))
        (dataset.points field (first ++ rest)) := by
  cases found : dataset.findReadable field with
  | error failure =>
      have failed (cells : List CellIndex) : dataset.points field cells = .error failure := by
        rw [points, found]
        rfl
      rw [failed first, failed (first ++ rest)]
      exact .refl (.error failure)
  | ok stored =>
      by_cases whole : ∀ cell ∈ first ++ rest, cell.length = stored.rank
      · have ordered := h.ordered stored (findReadable_eq_ok_iff.mp found).1
        exact points_append_of_whole found whole (List.pairwise_append.mp ordered).2.2 filled
      · obtain ⟨other, ho, ragged⟩ : ∃ cell ∈ first ++ rest, cell.length ≠ stored.rank := by
          simpa using whole
        obtain ⟨cell, hm⟩ := List.exists_mem_of_ne_nil first filled
        have same := h.uniform cell (List.mem_append_left _ hm) other ho
        rw [points_of_ragged found ⟨cell, hm, same ▸ ragged⟩,
          points_of_ragged found ⟨other, ho, ragged⟩]
        exact .refl (raiseFault .badValue)

/-- Divisible cells that are read in some parts end like a read of all of them. -/
theorem Divisible.read_parts {parts : List (List CellIndex)}
    (h : dataset.Divisible field parts.flatten) (filled : ∀ part ∈ parts, part ≠ [])
    (nonempty : parts ≠ [])
    : Outcome.Alike (List.flatten <$> parts.mapM (dataset.points field))
        (dataset.points field parts.flatten) :=
  Outcome.alike_flatten_mapM (fun _ _ => Divisible.tail)
    (fun _ _ h hfirst => h.points_append hfirst) filled nonempty h

end Dataset

end GridTable
