import GridTable.Proofs.Dataset.Sound
import GridTable.Proofs.Extraction.Outcome
import GridTable.Proofs.Selection.Reordering

/-! What filters select of a variable of a sound dataset: cells of its grid, also where dimensions
repeat.
-/

namespace GridTable.Dataset

variable {dataset : Dataset} {stored : Variable}

/-- The dimensions of a variable with one name have one size. -/
theorem Sound.consistent (sound : dataset.Sound) (hm : stored ∈ dataset.fields)
    : Axis.Consistent stored.axes :=
  fun axis ha other ho same => sound.sizes stored hm stored hm axis ha other ho same

/-- Whatever is selected of a variable lies in its grid. -/
theorem Sound.inGrid_of_select (sound : dataset.Sound) {field : String}
    {filters : List Filter} {selection : Selection}
    (selected : (dataset.source.select field filters).outcome = .ok selection)
    : ∃ stored,
        dataset.lookup? field = some stored
        ∧ checkSupportedRank field stored.rank = .ok ()
        ∧ selection.dimensions = stored.axes.map Axis.name
        ∧ ∀ cell ∈ selection.enumerate, InGrid stored.axes cell := by
  obtain ⟨axes, findings, located, supported, -, applies, rfl⟩ :=
    Source.select_eq_ok_iff_folded.mp selected
  have valid := Selection.valid_ofAxes axes
  have located : dataset.axesOf field = .ok axes := located
  rw [axesOf, find] at located
  cases found : dataset.lookup? field with
  | none => simp [found] at located
  | some stored =>
      obtain rfl : stored.axes = axes := by simpa [found, Outcome.pure_eq_ok_iff] using located
      have consistent := sound.consistent (mem_of_lookup? found).1
      refine ⟨stored, rfl, supported, Selection.dimensions_foldl_folded _ _, fun cell hm => ?_⟩
      have all := ((Selection.mem_enumerate_foldl_folded_iff_admits valid applies).mp hm).1
      exact (Selection.mem_enumerate_ofAxes consistent).mp all

/-- Cells of the grid of a variable are found. -/
theorem Sound.not_isLost_of_inGrid (sound : dataset.Sound) (hm : stored ∈ dataset.fields)
    {cell : CellIndex} (h : InGrid stored.axes cell)
    : ¬stored.IsLost cell := by
  obtain ⟨offset, located⟩ := Variable.exists_locate?_of_inGrid (sound.consistent hm) h
  rw [Variable.IsLost, located]
  exact nofun

section

variable {field : String} {filters : List Filter} {selection : Selection}

theorem Sound.inGrid_of_mem_enumerate (sound : dataset.Sound)
    (selected : (dataset.source.select field filters).outcome = .ok selection)
    (found : dataset.lookup? field = some stored) {cell : CellIndex}
    (hm : cell ∈ selection.enumerate)
    : InGrid stored.axes cell := by
  obtain ⟨other, same, -, -, inGrid⟩ := sound.inGrid_of_select selected
  obtain rfl : stored = other := Option.some.inj (found.symm.trans same)
  exact inGrid cell hm

theorem Sound.not_isLost_of_select (sound : dataset.Sound)
    (selected : (dataset.source.select field filters).outcome = .ok selection)
    (found : dataset.lookup? field = some stored) {cell : CellIndex}
    (hm : cell ∈ selection.enumerate)
    : ¬stored.IsLost cell :=
  sound.not_isLost_of_inGrid (mem_of_lookup? found).1
    (sound.inGrid_of_mem_enumerate selected found hm)

/-- Whatever is selected of a variable may be read in any parts. -/
theorem Sound.divisible_of_select (sound : dataset.Sound)
    (selected : (dataset.source.select field filters).outcome = .ok selection)
    : dataset.Divisible field selection.enumerate := by
  obtain ⟨stored, -, -, -, inGrid⟩ := sound.inGrid_of_select selected
  constructor
  · intro cell hm other ho
    exact (inGrid cell hm).length_eq.trans (inGrid other ho).length_eq.symm
  · intro stored found
    exact List.pairwise_of_forall_mem_list fun _ _ later hm _ =>
      sound.not_isLost_of_select selected found hm

/-- Whatever is selected of a variable is read cell by cell, unless a coordinate takes the name of
the dimension of a read.
-/
theorem Sound.points_of_select (sound : dataset.Sound)
    (selected : (dataset.source.select field filters).outcome = .ok selection)
    (found : dataset.lookup? field = some stored)
    : dataset.points field selection.enumerate
      = if selection.enumerate ≠ [] ∧ dataset.isPointsTaken then
          readFailure ("batched read of '" ++ field ++ "'") "" (some .badValue)
        else selection.enumerate.mapM stored.valueAt := by
  obtain ⟨other, same, supported, -, inGrid⟩ := sound.inGrid_of_select selected
  obtain rfl : stored = other := Option.some.inj (found.symm.trans same)
  have located : ¬∃ cell ∈ selection.enumerate, stored.IsLost cell := fun ⟨cell, hm, lost⟩ =>
    sound.not_isLost_of_select selected found hm lost
  rw [points_of_whole (findReadable_eq_ok_iff.mpr ⟨found, supported⟩) fun cell hm =>
    (inGrid cell hm).length_eq, if_neg located]

end

end GridTable.Dataset
