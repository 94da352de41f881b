import GridTable.Proofs.Dataset.Cells
import GridTable.Proofs.Dataset.Points

/-! Sound datasets, and what reading from them answers for variables that make a table.
-/

namespace GridTable

def Cells.size : Cells → Nat
  | .numbers values => values.size
  | .complexes values => values.size
  | .times counts => counts.size
  | .texts values => values.size
  | .bytes values => values.size
  | .objects values => values.size

theorem Cells.exists_item? {cells : Cells} {offset : Nat} (inside : offset < cells.size)
    : ∃ item, cells.item? offset = some item := by
  cases cells with
  | numbers own | complexes own | times own | texts own | bytes own | objects own =>
      have here : offset < own.size := inside
      simp [item?, here]

theorem Cells.size_of_doubles? {cells : Cells} {values : Array Float}
    (held : cells.doubles? = some values)
    : values.size = cells.size := by
  cases cells with
  | numbers _ | complexes _ | times _ =>
      obtain rfl := Option.some.inj held
      simp [size]
  | texts _ | bytes _ | objects _ => exact nomatch held

/-- A block of doubles holds the double that each cell is converted to in a block. -/
theorem Variable.inBlock_of_doubles? {stored : Variable} {values : Array Float}
    (held : stored.cells.doubles? = some values) (offset : Nat)
    : stored.inBlock offset = (values[offset]?).elim (raiseFault .badIndex) pure := by
  rw [inBlock, item]
  cases cells : stored.cells with
  | numbers own | complexes own | times own =>
      rw [cells] at held
      obtain rfl := Option.some.inj held
      cases inside : own[offset]? <;> simp [Cells.item?, inside, Item.inBlock, raiseFault]
  | texts _ | bytes _ | objects _ => exact nomatch (cells ▸ held :)

/-- What holds of all datasets that can be opened: numeric variables hold numbers, a variable
has as many cells as its dimensions make, and a dimension has one size.
-/
structure Dataset.Sound (dataset : Dataset) : Prop where
  numeric : ∀ stored ∈ dataset.fields, stored.element.isNumeric → ¬stored.holdsTexts
  filled : ∀ stored ∈ dataset.fields, stored.cells.size = Axis.cellCount stored.axes
  sizes : ∀ first ∈ dataset.fields, ∀ second ∈ dataset.fields,
    ∀ axis ∈ first.axes, ∀ other ∈ second.axes,
      axis.name = other.name → axis.size = other.size

namespace Variable

theorem doubles_of_not_holdsTexts {stored : Variable} (h : ¬stored.holdsTexts)
    : ∃ values, stored.cells.doubles? = some values := by
  rw [holdsTexts, Option.isNone_iff_eq_none] at h
  exact Option.ne_none_iff_exists'.mp h

/-- The number in a cell of the grid. -/
def numberAt (stored : Variable) (cell : CellIndex) : Float :=
  (stored.cells.doubles?.getD #[]).getD (rowMajor stored.axes cell) 0.0

end Variable

namespace Dataset

theorem mem_of_lookup? {dataset : Dataset} {name : String} {stored : Variable}
    (h : dataset.lookup? name = some stored)
    : stored ∈ dataset.fields ∧ stored.name = name :=
  ⟨List.mem_of_find?_eq_some h, by simpa using List.find?_some h⟩

theorem coordinate_eq_ok_iff {dataset : Dataset} {name : String} {values : Array Float}
    : dataset.coordinate name = .ok values
      ↔ ∃ stored,
          dataset.lookup? name = some stored
          ∧ stored.rank = 1
          ∧ stored.element.isNumeric
          ∧ stored.cells.doubles? = some values := by
  rw [coordinate]
  cases dataset.lookup? name with
  | none => simp
  | some stored =>
      by_cases hr : stored.rank = 1 <;> by_cases hn : stored.element.isNumeric <;>
        cases hc : stored.cells.doubles? <;> simp [hr, hn, hc, pure, Except.pure, raiseFault]

/-- In a sound dataset a dimension either has coordinates or may do without. -/
theorem Sound.coordinate? {dataset : Dataset} (sound : dataset.Sound) (name : String)
    : dataset.source.coordinate? name = .ok (dataset.coordinate name).toOption := by
  rw [Source.coordinate?, source]
  cases hl : dataset.lookup? name with
  | none => simp [coordinate, hl, Failure.meansNoCoordinate, Except.toOption]
  | some stored =>
      have numbers (hn : stored.element.isNumeric) :=
        Variable.doubles_of_not_holdsTexts (sound.numeric stored (mem_of_lookup? hl).1 hn)
      by_cases hr : stored.rank = 1 <;> by_cases hn : stored.element.isNumeric
      · obtain ⟨values, hc⟩ := numbers hn
        simp [coordinate, hl, hr, hn, hc, Except.toOption, pure, Except.pure]
      all_goals simp [coordinate, hl, hr, hn, Failure.meansNoCoordinate, Except.toOption]

theorem Sound.mapM_coordinate? {dataset : Dataset} (sound : dataset.Sound) (axes : List Axis)
    : (axes.map Axis.name).mapM dataset.source.coordinate?
      = .ok (axes.map fun axis => (dataset.coordinate axis.name).toOption) := by
  rw [List.mapM_map]
  exact Outcome.mapM_eq_ok_map fun axis _ => sound.coordinate? axis.name

/-- The coordinates along each dimension of a variable are as many as the dimension is long. -/
def Fits (dataset : Dataset) (stored : Variable) : Prop :=
  ∀ axis ∈ stored.axes, ∀ values,
    dataset.coordinate axis.name = .ok values → values.size = axis.size

/-- Coordinates are as many as the one dimension of their own variable is long. -/
theorem Sound.exists_axis_of_coordinate {dataset : Dataset} (sound : dataset.Sound)
    {name : String} {values : Array Float} (read : dataset.coordinate name = .ok values)
    : ∃ other own,
        dataset.lookup? name = some other
        ∧ other.element.isNumeric
        ∧ other.axes = [own]
        ∧ values.size = own.size := by
  obtain ⟨other, found, one, numeric, cells⟩ := coordinate_eq_ok_iff.mp read
  obtain ⟨own, single⟩ := List.length_eq_one_iff.mp one
  refine ⟨other, own, found, numeric, single, ?_⟩
  rw [Cells.size_of_doubles? cells, sound.filled other (mem_of_lookup? found).1, single]
  simp [Axis.cellCount]

/-- Coordinates fit a variable just if each of its dimensions is as long as the one along which the
variable of its name lies, if that is numeric and lies along one alone.
-/
theorem Sound.fits_iff {dataset : Dataset} (sound : dataset.Sound) {stored : Variable}
    : dataset.Fits stored
      ↔ ∀ axis ∈ stored.axes, ∀ other own,
          dataset.lookup? axis.name = some other
          → other.element.isNumeric
          → other.axes = [own]
          → own.size = axis.size := by
  constructor
  · intro fits axis hm other own found numeric single
    have hother := (mem_of_lookup? found).1
    obtain ⟨values, cells⟩ :=
      Variable.doubles_of_not_holdsTexts (sound.numeric other hother numeric)
    have read : dataset.coordinate axis.name = .ok values :=
      coordinate_eq_ok_iff.mpr ⟨other, found, by simp [Variable.rank, single], numeric, cells⟩
    obtain ⟨same, along, again, -, alone, size⟩ := sound.exists_axis_of_coordinate read
    obtain rfl := Option.some.inj (found.symm.trans again)
    obtain rfl := List.singleton_inj.mp (single.symm.trans alone)
    rw [← size, fits axis hm values read]
  · intro same axis hm values read
    obtain ⟨other, own, found, numeric, single, size⟩ := sound.exists_axis_of_coordinate read
    rw [size, same axis hm other own found numeric single]

/-- Coordinates that label the dimensions they are named after fit. -/
theorem Sound.fits_of_labels {dataset : Dataset} (sound : dataset.Sound) {stored : Variable}
    (hm : stored ∈ dataset.fields)
    (labels : ∀ axis ∈ stored.axes, ∀ other,
      dataset.lookup? axis.name = some other
      → other.element.isNumeric
      → other.rank = 1
      → other.isLabel)
    : dataset.Fits stored := by
  rw [sound.fits_iff]
  intro axis haxis other own found numeric single
  obtain ⟨hother, hname⟩ := mem_of_lookup? found
  have label := labels axis haxis other found numeric (by simp [Variable.rank, single])
  have named : own.name = axis.name := by simpa [Variable.isLabel, single, hname] using label
  exact sound.sizes other hother stored hm own (by simp [single]) axis haxis named

/-- A numeric variable that makes a table: it is found by its name and has a supported number of
different dimensions, none of its own name, and coordinates of a dimension lie along it.
-/
structure Tabular (dataset : Dataset) (stored : Variable) : Prop where
  found : dataset.lookup? stored.name = some stored
  numeric : stored.element.isNumeric
  supported : lowestRank ≤ stored.rank ∧ stored.rank ≤ highestRank
  distinct : (stored.axes.map Axis.name).Nodup
  apart : stored.name ∉ stored.axes.map Axis.name
  labels : ∀ axis ∈ stored.axes, ∀ other,
    dataset.lookup? axis.name = some other
    → other.element.isNumeric
    → other.rank = 1
    → other.isLabel

variable {dataset : Dataset} {stored : Variable}

theorem Tabular.checkSupportedRank (tabular : dataset.Tabular stored)
    : checkSupportedRank stored.name stored.axes.length = .ok () := by
  obtain ⟨low, high⟩ := tabular.supported
  rw [Variable.rank] at low high
  rw [GridTable.checkSupportedRank, checkRank, if_pos (by omega)]
  rfl

theorem Tabular.axesOf (tabular : dataset.Tabular stored)
    : dataset.source.axesOf stored.name = .ok stored.axes := by
  simp [source, Dataset.axesOf, find, tabular.found, pure, Except.pure]

/-- Coordinates along a dimension of the variable are as many as its size. -/
theorem Tabular.size_of_coordinate (tabular : dataset.Tabular stored) (sound : dataset.Sound)
    {axis : Axis} (hm : axis ∈ stored.axes) {values : Array Float}
    (h : dataset.coordinate axis.name = .ok values)
    : values.size = axis.size :=
  sound.fits_of_labels (mem_of_lookup? tabular.found).1 tabular.labels axis hm values h

theorem Tabular.inBlock_rowMajor (tabular : dataset.Tabular stored) (sound : dataset.Sound)
    {cell : CellIndex} (h : InGrid stored.axes cell)
    : stored.inBlock (rowMajor stored.axes cell) = .ok (stored.numberAt cell) := by
  have hm := (mem_of_lookup? tabular.found).1
  obtain ⟨values, hc⟩ :=
    Variable.doubles_of_not_holdsTexts (sound.numeric stored hm tabular.numeric)
  have inside : rowMajor stored.axes cell < values.size := by
    rw [Cells.size_of_doubles? hc, sound.filled stored hm]
    exact rowMajor_lt_cellCount h
  rw [Variable.inBlock_of_doubles? hc]
  simp [Variable.numberAt, hc, inside, pure, Except.pure]

/-- Cells of the grid that are read at once are found, unless the name of the dimension of the
read is taken.
-/
theorem Tabular.points_of_inGrid (tabular : dataset.Tabular stored) (sound : dataset.Sound)
    {cells : List CellIndex} (h : ∀ cell ∈ cells, InGrid stored.axes cell)
    : dataset.points stored.name cells
      = if cells ≠ [] ∧ dataset.isPointsTaken then
          readFailure ("batched read of '" ++ stored.name ++ "'") "" (some .badValue)
        else .ok (cells.map stored.numberAt) := by
  have readable : dataset.findReadable stored.name = .ok stored :=
    findReadable_eq_ok_iff.mpr ⟨tabular.found, tabular.checkSupportedRank⟩
  have whole : ∀ cell ∈ cells, cell.length = stored.rank :=
    fun cell hm => (h cell hm).length_eq
  have located : ∀ cell ∈ cells,
      Variable.locate? stored.axes cell = some (rowMajor stored.axes cell) :=
    fun cell hm => Variable.locate?_of_inGrid tabular.distinct (h cell hm)
  have lost : ¬∃ cell ∈ cells, stored.IsLost cell := by
    rintro ⟨cell, hm, hc⟩
    exact nomatch hc.symm.trans (located cell hm)
  have values : cells.mapM stored.valueAt = .ok (cells.map stored.numberAt) := by
    refine Outcome.mapM_eq_ok_map fun cell hm => ?_
    rw [Variable.valueAt, located cell hm, Option.elim_some]
    exact tabular.inBlock_rowMajor sound (h cell hm)
  rw [points_of_whole readable whole, if_neg lost, values]

end Dataset

end GridTable
