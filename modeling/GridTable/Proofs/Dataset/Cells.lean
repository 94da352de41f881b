import GridTable.Dataset.Reading
import GridTable.Proofs.Grid
import GridTable.Proofs.Keyed
import GridTable.Proofs.Outcome

/-! Reading cells of the grid from a dataset.
-/

namespace GridTable

theorem Axis.position?_of_inside {size : Nat} {index : Int} (h : 0 ≤ index ∧ index < size)
    : position? size index = some index.toNat := by
  rw [position?, if_pos h]

namespace Variable

/-- A cell of the grid is at its place in row-major order, by induction on the dimensions. -/
theorem offset?_of_inGrid {axes : List Axis} {cell : CellIndex} (h : InGrid axes cell)
    : offset? axes cell = some (rowMajor axes cell) := by
  induction h with
  | nil => rfl
  | cons hindex _ ih => simp [offset?, Axis.position?_of_inside hindex, ih, rowMajor]

/-- Where names differ, all indices of a cell count. -/
theorem settled_of_nodup {axes : List Axis} (hd : (axes.map Axis.name).Nodup)
    {cell : CellIndex} (hl : cell.length = axes.length)
    : settled axes cell = cell := by
  refine List.ext_getElem (by simp [settled, hl]) fun position hp hc => ?_
  have own := Keyed.find?_collect_zip hd (by simpa using hl) (by simpa [← hl] using hc) hc
  rw [List.getElem_map] at own
  simp only [settled, List.getElem_map, own, Option.getD_some]

theorem locate?_of_inGrid {axes : List Axis} (hd : (axes.map Axis.name).Nodup)
    {cell : CellIndex} (h : InGrid axes cell)
    : locate? axes cell = some (rowMajor axes cell) := by
  rw [locate?, settled_of_nodup hd h.length_eq, offset?_of_inGrid h]

/-- Where dimensions of one name have one size, the indices that count are in range as well. -/
theorem inGrid_settled {axes : List Axis} (consistent : Axis.Consistent axes)
    {cell : CellIndex} (h : InGrid axes cell)
    : InGrid axes (settled axes cell) := by
  refine List.forall₂_map_left_iff.mpr (List.forall₂_same.mpr fun axis hm => ?_)
  have named : axis.name ∈ Keyed.names ((axes.map Axis.name).zip cell) := by
    rw [Keyed.names, List.map_fst_zip (by simp [h.length_eq])]
    exact List.mem_map_of_mem hm
  obtain ⟨index, found, entry⟩ := Keyed.exists_find?_collect named
  obtain ⟨position, hp, same⟩ := List.mem_iff_getElem.mp entry
  obtain ⟨haxis, hcell⟩ : position < axes.length ∧ position < cell.length := by
    simpa [List.length_zip, Nat.lt_min] using hp
  obtain ⟨named, value⟩ : axes[position].name = axis.name ∧ cell[position] = index := by
    simpa using same
  have inside : 0 ≤ cell[position] ∧ cell[position] < axes[position].size :=
    h.get hcell haxis
  rw [found, Option.getD_some, ← value,
    ← consistent axes[position] (List.getElem_mem haxis) axis hm named]
  exact inside

/-- Each cell of the grid leads somewhere, whatever the names of the dimensions are. -/
theorem exists_locate?_of_inGrid {axes : List Axis} (consistent : Axis.Consistent axes)
    {cell : CellIndex} (h : InGrid axes cell)
    : ∃ offset, locate? axes cell = some offset :=
  ⟨_, offset?_of_inGrid (inGrid_settled consistent h)⟩

/-- Vectors of indices select the cells that their indices select one by one, by induction on the
dimensions.
-/
theorem selected?_map {axes : List Axis} {cells : List CellIndex}
    {index : Axis → CellIndex → Int}
    : selected? cells.length (axes.map fun axis => (axis, cells.map (index axis)))
      = cells.mapM fun cell => offset? axes (axes.map fun axis => index axis cell) := by
  induction axes with
  | nil =>
      have each : cells.mapM (fun _ => some 0) = some (cells.map fun _ => 0) :=
        Outcome.mapM_eq_pure_map fun _ _ => rfl
      simpa [selected?, offset?] using each.symm
  | cons axis axes ih =>
      have rest : (axes.map fun axis => (axis, cells.map (index axis))).map Prod.fst = axes := by
        simp [Function.comp_def]
      simp only [List.map_cons, selected?, offset?, ih, rest, List.mapM_map, Outcome.mapM_zipWith,
        Function.comp_def]

end Variable

namespace Dataset

/-- The vector of a dimension holds the indices that count along it. -/
theorem find?_indexVectors {axes : List Axis} {axis : Axis} (hm : axis ∈ axes)
    {cells : List CellIndex} (whole : ∀ cell ∈ cells, cell.length = axes.length)
    : Keyed.find? axis.name (indexVectors axes cells)
      = some (cells.map fun cell =>
          (Keyed.find? axis.name (Keyed.collect ((axes.map Axis.name).zip cell))).getD 0) := by
  have placed {α : Type} (change : Nat → α)
      : (axes.map Axis.name).zip ((List.range axes.length).map change)
        = ((axes.map Axis.name).zip (List.range axes.length)).map (Prod.map id change) := by
    rw [← List.zip_map, List.map_id]
  have named : axis.name ∈ Keyed.names ((axes.map Axis.name).zip (List.range axes.length)) := by
    rw [Keyed.names, List.map_fst_zip (by simp)]
    exact List.mem_map_of_mem hm
  obtain ⟨position, found, -⟩ := Keyed.exists_find?_collect named
  rw [indexVectors, placed, Keyed.collect_map, Keyed.find?_map, found, Option.map_some,
    Option.some.injEq]
  refine List.map_congr_left fun cell hcell => ?_
  have own : cell = (List.range axes.length).map fun position => cell.getD position 0 := by
    refine List.ext_getElem (by simp [whole cell hcell]) fun position hp _ => ?_
    simp [List.getD_eq_getElem?_getD, List.getElem?_eq_getElem hp]
  conv_rhs => rw [own]
  rw [placed, Keyed.collect_map, Keyed.find?_map, found, Option.map_some, Option.getD_some]

/-- Cells are selected along one dimension after the other just as they are located one by one. -/
theorem selected?_indexVectors (axes : List Axis) {cells : List CellIndex}
    (whole : ∀ cell ∈ cells, cell.length = axes.length)
    : Variable.selected? cells.length
        (axes.map fun axis =>
          (axis, (Keyed.find? axis.name (indexVectors axes cells)).getD []))
      = cells.mapM (Variable.locate? axes) := by
  have vectors : (axes.map fun axis =>
        (axis, (Keyed.find? axis.name (indexVectors axes cells)).getD []))
      = axes.map fun axis => (axis, cells.map fun cell =>
          (Keyed.find? axis.name (Keyed.collect ((axes.map Axis.name).zip cell))).getD 0) :=
    List.map_congr_left fun axis hm => by rw [find?_indexVectors hm whole, Option.getD_some]
  rw [vectors, Variable.selected?_map]
  rfl

end Dataset

end GridTable
