import GridTable.Axis
import Mathlib.Data.List.Forall2
import Mathlib.Data.List.Nodup

/-! Cells of a grid and their entries by the names of dimensions.
-/

namespace GridTable

/-- A cell of the grid over some dimensions has one index in range for each of them. -/
def InGrid (axes : List Axis) (cell : CellIndex) : Prop :=
  List.Forall₂ (fun index axis => 0 ≤ index ∧ index < axis.size) cell axes

instance (axes : List Axis) (cell : CellIndex) : Decidable (InGrid axes cell) :=
  inferInstanceAs (Decidable (List.Forall₂ _ cell axes))

theorem InGrid.getD_nonneg {axes : List Axis} {cell : CellIndex} (h : InGrid axes cell)
    (position : Nat)
    : 0 ≤ cell.getD position 0 := by
  rw [List.getD_eq_getElem?_getD]
  by_cases hp : position < cell.length
  · rw [List.getElem?_eq_getElem hp, Option.getD_some]
    exact (h.get hp (h.length_eq ▸ hp)).1
  · rw [List.getElem?_eq_none (Nat.not_lt.mp hp)]
    exact Int.le_refl 0

/-- Of dimensions with one name all have one size. -/
def Axis.Consistent (axes : List Axis) : Prop :=
  ∀ axis ∈ axes, ∀ other ∈ axes, axis.name = other.name → axis.size = other.size

theorem Axis.consistent_of_nodup {axes : List Axis} (hd : (axes.map Axis.name).Nodup)
    : Axis.Consistent axes := by
  intro axis hm other ho same
  rw [List.inj_on_of_nodup_map hd hm ho same]

/-- The place of a cell among those of the grid in row-major order. -/
def rowMajor : List Axis → CellIndex → Nat
  | _ :: axes, index :: rest => index.toNat * Axis.cellCount axes + rowMajor axes rest
  | _, _ => 0

/-- Each cell of the grid has its place among as many as there are, by induction on the
dimensions.
-/
theorem rowMajor_lt_cellCount {axes : List Axis} {cell : CellIndex} (h : InGrid axes cell)
    : rowMajor axes cell < Axis.cellCount axes := by
  induction h with
  | nil => exact Nat.one_pos
  | @cons index axis rest axes hindex _ ih =>
      have below : index.toNat + 1 ≤ axis.size := by omega
      calc rowMajor (axis :: axes) (index :: rest)
        _ = index.toNat * Axis.cellCount axes + rowMajor axes rest := rfl
        _ < index.toNat * Axis.cellCount axes + Axis.cellCount axes := by omega
        _ = (index.toNat + 1) * Axis.cellCount axes := (Nat.succ_mul _ _).symm
        _ ≤ axis.size * Axis.cellCount axes := Nat.mul_le_mul_right _ below

/-- The cell at a place in row-major order: its indices are the digits of the place, those of later
dimensions counting less.
-/
def cellAt : List Axis → Nat → CellIndex
  | [], _ => []
  | axis :: axes, place => ↑(place / Axis.cellCount axes % axis.size) :: cellAt axes place

/-- The digit of a dimension depends on the sizes of later ones, by induction on the dimensions. -/
theorem getD_cellAt {axes : List Axis} (place : Nat) {position : Nat}
    (hp : position < axes.length)
    : (cellAt axes place).getD position 0
      = ↑(place / Axis.cellCount (axes.drop (position + 1)) % axes[position].size) := by
  induction axes generalizing position with
  | nil => simp at hp
  | cons axis axes ih =>
      cases position with
      | zero => simp [cellAt]
      | succ position => simpa [cellAt] using ih (by simpa using hp)

/-- The cell at a place is there, by induction on the dimensions. -/
theorem rowMajor_cellAt (axes : List Axis) (place : Nat)
    : rowMajor axes (cellAt axes place) = place % Axis.cellCount axes := by
  induction axes with
  | nil => exact (Nat.mod_one place).symm
  | cons axis axes ih =>
      calc rowMajor (axis :: axes) (cellAt (axis :: axes) place)
        _ = place / Axis.cellCount axes % axis.size * Axis.cellCount axes
              + place % Axis.cellCount axes := by
            rw [cellAt, rowMajor, ih, Int.toNat_natCast]
        _ = place % (Axis.cellCount axes * axis.size) := by
            rw [Nat.mod_mul, Nat.mul_comm, Nat.add_comm]
        _ = place % Axis.cellCount (axis :: axes) := by
            rw [Nat.mul_comm]
            rfl

/-- Places beyond the last one begin anew, by induction on the dimensions. -/
theorem cellAt_mod (axes : List Axis) (place : Nat)
    : cellAt axes (place % Axis.cellCount axes) = cellAt axes place := by
  induction axes generalizing place with
  | nil => rfl
  | cons axis axes ih =>
      have first : place % Axis.cellCount (axis :: axes) / Axis.cellCount axes % axis.size
          = place / Axis.cellCount axes % axis.size := by
        change place % (axis.size * Axis.cellCount axes) / _ % _ = _
        rw [Nat.mod_mul_left_div_self, Nat.mod_mod]
      have others : cellAt axes (place % Axis.cellCount (axis :: axes)) = cellAt axes place := by
        change cellAt axes (place % (axis.size * Axis.cellCount axes)) = _
        rw [← ih, Nat.mod_mul_left_mod, ih]
      rw [cellAt, cellAt, first, others]

/-- The places with one index along the first dimension are a block: offsets in it are places along
the other dimensions.
-/
theorem cellAt_cons_block {axis : Axis} {axes : List Axis} {block offset : Nat}
    (hb : block < axis.size) (ho : offset < Axis.cellCount axes)
    : cellAt (axis :: axes) (block * Axis.cellCount axes + offset)
      = ↑block :: cellAt axes offset := by
  have first : (block * Axis.cellCount axes + offset) / Axis.cellCount axes = block :=
    Nat.div_eq_of_lt_le (by omega) (by rw [Nat.succ_mul]; omega)
  have others : (block * Axis.cellCount axes + offset) % Axis.cellCount axes = offset := by
    rw [Nat.mul_add_mod_self_right, Nat.mod_eq_of_lt ho]
  rw [cellAt, first, Nat.mod_eq_of_lt hb, ← cellAt_mod, others]

/-- All cells of the grid in row-major order. -/
def allCells (axes : List Axis) : List CellIndex :=
  (List.range (Axis.cellCount axes)).map (cellAt axes)

@[simp] theorem length_allCells (axes : List Axis)
    : (allCells axes).length = Axis.cellCount axes := by
  simp [allCells]

theorem getElem_allCells {axes : List Axis} {place : Nat} (h : place < (allCells axes).length)
    : (allCells axes)[place] = cellAt axes place := by
  simp [allCells]

/-- The index of a cell along a dimension. -/
def entryAlong (dimensions : List String) (cell : CellIndex) (name : String) : Int :=
  cell.getD (dimensions.idxOf name) 0

/-- The entry at a position is the one along its dimension, where names differ. -/
theorem entryAlong_getElem {dimensions : List String} (hd : dimensions.Nodup)
    (cell : CellIndex) {position : Nat} (hp : position < dimensions.length)
    : entryAlong dimensions cell dimensions[position] = cell.getD position 0 := by
  rw [entryAlong, hd.idxOf_getElem position hp]

/-- Along a dimension the cell at a place has the digit of the place, where names differ. -/
theorem entryAlong_cellAt {axes : List Axis} (hd : (axes.map Axis.name).Nodup) (place : Nat)
    {position : Nat} (hp : position < axes.length)
    : entryAlong (axes.map Axis.name) (cellAt axes place) axes[position].name
      = ↑(place / Axis.cellCount (axes.drop (position + 1)) % axes[position].size) := by
  have along := entryAlong_getElem hd (cellAt axes place) (by simpa using hp)
  rw [List.getElem_map] at along
  rw [along, getD_cellAt place hp]

/-- A condition on each entry and what belongs to its dimension can be asked by name, where
names differ.
-/
theorem forall₂_iff_entryAlong {α : Type} (nameOf : α → String) {holds : Int → α → Prop}
    {items : List α} (hd : (items.map nameOf).Nodup) {cell : CellIndex}
    : List.Forall₂ holds cell items
      ↔ cell.length = items.length
        ∧ ∀ item ∈ items,
            holds (entryAlong (items.map nameOf) cell (nameOf item)) item := by
  have entry {position : Nat} (hp : position < items.length) (hc : position < cell.length)
      : entryAlong (items.map nameOf) cell (nameOf items[position]) = cell[position] := by
    have along := entryAlong_getElem hd cell (by simpa using hp)
    simpa [List.getD_eq_getElem?_getD, hc] using along
  rw [List.forall₂_iff_get]
  refine and_congr_right fun hl => ⟨fun h item hm => ?_, fun h position hc hp => ?_⟩
  · obtain ⟨position, hp, rfl⟩ := List.mem_iff_getElem.mp hm
    rw [entry hp (hl ▸ hp)]
    exact h position (hl ▸ hp) hp
  · rw [List.get_eq_getElem, ← entry hp hc]
    exact h _ (List.getElem_mem hp)

end GridTable
