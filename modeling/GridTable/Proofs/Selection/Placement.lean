import GridTable.Selection

/-! Entries of a cell at some positions, and what placing values there changes.
Positions are taken in their own order, which need not be that of the cell.
-/

namespace GridTable.Selection

/-- The entries of a cell at some positions. -/
def entriesAt (positions : List Nat) (cell : CellIndex) : List Int :=
  positions.map fun position => cell.getD position 0

@[simp] theorem length_entriesAt (positions : List Nat) (cell : CellIndex)
    : (entriesAt positions cell).length = positions.length :=
  List.length_map _

theorem place_cons (position : Nat) (positions : List Nat) (value : Int) (values : List Int)
    (cell : CellIndex)
    : place (position :: positions) (value :: values) cell
      = place positions values (cell.set position value) :=
  rfl

@[simp] theorem length_place (positions : List Nat) (values : List Int) (cell : CellIndex)
    : (place positions values cell).length = cell.length := by
  induction positions generalizing values cell with
  | nil => rfl
  | cons position rest ih =>
      cases values with
      | nil => rfl
      | cons value values => rw [place_cons, ih, List.length_set]

/-- Placing changes no other position, by induction on the placed ones. -/
theorem getD_place_of_notMem {positions : List Nat} {position : Nat}
    (h : position ∉ positions) (values : List Int) (cell : CellIndex)
    : (place positions values cell).getD position 0 = cell.getD position 0 := by
  induction positions generalizing values cell with
  | nil => rfl
  | cons first rest ih =>
      obtain ⟨hne, hrest⟩ := not_or.mp (mt List.mem_cons.mpr h)
      cases values with
      | nil => rfl
      | cons value values =>
          rw [place_cons, ih hrest]
          simp [List.getD_eq_getElem?_getD, Ne.symm hne]

/-- Placed values are the entries at their positions, where each position occurs once: a
later value overwrites none of the earlier ones.
-/
theorem entriesAt_place {positions : List Nat} {values : List Int} {cell : CellIndex}
    (hd : positions.Nodup) (hin : ∀ position ∈ positions, position < cell.length)
    (hl : values.length = positions.length)
    : entriesAt positions (place positions values cell) = values := by
  induction positions generalizing values cell with
  | nil => exact (List.eq_nil_of_length_eq_zero hl).symm
  | cons position rest ih =>
      obtain ⟨hfresh, hrest⟩ := List.nodup_cons.mp hd
      cases values with
      | nil => simp at hl
      | cons value values =>
          have hp := hin position (by simp)
          have hrestIn : ∀ other ∈ rest, other < (cell.set position value).length :=
            fun other ho => by simpa using hin other (by simp [ho])
          have htail := ih hrest hrestIn (by simpa using hl)
          have hhead : (cell.set position value).getD position 0 = value := by
            simp [List.getD_eq_getElem?_getD, hp]
          rw [place_cons, entriesAt, List.map_cons, getD_place_of_notMem hfresh, hhead]
          exact congrArg (value :: ·) htail

theorem entriesAt_place_of_disjoint {positions others : List Nat}
    (h : ∀ position ∈ others, position ∉ positions) (values : List Int) (cell : CellIndex)
    : entriesAt others (place positions values cell) = entriesAt others cell :=
  List.map_congr_left fun position hp => getD_place_of_notMem (h position hp) values cell

/-- Cells are equal whose entries agree at two lists of positions that cover them. -/
theorem eq_of_entriesAt {left right : CellIndex} {first second : List Nat}
    (hl : left.length = right.length)
    (cover : ∀ position < left.length, position ∈ first ∨ position ∈ second)
    (hfirst : entriesAt first left = entriesAt first right)
    (hsecond : entriesAt second left = entriesAt second right)
    : left = right := by
  refine List.ext_getElem hl fun position hp hq => ?_
  have agree : left.getD position 0 = right.getD position 0 := by
    rcases cover position hp with hm | hm
    · exact List.map_inj_left.mp hfirst position hm
    · exact List.map_inj_left.mp hsecond position hm
  simpa [List.getD_eq_getElem?_getD, hp, hq] using agree

end GridTable.Selection
