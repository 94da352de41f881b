import GridTable.Dataset.Address
import GridTable.Proofs.Dataset.Sound

/-! Addresses of integers that are given as JSON values lead to the cells of the same indices.
-/

namespace GridTable

open Outcome

namespace Variable

-----------------------------------------------------------------------------------------
-- Indices that are words
-----------------------------------------------------------------------------------------

/-- Indices lead to a cell just if each is in range, by list induction. -/
theorem isSome_offset?_iff {axes : List Axis} {index : Axis → Int}
    : (offset? axes (axes.map index)).isSome ↔ ∀ axis ∈ axes, isInRange axis.size (index axis) := by
  induction axes with
  | nil => simp [offset?]
  | cons axis rest ih =>
      rw [List.forall_mem_cons, ← ih, List.map_cons, offset?, isInRange]
      cases Axis.position? axis.size (index axis) with
      | none => simp
      | some position => cases offset? rest (rest.map index) <;> simp

/-- Of words only those out of range lead nowhere. -/
theorem indicesFault?_of_words (stored : Variable) {axes : List Axis} {index : Axis → Int}
    (words : ∀ axis ∈ axes, fitsWord (index axis))
    : stored.indicesFault? (axes.map fun axis => (axis, index axis))
      = if (offset? axes (axes.map index)).isSome then none else some .badIndex := by
  have fitting : (axes.map fun axis => (axis, index axis)).findSome?
      (fun entry => stored.wordFault? entry.2) = none := by
    simpa [List.findSome?_eq_none_iff, wordFault?] using
      fun axis hm unfit => absurd (words axis hm) (by simp [unfit])
  simp only [indicesFault?, fitting, isSome_offset?_iff]
  simp

/-- Picks of single places are looked up as indices. -/
theorem pickFault?_of_ones (stored : Variable) {picks : List (String × Pick)}
    {index : Axis → Int}
    (ones : ∀ axis ∈ stored.axes, Keyed.find? axis.name picks = some (.one (index axis)))
    : stored.pickFault? picks
      = stored.indicesFault? (stored.axes.map fun axis => (axis, index axis)) := by
  have concerned : stored.concerned picks
      = stored.axes.map fun axis => (axis, .one (index axis)) := by
    refine List.map_congr_left fun axis hm => ?_
    rw [ones axis hm, Option.getD_some]
  have indices : (stored.axes.map fun axis => (axis, Pick.one (index axis))).mapM
      (fun entry => entry.2.index?.map fun index => (entry.1, index))
      = some (stored.axes.map fun axis => (axis, index axis)) := by
    rw [List.mapM_map]
    exact mapM_eq_pure_map fun axis _ => rfl
  rw [pickFault?, concerned]
  split
  next given found =>
      rw [Option.some.inj (found.symm.trans indices)]
  next unfound =>
      exact absurd (unfound.symm.trans indices) (Option.some_ne_none _).symm

theorem pickAlong_int (stored : Variable) (name : String) (index : Int)
    : stored.pickAlong name (.int index) = .ok (.one index) := by
  cases held : stored.axes.find? (·.name == name) <;>
    simp [pickAlong, Pick.ofEntry, Pick.choicesFault?, held, Pure.pure, Except.pure]

end Variable

namespace Dataset

variable {dataset : Dataset} {field : String} {stored : Variable} {cell : CellIndex}

-----------------------------------------------------------------------------------------
-- Addresses of integers
-----------------------------------------------------------------------------------------

/-- The indices of a cell as a JSON value. -/
def addressOf (cell : CellIndex) : Json :=
  .arr (cell.map .int)

/-- The indices of a cell by the names of their dimensions. -/
def namedIndices (axes : List Axis) (cell : CellIndex) : List (String × Int) :=
  Keyed.collect ((axes.map Axis.name).zip cell)

/-- The index that counts along a dimension. -/
def indexAlong (axes : List Axis) (cell : CellIndex) (axis : Axis) : Int :=
  (Keyed.find? axis.name (namedIndices axes cell)).getD 0

theorem locate?_eq (axes : List Axis) (cell : CellIndex)
    : Variable.locate? axes cell = Variable.offset? axes (axes.map (indexAlong axes cell)) :=
  rfl

theorem find?_namedIndices {axes : List Axis} (whole : cell.length = axes.length) {axis : Axis}
    (named : axis.name ∈ axes.map Axis.name)
    : Keyed.find? axis.name (namedIndices axes cell) = some (indexAlong axes cell axis) := by
  have own : axis.name ∈ Keyed.names ((axes.map Axis.name).zip cell) := by
    rwa [Keyed.names, List.map_fst_zip (by simp [whole])]
  obtain ⟨index, found, -⟩ := Keyed.exists_find?_collect own
  rw [indexAlong, namedIndices, found, Option.getD_some]

theorem fitsWord_indexAlong {axes : List Axis} (words : ∀ index ∈ cell, fitsWord index)
    (axis : Axis)
    : fitsWord (indexAlong axes cell axis) := by
  rw [indexAlong]
  cases found : Keyed.find? axis.name (namedIndices axes cell) with
  | none => decide
  | some index =>
      exact words index (List.of_mem_zip (Keyed.mem_of_mem_collect (Keyed.mem_of_find? found))).2

theorem cellFault_of_words (words : ∀ index ∈ cell, fitsWord index)
    (lost : Variable.locate? stored.axes cell = none)
    : stored.cellFault cell = .badIndex := by
  have zipped : stored.axes.zip (Variable.settled stored.axes cell)
      = stored.axes.map fun axis => (axis, indexAlong stored.axes cell axis) :=
    List.map_prod_left_eq_zip.symm
  have nowhere : ¬(Variable.offset? stored.axes
      (stored.axes.map (indexAlong stored.axes cell))).isSome := by
    rw [← locate?_eq, lost]
    simp
  rw [Variable.cellFault, zipped,
    stored.indicesFault?_of_words fun axis _ => fitsWord_indexAlong words axis, if_neg nowhere,
    Option.getD_some]

/-- The picks of an address of integers, by the names of the dimensions. -/
def onesOf (axes : List Axis) (cell : CellIndex) : List (String × Pick) :=
  (namedIndices axes cell).map (Prod.map id .one)

theorem pickFault?_onesOf (other : Variable) {axes : List Axis}
    (words : ∀ index ∈ cell, fitsWord index) (whole : cell.length = axes.length)
    (along : ∀ axis ∈ other.axes, axis.name ∈ axes.map Axis.name)
    : other.pickFault? (onesOf axes cell)
      = if (Variable.offset? other.axes (other.axes.map (indexAlong axes cell))).isSome then none
        else some .badIndex := by
  have ones : ∀ axis ∈ other.axes,
      Keyed.find? axis.name (onesOf axes cell) = some (.one (indexAlong axes cell axis)) := by
    intro axis hm
    rw [onesOf, Keyed.find?_map, find?_namedIndices whole (along axis hm), Option.map_some]
  rw [other.pickFault?_of_ones ones,
    other.indicesFault?_of_words fun axis _ => fitsWord_indexAlong words axis]

theorem mem_attached {other : Variable}
    : other ∈ dataset.attached stored
      ↔ other ∈ dataset.fields
        ∧ (other.isCoordinate || other.isLabel)
        ∧ ∀ axis ∈ other.axes, ∃ same ∈ stored.axes, same.name = axis.name := by
  simp [attached, List.all_eq_true, List.any_eq_true]

/-- Where a cell is found, so is what describes it. -/
theorem describingFault?_onesOf (sound : dataset.Sound) (hm : stored ∈ dataset.fields)
    (words : ∀ index ∈ cell, fitsWord index) (whole : cell.length = stored.axes.length)
    (located : (Variable.locate? stored.axes cell).isSome)
    : dataset.describingFault? stored (onesOf stored.axes cell) = none := by
  have single (name : String)
      : ((Keyed.find? name (onesOf stored.axes cell)).getD .nothing).isList = false := by
    rw [onesOf, Keyed.find?_map]
    cases Keyed.find? name (namedIndices stored.axes cell) <;> rfl
  have fine : ∀ other ∈ dataset.attached stored,
      other.pickFault? (onesOf stored.axes cell) = none := by
    intro other attached
    obtain ⟨own, -, along⟩ := mem_attached.mp attached
    have inside : ∀ axis ∈ other.axes,
        Variable.isInRange axis.size (indexAlong stored.axes cell axis) := by
      intro axis haxis
      obtain ⟨same, hsame, named⟩ := along axis haxis
      have here : Variable.isInRange same.size (indexAlong stored.axes cell same) :=
        Variable.isSome_offset?_iff.mp located same hsame
      have size := sound.sizes stored hm other own same hsame axis haxis named
      rwa [size, indexAlong, named] at here
    rw [pickFault?_onesOf other words whole fun axis haxis => ?_,
      if_pos (Variable.isSome_offset?_iff.mpr inside)]
    obtain ⟨same, hsame, named⟩ := along axis haxis
    exact named ▸ List.mem_map_of_mem hsame
  simpa [describingFault?, single, List.findSome?_eq_none_iff] using fine

theorem positionalPicks_ints (sound : dataset.Sound) (hm : stored ∈ dataset.fields)
    (words : ∀ index ∈ cell, fitsWord index) (whole : cell.length = stored.axes.length)
    : dataset.positionalPicks stored ((namedIndices stored.axes cell).map (Prod.map id .int))
      = if (Variable.locate? stored.axes cell).isSome then .ok (onesOf stored.axes cell)
        else .error .badIndex := by
  have picked : ((namedIndices stored.axes cell).map (Prod.map id .int)).mapM
      (fun entry : String × Json => do
        let pick ← stored.pickAlong entry.1 entry.2
        pure (entry.1, pick))
      = .ok (onesOf stored.axes cell) := by
    rw [List.mapM_map, onesOf]
    refine mapM_eq_ok_map fun entry _ => ?_
    change (do
      let pick ← stored.pickAlong entry.1 (.int entry.2)
      pure (entry.1, pick)) = _
    rw [stored.pickAlong_int]
    rfl
  have unmixed
      : dataset.mixtureFault? stored ((namedIndices stored.axes cell).map (Prod.map id .int))
        = none := by
    have none (name : String)
        : (Keyed.find? name ((namedIndices stored.axes cell).map (Prod.map id .int))).any isMixed
          = false := by
      rw [Keyed.find?_map]
      cases Keyed.find? name (namedIndices stored.axes cell) <;> rfl
    simp [mixtureFault?, none]
  have along : ∀ axis ∈ stored.axes, axis.name ∈ stored.axes.map Axis.name :=
    fun axis hm => List.mem_map_of_mem hm
  have own := pickFault?_onesOf stored words whole along
  refine (congrArg (· >>= _) picked).trans ?_
  rw [ok_bind, own, unmixed, ← locate?_eq]
  by_cases located : (Variable.locate? stored.axes cell).isSome
  · rw [if_pos located, if_pos located, describingFault?_onesOf sound hm words whole located]
    rfl
  · rw [if_neg located, if_neg located]
    rfl

/-- An address of integers gives the offset of the cell of these indices. -/
theorem givenOffset_ints (sound : dataset.Sound) (hm : stored ∈ dataset.fields)
    (words : ∀ index ∈ cell, fitsWord index) (whole : cell.length = stored.axes.length)
    : dataset.givenOffset stored (cell.map .int)
      = (Variable.locate? stored.axes cell).elim (.error .badIndex) fun offset =>
          .ok (some offset) := by
  have entries : Keyed.collect ((stored.axes.map Axis.name).zip (cell.map Json.int))
      = (namedIndices stored.axes cell).map (Prod.map id .int) := by
    rw [namedIndices, ← Keyed.collect_map, ← List.zip_map, List.map_id]
  have positional
      : ((namedIndices stored.axes cell).map (Prod.map id Json.int)).all
          (fun entry => isPositional entry.2) = true := by
    simp [isPositional]
  have concerned : (stored.concerned (onesOf stored.axes cell)).mapM (fun entry => entry.2.index?)
      = some (Variable.settled stored.axes cell) := by
    rw [Variable.concerned, List.mapM_map]
    refine mapM_eq_pure_map fun axis hm => ?_
    have own := find?_namedIndices whole (List.mem_map_of_mem (f := Axis.name) hm)
    rw [Function.comp_apply, onesOf, Keyed.find?_map, own]
    rfl
  rw [givenOffset, entries, if_pos, positionalPicks_ints sound hm words whole]
  · cases located : Variable.locate? stored.axes cell with
    | none => rfl
    | some offset =>
        have found : (some (Variable.settled stored.axes cell)).bind
            (Variable.offset? stored.axes) = some offset := located
        have bound := congrArg
          (fun found : Option CellIndex => found.bind (Variable.offset? stored.axes)) concerned
        exact congrArg Except.ok (bound.trans found)
  · exact positional

/-- An address of integers leads to the cell of these indices, and where there is none to the same
complaint.
-/
theorem scalarGiven_addressOf (sound : dataset.Sound) (levels : Nat)
    (words : ∀ index ∈ cell, fitsWord index)
    : dataset.scalarGiven levels field (addressOf cell) = dataset.scalar field cell := by
  have items : (addressOf cell).items = .ok (cell.map .int) := rfl
  have shown : (cell.map Json.int).mapM (Json.shown levels) = cell.mapM Decimal.integerText := by
    rw [List.mapM_map]
    exact mapM_congr fun index _ => by simp [Json.shown]
  rw [scalarGiven, scalar]
  cases readable : dataset.findReadable field with
  | error failure => rfl
  | ok stored =>
      have hm := (mem_of_lookup? (findReadable_eq_ok_iff.mp readable).1).1
      simp only [ok_bind, items, shown, List.length_map]
      by_cases whole : cell.length = stored.rank
      · rw [checkEntryCount, if_pos whole, givenOffset_ints sound hm words whole]
        cases located : Variable.locate? stored.axes cell with
        | some offset => rfl
        | none =>
            rw [cellFault_of_words words located]
            rfl
      · rw [checkEntryCount, if_neg whole]
        cases cell.mapM Decimal.integerText <;> rfl

/-- Addresses of integers are read one by one as the cells of these indices. -/
theorem pointsGivenOneByOne_addressOf (sound : dataset.Sound) (levels : Nat)
    {cells : List CellIndex} (words : ∀ cell ∈ cells, ∀ index ∈ cell, fitsWord index)
    : dataset.pointsGivenOneByOne levels field (.arr (cells.map addressOf))
      = dataset.pointsOneByOne field cells := by
  have items : (Json.arr (cells.map addressOf)).items = .ok (cells.map addressOf) := rfl
  rw [pointsGivenOneByOne, items, ok_bind, pointsOneByOne, List.mapM_map]
  exact mapM_congr fun cell hm => scalarGiven_addressOf sound levels (words cell hm)

end Dataset

end GridTable
