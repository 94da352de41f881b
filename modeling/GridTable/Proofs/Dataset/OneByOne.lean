import GridTable.Proofs.Dataset.Points
import GridTable.Proofs.Extraction.FullScan

/-! Reading cells at once and one by one: both read the same cells with the same values, unless a
coordinate takes the name of the dimension of a read, or a cell is such that it is a number only
within a block.
-/

namespace GridTable

/-- What is converted to a number only within a block: complex numbers and what is missing. -/
inductive Item.IsBlockOnly : Item → Prop
  | complex (real imaginary : Float) : IsBlockOnly (.complex real imaginary)
  | time : IsBlockOnly (.time noTime)
  | object : IsBlockOnly (.object .null)

/-- A cell alone is converted like one within a block, but for those that can only be converted
there.
-/
theorem Item.alone_eq_ok_iff {item : Item} {value : Float}
    : item.alone = .ok value ↔ item.inBlock = .ok value ∧ ¬item.IsBlockOnly := by
  have kept (other : ¬item.IsBlockOnly) (same : item.alone = .ok value ↔ item.inBlock = .ok value)
      : item.alone = .ok value ↔ item.inBlock = .ok value ∧ ¬item.IsBlockOnly := by
    rw [same, and_iff_left other]
  have lost (blockOnly : item.IsBlockOnly) (failed : item.alone = raiseFault .badType)
      : item.alone = .ok value ↔ item.inBlock = .ok value ∧ ¬item.IsBlockOnly :=
    iff_of_false (by rw [failed]; rintro ⟨⟩) fun both => both.2 blockOnly
  cases item with
  | number | text | bytes => exact kept (by rintro ⟨⟩) Iff.rfl
  | complex real imaginary => exact lost (.complex real imaginary) rfl
  | time count =>
      by_cases none : count = noTime
      · subst none
        exact lost .time (by rw [alone, if_pos rfl])
      · refine kept (fun blockOnly => ?_) (by rw [alone, if_neg none, inBlock])
        cases blockOnly
        exact none rfl
  | object value =>
      cases value with
      | null => exact lost .object rfl
      | arr items => exact kept (by rintro ⟨⟩) (iff_of_false (by rintro ⟨⟩) (by rintro ⟨⟩))
      | bool | int | float | str | obj => exact kept (by rintro ⟨⟩) Iff.rfl

namespace Variable

variable {stored : Variable}

/-- Indices that lead to a cell which is a number only within a block. -/
def IsBlockOnly (stored : Variable) (cell : CellIndex) : Prop :=
  ∃ offset item,
    locate? stored.axes cell = some offset
    ∧ stored.cells.item? offset = some item
    ∧ item.IsBlockOnly

theorem alone_eq_ok_iff {cell : CellIndex} {offset : Nat} (here : locate? stored.axes cell = offset)
    {value : Float}
    : stored.alone offset = .ok value
      ↔ stored.valueAt cell = .ok value ∧ ¬stored.IsBlockOnly cell := by
  rw [valueAt, here, Option.elim_some, alone, inBlock, item]
  cases held : stored.cells.item? offset with
  | none => simp [raiseFault]
  | some item =>
      have same : stored.IsBlockOnly cell ↔ item.IsBlockOnly := by
        constructor
        · rintro ⟨place, other, located, found, blockOnly⟩
          obtain rfl := Option.some.inj (here.symm.trans located)
          obtain rfl := Option.some.inj (held.symm.trans found)
          exact blockOnly
        · exact fun blockOnly => ⟨offset, item, here, held, blockOnly⟩
      rw [same]
      exact Item.alone_eq_ok_iff

end Variable

namespace Dataset

variable {dataset : Dataset} {field : String} {stored : Variable}

/-- A cell with one index per dimension can be read alone just if it is found and is a number on its
own.
-/
theorem scalar_eq_ok_iff (readable : dataset.findReadable field = .ok stored)
    {cell : CellIndex} (whole : cell.length = stored.rank) {value : Float}
    : dataset.scalar field cell = .ok value
      ↔ stored.valueAt cell = .ok value ∧ ¬stored.IsBlockOnly cell := by
  simp only [scalar, readable, Outcome.ok_bind, checkEntryCount, if_pos whole, pure_bind]
  cases located : Variable.locate? stored.axes cell with
  | none =>
      refine iff_of_false (fun read => ?_) (by simp [Variable.valueAt, located, raiseFault])
      obtain ⟨shown, -, failed⟩ := Outcome.bind_eq_ok_iff.mp read
      cases failed
  | some offset => exact Variable.alone_eq_ok_iff located

/-- Cells are read one by one just if they can be read at once and are all numbers on their own, by
list induction.
-/
theorem pointsOneByOne_eq_ok_iff (readable : dataset.findReadable field = .ok stored)
    {cells : List CellIndex} (whole : ∀ cell ∈ cells, cell.length = stored.rank)
    {values : List Float}
    : dataset.pointsOneByOne field cells = .ok values
      ↔ cells.mapM stored.valueAt = .ok values ∧ ∀ cell ∈ cells, ¬stored.IsBlockOnly cell := by
  rw [pointsOneByOne]
  induction cells generalizing values with
  | nil => simp
  | cons cell rest ih =>
      obtain ⟨first, others⟩ := List.forall_mem_cons.mp whole
      simp only [List.mapM_cons, Outcome.bind_eq_ok_iff, Outcome.pure_eq_ok_iff,
        scalar_eq_ok_iff readable first, ih others, List.forall_mem_cons]
      constructor
      · rintro ⟨value, ⟨own, alone⟩, later, ⟨read, each⟩, rfl⟩
        exact ⟨⟨value, own, later, read, rfl⟩, alone, each⟩
      · rintro ⟨⟨value, own, later, read, rfl⟩, alone, each⟩
        exact ⟨value, ⟨own, alone⟩, later, ⟨read, each⟩, rfl⟩

/-- Cells that are read are found. -/
theorem not_isLost_of_mapM_valueAt {cells : List CellIndex} {values : List Float}
    (read : cells.mapM stored.valueAt = .ok values)
    : ¬∃ cell ∈ cells, stored.IsLost cell := by
  rintro ⟨cell, hm, lost⟩
  obtain ⟨value, own⟩ := Outcome.exists_answer_of_mem read hm
  rw [Variable.valueAt, lost] at own
  cases own

/-- Cells with one index per dimension, all of them numbers on their own, are read at once just if
they are read one by one, with the same values in the same order. Only where a coordinate without a
dimension takes the name of the dimension of a read can none be read at once, and that is an error
of the program. Other cells are never read one by one.
-/
theorem points_agree_with_scalar_reads (found : dataset.lookup? field = some stored)
    (supported : lowestRank ≤ stored.rank ∧ stored.rank ≤ highestRank)
    {cells : List CellIndex} (whole : ∀ cell ∈ cells, cell.length = stored.rank)
    : (∀ values,
        dataset.scalarSource.points field cells = .ok values
          ∧ (cells = [] ∨ ¬dataset.isPointsTaken)
        ↔ dataset.source.points field cells = .ok values
          ∧ ∀ cell ∈ cells, ¬stored.IsBlockOnly cell)
      ∧ (cells ≠ []
        → dataset.isPointsTaken
        → ∃ fault,
            dataset.source.points field cells
            = readFailure ("batched read of '" ++ field ++ "'") "" (some fault)) := by
  have readable : dataset.findReadable field = .ok stored :=
    findReadable_eq_ok_iff.mpr ⟨found, checkSupportedRank_eq_ok_iff.mpr supported⟩
  have atOnce : dataset.source.points field cells = _ := points_of_whole readable whole
  constructor
  · intro values
    have single : dataset.scalarSource.points field cells = .ok values ↔ _ :=
      pointsOneByOne_eq_ok_iff readable whole
    rw [atOnce, single]
    by_cases lost : ∃ cell ∈ cells, stored.IsLost cell
    · rw [if_pos lost]
      refine iff_of_false (fun read => ?_) nofun
      exact not_isLost_of_mapM_valueAt read.1.1 lost
    rw [if_neg lost]
    by_cases blocked : cells ≠ [] ∧ dataset.isPointsTaken
    · rw [if_pos blocked]
      refine iff_of_false (fun read => ?_) nofun
      exact read.2.elim blocked.1 fun free => free blocked.2
    · have free : cells = [] ∨ ¬dataset.isPointsTaken := by
        rwa [not_and_or, ne_eq, not_not] at blocked
      rw [if_neg blocked, and_iff_left free]
  · intro filled taken
    rw [atOnce, if_pos (⟨filled, taken⟩ : cells ≠ [] ∧ dataset.isPointsTaken)]
    split
    · exact ⟨_, rfl⟩
    · exact ⟨_, rfl⟩

/-- Indices that count from the start and from the end are read at once as they are one by one. -/
theorem points_agree_with_scalar_reads_sample
    : (sample "height").source.points "v" [[2, 1], [-1, 0], [0, -2]] = .ok [6.0, 5.0, 1.0]
      ∧ ¬∃ values, (sample "height").scalarSource.points "v" [[2, 1], [-4, 0]] = .ok values := by
  obtain ⟨inside, -⟩ := points_agree_with_scalar_reads
    (rfl : (sample "height").lookup? "v" = some sampled) (by decide)
    (by decide : ∀ cell ∈ [[2, 1], [-1, 0], [0, -2]], cell.length = sampled.rank)
  obtain ⟨outside, -⟩ := points_agree_with_scalar_reads
    (rfl : (sample "height").lookup? "v" = some sampled) (by decide)
    (by decide : ∀ cell ∈ [[2, 1], [-4, 0]], cell.length = sampled.rank)
  have free : ¬(sample "height").isPointsTaken := by decide
  constructor
  · exact ((inside _).mp ⟨rfl, Or.inr free⟩).1
  · intro all
    obtain ⟨values, read⟩ := all
    exact nomatch ((outside values).mp ⟨read, Or.inr free⟩).1

/-- A complex number along a dimension. -/
def unwieldy : Dataset where
  fields := [⟨"c", [⟨"x", 1⟩], .complex128, .complexes #[(1.0, 2.0)], false, []⟩]

/-- A coordinate without a dimension has the name of the dimension of a read: then a cell that can
be read alone cannot be read at once. A complex number can be read at once, but not alone.
-/
theorem points_differ_from_scalar_reads
    : (sample "points").scalarSource.points "v" [[0, 0]] = .ok [1.0]
      ∧ (sample "points").source.points "v" [[0, 0]]
        = readFailure "batched read of 'v'" "" (some .badValue)
      ∧ unwieldy.source.points "c" [[0]] = .ok [1.0]
      ∧ unwieldy.scalarSource.points "c" [[0]] = raiseFault .badType :=
  ⟨rfl, rfl, rfl, rfl⟩

end Dataset

end GridTable
