import GridTable.Matching

/-! Which positions of coordinates match, alone and in pairs.
-/

namespace GridTable.Matching

/-- The coordinate at an index. -/
def coordinateAt (coordinates : Array Float) (index : Int) : Float :=
  coordinates.getD index.toNat 0.0

/-- The positions found are those in range whose coordinate passes the test. -/
theorem mem_positions {test : Float → Bool} {coordinates : Array Float} {index : Int}
    : index ∈ positions test coordinates
      ↔ (0 ≤ index ∧ index < coordinates.size) ∧ test (coordinateAt coordinates index) := by
  rw [positions, IndexSet.mem_filter, IndexSet.mem_below]
  refine and_congr_right fun ⟨low, high⟩ => ?_
  have inside : index.toNat < coordinates.size := by omega
  simp [coordinateAt, inside]

theorem mem_pairsNear {first second : Array Float} {tolerance : Float} {point : Float × Float}
    {i j : Int}
    : (i, j) ∈ pairsNear first second tolerance point
      ↔ i ∈ positions (isNear point.1 tolerance) first
        ∧ j ∈ positions (isNear point.2 tolerance) second := by
  simp [pairsNear, IndexSet.mem_def]

theorem mem_pairsNearAny {first second : Array Float} {points : List (Float × Float)}
    {tolerance : Float} {i j : Int}
    : (i, j) ∈ pairsNearAny first second points tolerance
      ↔ ∃ point ∈ points,
          i ∈ positions (isNear point.1 tolerance) first
          ∧ j ∈ positions (isNear point.2 tolerance) second := by
  simp only [pairsNearAny, List.mem_flatMap, mem_pairsNear]

theorem isBetween_iff {low high coordinate : Float}
    : isBetween low high coordinate ↔ low ≤ coordinate ∧ coordinate ≤ high := by
  simp [isBetween]

theorem isOneOf_iff {values : List Float} {tolerance coordinate : Float}
    : isOneOf values tolerance coordinate
      ↔ ∃ value ∈ values,
          if tolerance == 0.0 then coordinate == value
          else (coordinate - value).abs ≤ tolerance := by
  rw [isOneOf]
  split <;> simp [isNear]

/-- Positions in range are found just if their coordinates are near some point. -/
theorem mem_pairsNearAny_of_inside {first second : Array Float}
    (points : List (Float × Float)) (tolerance : Float) {i j : Int}
    (hi : 0 ≤ i ∧ i < first.size) (hj : 0 ≤ j ∧ j < second.size)
    : (i, j) ∈ pairsNearAny first second points tolerance
      ↔ ∃ point ∈ points,
          (coordinateAt first i - point.1).abs ≤ tolerance
          ∧ (coordinateAt second j - point.2).abs ≤ tolerance := by
  simp only [mem_pairsNearAny, mem_positions, and_iff_right hi, and_iff_right hj, isNear,
    decide_eq_true_eq]

end GridTable.Matching
